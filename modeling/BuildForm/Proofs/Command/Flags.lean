import BuildForm.Command.Arguments
import Mathlib.Tactic.SplitIfs

/-
  Where the settings of a run stand in its arguments.

  Every setting that is read from a list of arguments was
  given by one of them. A flag without a letter is given by
  its name alone, or by its name with a value after an equals
  sign, so that a run concludes only as it was told.

  Main declarations:
    * `Arguments.Gives`
    * `Arguments.exists_gives_of_scan`
    * `Arguments.Concludes`
    * `Arguments.exists_concludes`
-/

------------------------------------------------------------
-- Single Arguments
------------------------------------------------------------

namespace BuildForm

theorem Text.eq_append_of_cutAt?
    {mark : Char}
    {text before after : List Char}
    (hCut : cutAt? mark text = some (before, after)) :
    text = before ++ mark :: after := by
  induction text generalizing before with
  | nil => cases hCut
  | cons c rest ih =>
      rw [cutAt?] at hCut
      split at hCut
      · rename_i hMark
        cases hCut
        rw [hMark]
        rfl
      · rcases Option.map_eq_some_iff.mp hCut with
          ⟨⟨lead, tail⟩, hRest, hParts⟩
        cases hParts
        rw [ih hRest]
        rfl

namespace Flag

theorem name_of_ofName?
    {name : List Char}
    {flag : Flag}
    (hFlag : ofName? name = some flag) :
    flag.name.toList = name := by
  simpa using List.find?_some hFlag

theorem letter?_of_ofLetter?
    {letter : Char}
    {flag : Flag}
    (hFlag : ofLetter? letter = some flag) :
    flag.letter? = some letter := by
  simpa using List.find?_some hFlag

end Flag

namespace Arguments

namespace Token

/- A flag that is given by its letter has one. -/
theorem letter?_of_ofShort
    {letter : Char}
    {rest : List Char}
    {flag : Flag}
    (hRead :
      ofShort letter rest = .flag flag ∨
        ∃ value, ofShort letter rest = .assigned flag value) :
    flag.letter? = some letter := by
  unfold ofShort at hRead
  cases hFlag : Flag.ofLetter? letter with
  | none => simp [hFlag] at hRead
  | some named =>
      have hNamed : named = flag := by
        simp only [hFlag] at hRead
        split at hRead
        · rcases hRead with hRead | ⟨value, hRead⟩
          · cases hRead
          · exact (Token.assigned.inj hRead).1
        · rcases hRead with hRead | ⟨value, hRead⟩
          · exact Token.flag.inj hRead
          · cases hRead
      rw [← hNamed]
      exact Flag.letter?_of_ofLetter? hFlag

variable {argument value : String}
variable {flag : Flag}

/- A flag without a letter is given by its name. -/
theorem argument_eq_of_flag
    (hRead : ofArgument argument = .flag flag)
    (hLong : flag.letter? = none) :
    argument = flag.shown := by
  unfold ofArgument at hRead
  split at hRead
  · cases hRead
  · rename_i body _ hText
    unfold ofLong at hRead
    cases hCut : Text.cutAt? '=' body with
    | none =>
        cases hFlag : Flag.ofName? body with
        | none => simp [hCut, hFlag] at hRead
        | some named =>
            simp only [hCut, hFlag] at hRead
            cases hRead
            apply String.toList_inj.mp
            rw [hText, ← Flag.name_of_ofName? hFlag, Flag.shown,
              String.toList_append]
            rfl
    | some parts =>
        cases hFlag : Flag.ofName? parts.1 <;>
          simp [hCut, hFlag] at hRead
  · have hLetter := letter?_of_ofShort (Or.inl hRead)
    rw [hLong] at hLetter
    cases hLetter
  · cases hRead

/- Its value, if any, follows an equals sign. -/
theorem argument_eq_of_assigned
    (hRead : ofArgument argument = .assigned flag value)
    (hLong : flag.letter? = none) :
    argument = flag.shown ++ "=" ++ value := by
  unfold ofArgument at hRead
  split at hRead
  · cases hRead
  · rename_i body _ hText
    unfold ofLong at hRead
    cases hCut : Text.cutAt? '=' body with
    | none =>
        cases hFlag : Flag.ofName? body <;>
          simp [hCut, hFlag] at hRead
    | some parts =>
        rcases parts with ⟨name, rest⟩
        cases hFlag : Flag.ofName? name with
        | none => simp [hCut, hFlag] at hRead
        | some named =>
            simp only [hCut, hFlag] at hRead
            cases hRead
            apply String.toList_inj.mp
            rw [hText, Text.eq_append_of_cutAt? hCut,
              ← Flag.name_of_ofName? hFlag, Flag.shown]
            simp [String.toList_append]
  · have hLetter := letter?_of_ofShort (Or.inr ⟨value, hRead⟩)
    rw [hLong] at hLetter
    cases hLetter
  · cases hRead

end Token

/- Whether an argument gives a flag, with or without a value. -/
def Gives (argument : String) (flag : Flag) : Prop :=
  Token.ofArgument argument = .flag flag ∨
    flag.takesValue ∧
      ∃ value, Token.ofArgument argument = .assigned flag value

/- How a flag without a letter is written. -/
theorem Gives.argument_eq
    {argument : String}
    {flag : Flag}
    (hGives : Gives argument flag)
    (hLong : flag.letter? = none) :
    argument = flag.shown ∨
      flag.takesValue ∧
        ∃ value, argument = flag.shown ++ "=" ++ value := by
  rcases hGives with hRead | ⟨hTakes, value, hRead⟩
  · exact Or.inl (Token.argument_eq_of_flag hRead hLong)
  · right
    exact
      ⟨hTakes, value, Token.argument_eq_of_assigned hRead hLong⟩

end Arguments

end BuildForm

------------------------------------------------------------
-- Lists of Arguments
------------------------------------------------------------

namespace BuildForm

namespace Arguments

variable {given noted settings : List Setting}
variable {flag : Flag}
variable {argument value : String}
variable {arguments rest later : List String}
variable {setting : Setting}

theorem eq_of_note
    (hNote : note given flag value = .ok noted) :
    noted = given ++ [⟨flag, value⟩] := by
  unfold note at hNote
  split at hNote
  · cases hNote
  · split at hNote
    · cases hNote
    · exact (Except.ok.inj hNote).symm

/- What an argument notes down, that argument gives. -/
theorem exists_gives_of_note
    (hNote : note given flag value = .ok noted)
    (hGives : Gives argument flag)
    (hLater : later ⊆ rest)
    (hSetting :
      setting ∈ noted ∨
        ∃ other ∈ later, Gives other setting.flag) :
    setting ∈ given ∨
      ∃ other ∈ argument :: rest, Gives other setting.flag := by
  rcases hSetting with hNoted | ⟨other, hOther, hFlag⟩
  · rw [eq_of_note hNote, List.mem_append,
      List.mem_singleton] at hNoted
    rcases hNoted with hGiven | rfl
    · exact Or.inl hGiven
    · exact Or.inr ⟨argument, List.mem_cons_self, hGives⟩
  · right
    exact
      ⟨other, List.mem_cons_of_mem argument (hLater hOther),
        hFlag⟩

/- Every setting that is read was given by an argument. -/
theorem exists_gives_of_scan
    (hScan : scan given arguments = .ok (.settings settings))
    (hSetting : setting ∈ settings) :
    setting ∈ given ∨
      ∃ argument ∈ arguments, Gives argument setting.flag := by
  fun_induction scan given arguments with
  | case1 given =>
      cases hScan
      exact Or.inl hSetting
  | case3 given argument hRead =>
      cases hScan
      exact Or.inl hSetting
  | case7 given argument flag _ _ hRead _ =>
      rcases hNote : note given flag "" with fault | noted
      · rw [hNote] at hScan
        cases hScan
      · rw [hNote] at hScan
        cases hScan
        exact
          exists_gives_of_note hNote (Or.inl hRead)
            (List.Subset.refl []) (Or.inl hSetting)
  | case8 given argument flag value hRead hTakes =>
      rcases hNote : note given flag value with fault | noted
      · rw [hNote] at hScan
        cases hScan
      · rw [hNote] at hScan
        cases hScan
        exact
          exists_gives_of_note hNote
            (Or.inr ⟨hTakes, value, hRead⟩)
            (List.Subset.refl []) (Or.inl hSetting)
  | case15 given argument next rest flag _ _ hRead _ noted hNote
      ih =>
      exact
        exists_gives_of_note hNote (Or.inl hRead)
          (List.Subset.refl _) (ih hScan)
  | case17 given argument next rest flag _ _ hRead _ _ noted
      hNote ih =>
      exact
        exists_gives_of_note hNote (Or.inl hRead)
          (List.subset_cons_self next rest) (ih hScan)
  | case20 given argument next rest flag value hRead hTakes
      noted hNote ih =>
      exact
        exists_gives_of_note hNote
          (Or.inr ⟨hTakes, value, hRead⟩)
          (List.Subset.refl _) (ih hScan)
  | _ => cases hScan

end Arguments

end BuildForm

------------------------------------------------------------
-- Conclusions
------------------------------------------------------------

namespace BuildForm

namespace Arguments

/- The arguments that ask for something to be sent. -/
def Concludes (argument : String) : Prop :=
  argument = "--submit" ∨ argument = "--approve" ∨
    argument = "--reject" ∨
      ∃ reason, argument = "--reject=" ++ reason

theorem Gives.concludes
    {argument : String}
    {flag : Flag}
    (hGives : Gives argument flag)
    (hFlag : flag = .submit ∨ flag = .approve ∨ flag = .reject) :
    Concludes argument := by
  rcases hFlag with rfl | rfl | rfl
  · rcases hGives.argument_eq rfl with hName | ⟨hTakes, _⟩
    · exact Or.inl hName
    · cases hTakes
  · rcases hGives.argument_eq rfl with hName | ⟨hTakes, _⟩
    · exact Or.inr (Or.inl hName)
    · cases hTakes
  · rcases hGives.argument_eq rfl with hName | ⟨_, hValue⟩
    · exact Or.inr (Or.inr (Or.inl hName))
    · exact Or.inr (Or.inr (Or.inr hValue))

/- Where a run concludes, a flag that says so was given. -/
theorem exists_setting_of_conclusion
    {settings : List Setting}
    {parsed : Arguments}
    (hRead : ofSettings settings = .ok parsed)
    (hConclusion : parsed.conclusion ≠ .keep) :
    ∃ setting ∈ settings,
      setting.flag = .submit ∨ setting.flag = .approve ∨
        setting.flag = .reject := by
  have hGiven :
      ∀ flag : Flag,
        settings.any (·.flag = flag) →
        ∃ setting ∈ settings, setting.flag = flag := by
    intro flag hAny
    simpa using hAny
  unfold ofSettings at hRead
  dsimp only at hRead
  split at hRead
  · cases hRead
  · split at hRead
    · cases hRead
    · cases hRead
      dsimp only at hConclusion
      split_ifs at hConclusion with hSubmit hApprove
      · rcases hGiven .submit hSubmit with
          ⟨setting, hSetting, hFlag⟩
        exact ⟨setting, hSetting, Or.inl hFlag⟩
      · rcases hGiven .approve hApprove with
          ⟨setting, hSetting, hFlag⟩
        exact ⟨setting, hSetting, Or.inr (Or.inl hFlag)⟩
      · split at hConclusion
        · rename_i reason hReject
          rcases List.mem_map.mp (List.mem_of_head? hReject) with
            ⟨setting, hSetting, _⟩
          rw [List.mem_filter] at hSetting
          exact
            ⟨setting, hSetting.1,
              Or.inr (Or.inr (by simpa using hSetting.2))⟩
        · exact absurd rfl hConclusion

/- A run concludes only if one of its arguments says so. -/
theorem exists_concludes
    {arguments : List String}
    {parsed : Arguments}
    (hRead : read arguments = .ok (.run parsed))
    (hConclusion : parsed.conclusion ≠ .keep) :
    ∃ argument ∈ arguments, Concludes argument := by
  unfold read at hRead
  split at hRead
  · cases hRead
  · cases hRead
  · cases hRead
  · rename_i settings hScan
    rcases hSettings : ofSettings settings with fault | made
    · rw [hSettings] at hRead
      cases hRead
    · rw [hSettings] at hRead
      cases hRead
      rcases exists_setting_of_conclusion hSettings hConclusion
        with ⟨setting, hSetting, hFlag⟩
      rcases exists_gives_of_scan hScan hSetting with
        hGiven | ⟨argument, hArgument, hGives⟩
      · cases hGiven
      · exact ⟨argument, hArgument, hGives.concludes hFlag⟩

end Arguments

end BuildForm
