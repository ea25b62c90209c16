import BuildForm.Document.Basic
import BuildForm.Document.Records

/-
  Writing configurations as documents: no format fails.

  JSON and YAML write every value. TOML has no null, so that
  the fields of a record that are not set are left out first;
  what is left is *writable*.

  Main declarations:
    * `Value.Writable`
    * `Toml.exists_render?`
    * `Document.exists_renderRecord`
-/

------------------------------------------------------------
-- Writable Values
------------------------------------------------------------

namespace BuildForm

namespace Value

/- A value that holds neither null nor a number. -/
inductive Writable : Value → Prop where
  | flag {value} : Writable (.flag value)
  | text {value} : Writable (.text value)
  | list {items} :
      (∀ item ∈ items, Writable item) →
      Writable (.list items)
  | table {fields} :
      (∀ field ∈ fields, Writable field.2) →
      Writable (.table fields)

theorem writable_itemsWithoutNulls
    (items : List Value)
    (hEach : ∀ item ∈ items, item.withoutNulls.Writable) :
    ∀ item ∈ itemsWithoutNulls items, item.Writable := by
  induction items with
  | nil => simp [itemsWithoutNulls]
  | cons item items ih =>
      have hRest := ih fun member hMember =>
        hEach member (by simp [hMember])
      simpa [itemsWithoutNulls, hEach item] using hRest

theorem writable_fieldsWithoutNulls
    (fields : List (String × Value))
    (hEach :
      ∀ field ∈ fields,
        field.2 = .null ∨ field.2.withoutNulls.Writable) :
    ∀ field ∈ fieldsWithoutNulls fields,
      field.2.Writable := by
  induction fields with
  | nil => simp [fieldsWithoutNulls]
  | cons field fields ih =>
      have hRest := ih fun member hMember =>
        hEach member (by simp [hMember])
      rcases field with ⟨key, value⟩
      cases value with
      | null => simpa [fieldsWithoutNulls] using hRest
      | _ =>
          have hFirst := hEach _ List.mem_cons_self
          simp only [reduceCtorEq, false_or] at hFirst
          intro member hMember
          rcases List.mem_cons.mp hMember with rfl | hMember
          · exact hFirst
          · exact hRest member hMember

theorem writable_withoutNulls_map
    {α : Type}
    (write : α → Value)
    (items : List α)
    (hEach : ∀ item, (write item).withoutNulls.Writable) :
    (list (items.map write)).withoutNulls.Writable := by
  apply Writable.list
  apply writable_itemsWithoutNulls
  intro value hValue
  rcases List.mem_map.mp hValue with ⟨item, _, rfl⟩
  exact hEach item

/- A table may set any of its fields to null. -/
theorem writable_withoutNulls_table
    (fields : List (String × Value))
    (hEach :
      ∀ field ∈ fields,
        field.2 = .null ∨ field.2.withoutNulls.Writable) :
    (table fields).withoutNulls.Writable :=
  Writable.table (writable_fieldsWithoutNulls fields hEach)

end Value

------------------------------------------------------------
-- Records
------------------------------------------------------------

namespace Value

@[simp] theorem writable_withoutNulls_text (value : String) :
    (text value).withoutNulls.Writable :=
  Writable.text

@[simp] theorem writable_withoutNulls_texts
    (items : List String) :
    (texts items).withoutNulls.Writable :=
  writable_withoutNulls_map .text items fun _ =>
    Writable.text

@[simp] theorem textOrNull_null_or_writable
    (value : Option String) :
    textOrNull value = .null ∨
      (textOrNull value).withoutNulls.Writable := by
  cases value with
  | none => exact Or.inl rfl
  | some value => exact Or.inr Writable.text

@[simp] theorem flagOrNull_null_or_writable
    (value : Option Bool) :
    flagOrNull value = .null ∨
      (flagOrNull value).withoutNulls.Writable := by
  cases value with
  | none => exact Or.inl rfl
  | some value => exact Or.inr Writable.flag

theorem writable_withoutNulls_flags (flags : Table Bool) :
    (ofTable .flag flags).withoutNulls.Writable := by
  apply writable_withoutNulls_table
  intro field hField
  rcases List.mem_map.mp hField with ⟨entry, _, rfl⟩
  exact Or.inr Writable.flag

end Value

theorem BuilderRecord.writable_toValue
    (builder : BuilderRecord) :
    builder.toValue.withoutNulls.Writable :=
  Value.writable_withoutNulls_table _ (by simp)

theorem ViewRecord.writable_toValue (view : ViewRecord) :
    view.toValue.withoutNulls.Writable := by
  have hBuilders :=
    Value.writable_withoutNulls_map BuilderRecord.toValue
      view.builders fun builder => builder.writable_toValue
  exact Value.writable_withoutNulls_table _
    (by simp [hBuilders])

theorem Configuration.writable_toValue
    (config : Configuration) :
    config.toValue.withoutNulls.Writable := by
  have hViews :=
    Value.writable_withoutNulls_map ViewRecord.toValue
      config.views fun view => view.writable_toValue
  have hMachines :=
    Value.writable_withoutNulls_flags config.buildMachines
  exact Value.writable_withoutNulls_table _
    (by simp [hViews, hMachines])

end BuildForm

------------------------------------------------------------
-- TOML
------------------------------------------------------------

namespace BuildForm

namespace Toml

variable (pretty : Bool)

theorem exists_inlineItems?
    (items : List Value)
    (hEach :
      ∀ item ∈ items,
        ∃ text, inlineText? pretty item = some text) :
    ∃ texts, inlineItems? pretty items = some texts := by
  induction items with
  | nil => exact ⟨[], rfl⟩
  | cons item items ih =>
      rcases hEach item (by simp) with ⟨text, hText⟩
      rcases ih fun member hMember =>
        hEach member (by simp [hMember]) with ⟨texts, hTexts⟩
      exact ⟨text :: texts, by
        simp [inlineItems?, hText, hTexts]⟩

theorem exists_inlineFields?
    (fields : List (String × Value))
    (hEach :
      ∀ field ∈ fields,
        ∃ text, inlineText? pretty field.2 = some text) :
    ∃ texts, inlineFields? pretty fields = some texts := by
  induction fields with
  | nil => exact ⟨[], rfl⟩
  | cons field fields ih =>
      rcases hEach field (by simp) with ⟨text, hText⟩
      rcases ih fun member hMember =>
        hEach member (by simp [hMember]) with ⟨texts, hTexts⟩
      exact ⟨_, by simp [inlineFields?, hText, hTexts]; rfl⟩

/- A writable value can stand behind an equals sign. -/
theorem exists_inlineText?
    {value : Value}
    (hWritable : value.Writable) :
    ∃ text, inlineText? pretty value = some text := by
  induction hWritable with
  | @flag value =>
      cases value with
      | true => exact ⟨_, rfl⟩
      | false => exact ⟨_, rfl⟩
  | text => exact ⟨_, rfl⟩
  | list _ ih =>
      rcases exists_inlineItems? pretty _ ih with
        ⟨texts, hTexts⟩
      exact ⟨arrayText pretty texts, by
        simp [inlineText?, hTexts]⟩
  | table _ ih =>
      rcases exists_inlineFields? pretty _ ih with
        ⟨texts, hTexts⟩
      exact ⟨inlineTableText texts, by
        simp [inlineText?, hTexts]⟩

theorem exists_linesText?
    (fields : List (String × Value))
    (hEach : ∀ field ∈ fields, field.2.Writable) :
    ∃ lines, linesText? pretty fields = some lines := by
  induction fields with
  | nil => exact ⟨[], rfl⟩
  | cons field fields ih =>
      rcases exists_inlineText? pretty
        (hEach field (by simp)) with ⟨text, hText⟩
      rcases ih fun member hMember =>
        hEach member (by simp [hMember]) with ⟨lines, hLines⟩
      exact ⟨_, by simp [linesText?, hText, hLines]; rfl⟩

theorem exists_linesText?_lineFields
    (fields : List (String × Value))
    (hEach : ∀ field ∈ fields, field.2.Writable) :
    ∃ lines,
      linesText? pretty (lineFields fields) = some lines := by
  apply exists_linesText?
  intro field hField
  exact hEach field (List.mem_filter.mp hField).1

theorem exists_innerSections?
    (fields : List (String × Value))
    (hEach :
      ∀ field ∈ fields, ∀ path,
        ∃ inner, sections? pretty path field.2 = some inner)
    (path : List String) :
    ∃ inner,
      innerSections? pretty path fields = some inner := by
  induction fields with
  | nil => exact ⟨[], rfl⟩
  | cons field fields ih =>
      rcases hEach field (by simp) (path ++ [field.1]) with
        ⟨first, hFirst⟩
      rcases ih fun member hMember =>
        hEach member (by simp [hMember]) with
        ⟨others, hOthers⟩
      exact ⟨first ++ others, by
        simp [innerSections?, hFirst, hOthers]⟩

/-
  The sections of an array are those of the tables in it, and
  a table has sections of its own inside and outside of one.
-/
theorem exists_arraySections?
    (items : List Value)
    (path : List String)
    (hEach :
      ∀ fields, Value.table fields ∈ items →
        ∃ own inner,
          arrayTableSection? pretty path fields = some own ∧
          innerSections? pretty path fields = some inner) :
    ∃ sections,
      arraySections? pretty path items = some sections := by
  induction items with
  | nil => exact ⟨[], rfl⟩
  | cons item items ih =>
      rcases ih fun fields hMember =>
        hEach fields (by simp [hMember]) with
        ⟨others, hOthers⟩
      cases item with
      | table fields =>
          rcases hEach fields (by simp) with
            ⟨own, inner, hOwn, hInner⟩
          exact ⟨own :: inner ++ others, by
            simp [arraySections?, hOwn, hInner, hOthers]⟩
      | _ => exact ⟨others, by simpa [arraySections?]⟩

/-
  A writable value has sections wherever it stands. The
  tables of an array are reached past the array, so that the
  induction also carries the sections inside of a table.
-/
theorem exists_sections?_and_inner
    {value : Value}
    (hWritable : value.Writable) :
    (∀ path,
      ∃ sections, sections? pretty path value = some sections) ∧
    (∀ fields, value = .table fields → ∀ path,
      ∃ inner,
        innerSections? pretty path fields = some inner) := by
  induction hWritable with
  | flag => exact ⟨fun _ => ⟨[], rfl⟩, by simp⟩
  | text => exact ⟨fun _ => ⟨[], rfl⟩, by simp⟩
  | @list items hItems ih =>
      refine ⟨?_, by simp⟩
      intro path
      by_cases hTables : items.all isTable
      · rcases exists_arraySections? pretty items path
            (fun fields hMember => by
              rcases (ih _ hMember).2 fields rfl path with
                ⟨inner, hInner⟩
              cases hItems _ hMember with
              | table hFields =>
                rcases exists_linesText?_lineFields pretty
                  fields hFields with ⟨lines, hLines⟩
                exact ⟨_, inner, by
                  simp [arrayTableSection?, hLines]; rfl,
                  hInner⟩) with
          ⟨sections, hSections⟩
        exact ⟨sections, by simp [sections?, hTables, hSections]⟩
      · exact ⟨[], by simp [sections?, hTables]⟩
  | @table fields hFields ih =>
      have hInside : ∀ path,
          ∃ inner,
            innerSections? pretty path fields = some inner :=
        exists_innerSections? pretty fields
          fun field hField => (ih field hField).1
      refine ⟨?_, ?_⟩
      · intro path
        rcases exists_linesText?_lineFields pretty fields
          hFields with ⟨lines, hLines⟩
        rcases hInside path with ⟨inner, hInner⟩
        exact ⟨_, by
          simp [sections?, tableSection?, hLines, hInner]; rfl⟩
      · intro _ hEq
        cases hEq
        exact hInside

/- A writable table is written as a document. -/
theorem exists_render?
    {fields : List (String × Value)}
    (hWritable : (Value.table fields).Writable) :
    ∃ text, render? pretty (.table fields) = some text := by
  have hFields : ∀ field ∈ fields, field.2.Writable := by
    cases hWritable
    assumption
  rcases exists_linesText?_lineFields pretty fields hFields with
    ⟨lines, hLines⟩
  rcases (exists_sections?_and_inner pretty hWritable).2
    fields rfl [] with ⟨inner, hInner⟩
  exact ⟨_, by simp [render?, hLines, hInner]; rfl⟩

end Toml

------------------------------------------------------------
-- Documents
------------------------------------------------------------

namespace Document

/- Every configuration can be written in every format. -/
theorem exists_renderRecord
    (format : Format)
    (config : Configuration) :
    ∃ text,
      renderRecord format true config.toValue = .ok text := by
  cases format with
  | json => exact ⟨_, rfl⟩
  | yaml => exact ⟨_, rfl⟩
  | toml =>
      have hRender :
          ∃ text,
            Toml.render? true config.toValue.withoutNulls =
              some text :=
        Toml.exists_render? true config.writable_toValue
      rcases hRender with ⟨text, hText⟩
      exact ⟨String.ofList text, by
        unfold renderRecord render
        simp only [if_true]
        rw [hText]⟩

end Document

end BuildForm
