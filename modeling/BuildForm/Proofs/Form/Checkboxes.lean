import Mathlib.Data.List.Nodup
import BuildForm.Form.Machines
import BuildForm.Proofs.Form.Reopen
import BuildForm.Proofs.Form.Stripping

/-
  The checkboxes of the machines and the hidden input that
  lists the checked ones.

  Both are changed side by side: the boxes in a table, and
  the list as a text out of which names are cut. What is done
  to them comes down to single marks, each of which sets one
  box or clears them all. After any marks the list has the
  checked machines in the order in which they were last
  checked, as long as no name lies within another.

  Main declarations:
    * `Machines.Change`
    * `Machines.Mark`
    * `Machines.LastChecked`
    * `Machines.Mirrors`
    * `Machines.Mirrors.mark`
    * `Machines.list_mirrors_checkboxes`
-/

------------------------------------------------------------
-- Marks
------------------------------------------------------------

namespace BuildForm

namespace Machines

/- What can be done to the checkboxes. -/
inductive Change where
  | toggle (node : String) (checked : Bool)
  | load (stored : Table Bool)

def change (machines : Machines) : Change → Machines
  | .toggle node checked => machines.toggle node checked
  | .load stored => machines.load stored

/- The machines after the changes in turn. -/
def changeAll
    (machines : Machines)
    (changes : List Change) : Machines :=
  changes.foldl change machines

/- What happens to single boxes: all are cleared, or one is set. -/
inductive Mark where
  | clear
  | set (node : String) (checked : Bool)

namespace Mark

/- The machine whose box is set. -/
def node? : Mark → Option String
  | .clear => none
  | .set node _ => some node

/- Whether the box of a machine is checked after a mark. -/
def applyTo (node : String) (checked : Bool) : Mark → Bool
  | .clear => false
  | .set other value => if other = node then value else checked

end Mark

/- A stored record clears the boxes and then sets its own. -/
def Change.marks : Change → List Mark
  | .toggle node checked => [.set node checked]
  | .load stored =>
      .clear :: stored.entries.map fun entry =>
        .set entry.1 entry.2

/- All that happens to the boxes in the course of changes. -/
def history (changes : List Change) : List Mark :=
  changes.flatMap Change.marks

/- The machines in the order in which they come up. -/
def seen
    (nodes : List String)
    (marks : List Mark) : List String :=
  nodes ++ marks.filterMap Mark.node?

/- Whether a box is checked after the marks; at first none is. -/
def isCheckedAfter
    (marks : List Mark)
    (node : String) : Bool :=
  marks.foldl (fun checked mark => mark.applyTo node checked)
    false

/-
  The mark at the moment checked the box of a machine, and it
  has been checked since.
-/
structure LastChecked
    (marks : List Mark)
    (node : String)
    (moment : Nat) : Prop where
  early : moment < marks.length
  unchecked : ¬isCheckedAfter (marks.take moment) node
  since :
    ∀ later,
      moment < later →
      later ≤ marks.length →
      isCheckedAfter (marks.take later) node

/- One machine was last checked before another one was. -/
def CheckedBefore
    (marks : List Mark)
    (node other : String) : Prop :=
  ∃ moment later,
    moment < later ∧
      LastChecked marks node moment ∧
      LastChecked marks other later

variable {marks : List Mark}
variable {node other : String}
variable {moment : Nat}

theorem isCheckedAfter_concat
    (marks : List Mark)
    (mark : Mark)
    (node : String) :
    isCheckedAfter (marks ++ [mark]) node =
      mark.applyTo node (isCheckedAfter marks node) := by
  unfold isCheckedAfter
  rw [List.foldl_append]
  rfl

theorem isCheckedAfter_set
    (marks : List Mark)
    (node : String)
    (checked : Bool)
    (other : String) :
    isCheckedAfter (marks ++ [.set node checked]) other =
      if node = other then
        checked
      else
        isCheckedAfter marks other :=
  isCheckedAfter_concat marks (.set node checked) other

/- A box that stays checked is not checked anew. -/
theorem LastChecked.concat
    (hChecked : LastChecked marks node moment)
    {mark : Mark}
    (hStays : isCheckedAfter (marks ++ [mark]) node) :
    LastChecked (marks ++ [mark]) node moment where
  early := by
    rw [List.length_append]
    exact Nat.lt_add_right 1 hChecked.early
  unchecked := by
    rw [List.take_append_of_le_length hChecked.early.le]
    exact hChecked.unchecked
  since := by
    intro later hLater hBound
    by_cases hOld : later ≤ marks.length
    · rw [List.take_append_of_le_length hOld]
      exact hChecked.since later hLater hOld
    · have hAll : (marks ++ [mark]).length ≤ later := by
        rw [List.length_append, List.length_singleton]
        omega
      rwa [List.take_of_length_le hAll]

/- A mark may check a box that was not checked. -/
theorem lastChecked_length
    {mark : Mark}
    (hBefore : ¬isCheckedAfter marks node)
    (hAfter : isCheckedAfter (marks ++ [mark]) node) :
    LastChecked (marks ++ [mark]) node marks.length where
  early := by simp
  unchecked := by
    rwa [List.take_left]
  since := by
    intro later hLater _
    have hAll : (marks ++ [mark]).length ≤ later := by
      rwa [List.length_append, List.length_singleton]
    rwa [List.take_of_length_le hAll]

/- A checked box was checked at some moment. -/
theorem exists_lastChecked
    (hChecked : isCheckedAfter marks node) :
    ∃ moment, LastChecked marks node moment := by
  induction marks using List.reverseRecOn with
  | nil => exact absurd hChecked (by simp [isCheckedAfter])
  | append_singleton marks mark ih =>
      by_cases hBefore : isCheckedAfter marks node
      · rcases ih hBefore with ⟨moment, hMoment⟩
        exact ⟨moment, hMoment.concat hChecked⟩
      · exact ⟨marks.length, lastChecked_length hBefore hChecked⟩

/- There is no other such moment. -/
theorem LastChecked.unique
    {later : Nat}
    (hMoment : LastChecked marks node moment)
    (hLater : LastChecked marks node later) :
    moment = later := by
  rcases Nat.lt_trichotomy moment later with hLt | hSame | hGt
  · exact absurd (hMoment.since later hLt hLater.early.le)
      hLater.unchecked
  · exact hSame
  · exact absurd (hLater.since moment hGt hMoment.early.le)
      hMoment.unchecked

theorem CheckedBefore.concat
    (hBefore : CheckedBefore marks node other)
    {mark : Mark}
    (hNode : isCheckedAfter (marks ++ [mark]) node)
    (hOther : isCheckedAfter (marks ++ [mark]) other) :
    CheckedBefore (marks ++ [mark]) node other := by
  rcases hBefore with ⟨moment, later, hLater, hFirst, hSecond⟩
  exact
    ⟨moment, later, hLater, hFirst.concat hNode,
      hSecond.concat hOther⟩

end Machines

end BuildForm

------------------------------------------------------------
-- Changes as Marks
------------------------------------------------------------

namespace BuildForm

namespace Machines

/- The machines after a mark. -/
def mark (machines : Machines) : Mark → Machines
  | .clear =>
      { nodes := machines.nodes.mapValues fun _ => false }
  | .set node checked => machines.toggle node checked

def markAll
    (machines : Machines)
    (marks : List Mark) : Machines :=
  marks.foldl mark machines

variable {machines : Machines}
variable {node : String}

theorem toggle_of_same
    {checked : Bool}
    (hSame : machines.isChecked node = checked) :
    machines.toggle node checked =
      { machines with
        nodes := machines.nodes.putNew node false } :=
  if_pos hSame

theorem toggle_check
    (hOff : machines.isChecked node = false) :
    machines.toggle node true =
      { nodes := machines.nodes.put node true
        hidden := machines.hidden.push node } := by
  simp [toggle, hOff]

theorem toggle_uncheck
    (hOn : machines.isChecked node = true) :
    machines.toggle node false =
      { nodes := machines.nodes.put node false
        hidden := machines.hidden.remove node } := by
  simp [toggle, hOn]

/- Setting a box sets that one and leaves the others. -/
theorem isChecked_toggle
    (machines : Machines)
    (node : String)
    (checked : Bool)
    (other : String) :
    (machines.toggle node checked).isChecked other =
      if node = other then
        checked
      else
        machines.isChecked other := by
  unfold toggle
  split
  · rename_i hSame
    unfold isChecked Table.putNew
    split
    · split
      · rename_i hOther
        rw [← hOther]
        exact hSame
      · rfl
    · rename_i hNew
      dsimp only
      rw [Table.find?_put]
      by_cases hOther : other = node
      · subst hOther
        rw [if_pos rfl, if_pos rfl, ← hSame, isChecked,
          machines.nodes.find?_of_not_mem hNew]
        rfl
      · rw [if_neg hOther, if_neg (Ne.symm hOther)]
  · unfold isChecked
    dsimp only
    rw [Table.find?_put]
    by_cases hOther : other = node
    · simp [hOther]
    · simp [hOther, Ne.symm hOther]

/- The machine of a box that is set is known from then on. -/
theorem keys_toggle
    (machines : Machines)
    (node : String)
    (checked : Bool) :
    (machines.toggle node checked).nodes.keys =
      if node ∈ machines.nodes.keys then
        machines.nodes.keys
      else
        machines.nodes.keys ++ [node] := by
  unfold toggle
  split
  · rw [Table.keys_putNew, Table.keys_put]
  · exact Table.keys_put machines.nodes node checked

/- Boxes that are cleared are not checked. -/
theorem isChecked_clear
    (machines : Machines)
    (node : String) :
    (machines.mark .clear).isChecked node = false := by
  cases hFound : (machines.mark .clear).nodes.find? node with
  | none => simp [isChecked, hFound]
  | some checked =>
      have hEntry :=
        (Table.find?_eq_some_iff _).mp hFound
      rcases List.mem_map.mp hEntry with ⟨entry, _, hSame⟩
      cases hSame
      simp [isChecked, hFound]

/- A stored box is set like any other while it is clear. -/
theorem loadNode_eq_toggle
    (hOff : machines.isChecked node = false)
    (selected : Bool) :
    machines.loadNode node selected =
      machines.toggle node selected := by
  cases selected with
  | true => exact (toggle_check hOff).symm
  | false => exact (toggle_of_same hOff).symm

theorem loadNodes_eq_markAll
    (machines : Machines)
    {entries : List (String × Bool)}
    (hNodup : (Entries.keys entries).Nodup)
    (hOff :
      ∀ entry ∈ entries, machines.isChecked entry.1 = false) :
    entries.foldl
        (fun machines entry =>
          machines.loadNode entry.1 entry.2)
        machines =
      machines.markAll
        (entries.map fun entry => .set entry.1 entry.2) := by
  induction entries generalizing machines with
  | nil => rfl
  | cons entry entries ih =>
      rcases List.nodup_cons.mp hNodup with ⟨hNew, hOthers⟩
      rcases List.forall_mem_cons.mp hOff with ⟨hFirst, hRest⟩
      rw [List.foldl_cons, loadNode_eq_toggle hFirst]
      apply ih _ hOthers
      intro other hOther
      have hNe : entry.1 ≠ other.1 := by
        intro hSame
        apply hNew
        rw [hSame]
        exact List.mem_map_of_mem hOther
      rw [isChecked_toggle, if_neg hNe]
      exact hRest other hOther

/- One case for each change. -/
theorem change_eq_markAll
    (machines : Machines)
    (next : Change) :
    machines.change next = machines.markAll next.marks := by
  cases next with
  | toggle node checked => rfl
  | load stored =>
      exact
        (machines.mark .clear).loadNodes_eq_markAll
          stored.nodup
          fun entry _ => machines.isChecked_clear entry.1

theorem changeAll_eq_markAll
    (machines : Machines)
    (changes : List Change) :
    machines.changeAll changes =
      machines.markAll (history changes) := by
  induction changes generalizing machines with
  | nil => rfl
  | cons next changes ih =>
      unfold markAll history
      rw [List.flatMap_cons, List.foldl_append]
      change (machines.change next).changeAll changes = _
      rw [ih, change_eq_markAll]
      rfl

theorem markAll_concat
    (machines : Machines)
    (marks : List Mark)
    (next : Mark) :
    machines.markAll (marks ++ [next]) =
      (machines.markAll marks).mark next := by
  unfold markAll
  rw [List.foldl_append]
  rfl

end Machines

end BuildForm

------------------------------------------------------------
-- The List of Checked Machines
------------------------------------------------------------

namespace BuildForm

namespace Machines

open HiddenList (IsEntry)

/-
  The boxes are as the marks have set them, the list has the
  checked machines in the order in which they were last
  checked, and the table has all machines that came up.
-/
structure Mirrors
    (nodes : List String)
    (marks : List Mark)
    (machines : Machines) : Prop where
  boxes :
    ∀ node,
      machines.isChecked node = isCheckedAfter marks node
  nodup : machines.hidden.entries.Nodup
  listed :
    ∀ node,
      node ∈ machines.hidden.entries ↔
        isCheckedAfter marks node
  ordered :
    machines.hidden.entries.Pairwise (CheckedBefore marks)
  known :
    machines.nodes.keys = (seen nodes marks).eraseDups

variable {nodes : List String}
variable {marks : List Mark}
variable {machines : Machines}
variable {node : String}

theorem seen_concat
    (nodes : List String)
    (marks : List Mark)
    (next : Mark) :
    seen nodes (marks ++ [next]) =
      seen nodes marks ++ next.node?.toList := by
  unfold seen
  rw [List.filterMap_append, List.append_assoc]
  cases next with
  | clear => rfl
  | set node checked => rfl

namespace Mirrors

/- What is checked came up before. -/
theorem mem_seen
    (hMirrors : Mirrors nodes marks machines)
    (hChecked : isCheckedAfter marks node) :
    node ∈ seen nodes marks := by
  rw [← List.mem_eraseDups, ← hMirrors.known]
  by_contra hNew
  rw [← hMirrors.boxes, isChecked,
    machines.nodes.find?_of_not_mem hNew] at hChecked
  exact Bool.false_ne_true hChecked

theorem clear
    (hMirrors : Mirrors nodes marks machines) :
    Mirrors nodes (marks ++ [.clear])
      (machines.mark .clear) where
  boxes node := by
    rw [isChecked_clear, isCheckedAfter_concat]
    rfl
  nodup := by
    change HiddenList.empty.entries.Nodup
    rw [HiddenList.entries_empty]
    exact List.nodup_nil
  listed node := by
    change node ∈ HiddenList.empty.entries ↔ _
    rw [HiddenList.entries_empty, isCheckedAfter_concat]
    simp [Mark.applyTo]
  ordered := by
    change HiddenList.empty.entries.Pairwise _
    rw [HiddenList.entries_empty]
    exact List.Pairwise.nil
  known := by
    change (machines.nodes.mapValues _).keys = _
    rw [Table.keys_mapValues, seen_concat, hMirrors.known]
    simp [Mark.node?]

/-
  After a box is set the table is right whatever the state of
  the box was, so that the list alone is left to look at.
-/
theorem set
    (hMirrors : Mirrors nodes marks machines)
    {checked : Bool}
    (hNodup :
      (machines.toggle node checked).hidden.entries.Nodup)
    (hListed :
      ∀ other,
        other ∈ (machines.toggle node checked).hidden.entries ↔
          isCheckedAfter (marks ++ [.set node checked]) other)
    (hOrdered :
      (machines.toggle node checked).hidden.entries.Pairwise
        (CheckedBefore (marks ++ [.set node checked]))) :
    Mirrors nodes (marks ++ [.set node checked])
      (machines.toggle node checked) where
  boxes other := by
    rw [isChecked_toggle, isCheckedAfter_set, hMirrors.boxes]
  nodup := hNodup
  listed := hListed
  ordered := hOrdered
  known := by
    rw [keys_toggle, hMirrors.known, seen_concat,
      Mark.node?, Option.toList_some, eraseDups_concat]
    simp only [List.mem_eraseDups]

/- Machines that stay checked keep their order. -/
theorem pairwise_concat
    (hMirrors : Mirrors nodes marks machines)
    {mark : Mark}
    {entries : List String}
    (hEntries : entries.Sublist machines.hidden.entries)
    (hStay :
      ∀ node ∈ entries, isCheckedAfter (marks ++ [mark]) node) :
    entries.Pairwise (CheckedBefore (marks ++ [mark])) := by
  apply (hMirrors.ordered.sublist hEntries).imp_of_mem
  intro node other hNode hOther hBefore
  exact hBefore.concat (hStay node hNode) (hStay other hOther)

/- A box that is in the state asked for stays as it is. -/
theorem set_same
    (hMirrors : Mirrors nodes marks machines)
    {checked : Bool}
    (hSame : machines.isChecked node = checked) :
    Mirrors nodes (marks ++ [.set node checked])
      (machines.toggle node checked) := by
  have hEntries :
      (machines.toggle node checked).hidden.entries =
        machines.hidden.entries := by
    rw [toggle_of_same hSame]
  have hListed :
      ∀ other,
        other ∈ machines.hidden.entries ↔
          isCheckedAfter (marks ++ [.set node checked])
            other := by
    intro other
    rw [hMirrors.listed, isCheckedAfter_set]
    split
    · rename_i hNode
      rw [← hNode, ← hMirrors.boxes, hSame]
    · rfl
  apply hMirrors.set
  · rw [hEntries]
    exact hMirrors.nodup
  · rwa [hEntries]
  · rw [hEntries]
    exact
      hMirrors.pairwise_concat (List.Sublist.refl _) fun other =>
        (hListed other).mp

/- A machine that is checked comes last in the list. -/
theorem set_check
    (hMirrors : Mirrors nodes marks machines)
    (hEntry : IsEntry node.toList)
    (hOff : machines.isChecked node = false) :
    Mirrors nodes (marks ++ [.set node true])
      (machines.toggle node true) := by
  have hEntries :
      (machines.toggle node true).hidden.entries =
        machines.hidden.entries ++ [node] := by
    rw [toggle_check hOff]
    change (machines.hidden.push node).entries = _
    rw [HiddenList.entries_push, hEntry.decode]
  have hBefore : ¬isCheckedAfter marks node := by
    rw [← hMirrors.boxes, hOff]
    exact Bool.false_ne_true
  have hNew : node ∉ machines.hidden.entries := by
    rwa [hMirrors.listed]
  have hListed :
      ∀ other,
        other ∈ machines.hidden.entries ++ [node] ↔
          isCheckedAfter (marks ++ [.set node true]) other := by
    intro other
    rw [List.mem_append, List.mem_singleton, hMirrors.listed,
      isCheckedAfter_set]
    by_cases hNode : node = other
    · simp [hNode]
    · simp [hNode, Ne.symm hNode]
  have hStay :
      ∀ other ∈ machines.hidden.entries,
        isCheckedAfter (marks ++ [.set node true]) other :=
    fun other hOther =>
      (hListed other).mp (List.mem_append_left _ hOther)
  apply hMirrors.set
  · rw [hEntries, ← List.concat_eq_append]
    exact List.Nodup.concat hNew hMirrors.nodup
  · rwa [hEntries]
  · rw [hEntries, List.pairwise_append]
    refine
      ⟨hMirrors.pairwise_concat (List.Sublist.refl _) hStay,
        List.pairwise_singleton _ _, ?_⟩
    intro other hOther last hLast
    rw [List.mem_singleton.mp hLast]
    rcases exists_lastChecked ((hMirrors.listed other).mp hOther)
      with ⟨moment, hMoment⟩
    exact
      ⟨moment, marks.length, hMoment.early,
        hMoment.concat (hStay other hOther),
        lastChecked_length hBefore
          ((hListed node).mp (by simp))⟩

/-
  A machine that is unchecked leaves the list. Its name is
  cut out where it stands, since it lies within no other.
-/
theorem set_uncheck
    (hMirrors : Mirrors nodes marks machines)
    (hApart :
      ∀ other,
        isCheckedAfter marks other →
        node.toList <:+: other.toList →
        node = other)
    (hOn : machines.isChecked node = true) :
    Mirrors nodes (marks ++ [.set node false])
      (machines.toggle node false) := by
  have hMember : node ∈ machines.hidden.entries := by
    rw [hMirrors.listed, ← hMirrors.boxes, hOn]
  rcases List.mem_iff_append.mp hMember with
    ⟨before, rest, hSplit⟩
  have hNodup := hMirrors.nodup
  rw [hSplit, List.nodup_middle, List.nodup_cons] at hNodup
  have hNone :
      ∀ entry ∈ before, ¬node.toList <:+: entry.toList := by
    intro entry hEntry hWithin
    have hChecked : isCheckedAfter marks entry := by
      rw [← hMirrors.listed, hSplit]
      exact List.mem_append_left _ hEntry
    rw [← hApart entry hChecked hWithin] at hEntry
    exact hNodup.1 (List.mem_append_left _ hEntry)
  have hEntries :
      (machines.toggle node false).hidden.entries =
        before ++ rest := by
    rw [toggle_uncheck hOn]
    apply
      (HiddenList.cutOut_iff
        (HiddenList.isEntry_of_mem_decode hMember) _).mp
    change HiddenList.CutOut node machines.hidden.entries _
    rw [hSplit]
    exact HiddenList.cutOut_middle hNone rest
  have hListed :
      ∀ other,
        other ∈ before ++ rest ↔
          isCheckedAfter (marks ++ [.set node false]) other := by
    intro other
    rw [isCheckedAfter_set]
    split
    · rename_i hNode
      rw [← hNode]
      simpa using hNodup.1
    · rename_i hNode
      rw [← hMirrors.listed, hSplit]
      simp [Ne.symm hNode]
  apply hMirrors.set
  · rw [hEntries]
    exact hNodup.2
  · rwa [hEntries]
  · rw [hEntries]
    have hFewer :
        (before ++ rest).Sublist machines.hidden.entries := by
      rw [hSplit]
      exact (List.sublist_cons_self node rest).append_left before
    exact hMirrors.pairwise_concat hFewer fun other =>
      (hListed other).mp

/- One case for each mark and each state of the box. -/
theorem mark
    (hMirrors : Mirrors nodes marks machines)
    {next : Mark}
    (hEntry : ∀ node ∈ next.node?, IsEntry node.toList)
    (hApart :
      ∀ node ∈ next.node?,
        ∀ other,
          isCheckedAfter marks other →
          node.toList <:+: other.toList →
          node = other) :
    Mirrors nodes (marks ++ [next]) (machines.mark next) := by
  cases next with
  | clear => exact hMirrors.clear
  | set node checked =>
      by_cases hSame : machines.isChecked node = checked
      · exact hMirrors.set_same hSame
      · cases checked with
        | true =>
            exact hMirrors.set_check (hEntry node rfl)
              (eq_false_of_ne_true hSame)
        | false =>
            exact hMirrors.set_uncheck (hApart node rfl)
              (eq_true_of_ne_false hSame)

end Mirrors

end Machines

end BuildForm

------------------------------------------------------------
-- Runs of Changes
------------------------------------------------------------

namespace BuildForm

namespace Machines

open HiddenList (IsEntry)

variable {nodes : List String}
variable {marks : List Mark}

theorem nodes_ofNodes_concat
    (nodes : List String)
    (node : String) :
    (ofNodes (nodes ++ [node])).nodes =
      (ofNodes nodes).nodes.put node false := by
  unfold ofNodes Table.ofList
  rw [List.map_append, List.foldl_append]
  rfl

theorem keys_ofNodes (nodes : List String) :
    (ofNodes nodes).nodes.keys = nodes.eraseDups := by
  induction nodes using List.reverseRecOn with
  | nil => rfl
  | append_singleton nodes node ih =>
      rw [nodes_ofNodes_concat, Table.keys_put, ih,
        eraseDups_concat]
      simp only [List.mem_eraseDups]

theorem isChecked_ofNodes (nodes : List String) (node : String) :
    (ofNodes nodes).isChecked node = false := by
  induction nodes using List.reverseRecOn with
  | nil => rfl
  | append_singleton nodes other ih =>
      rw [isChecked, nodes_ofNodes_concat, Table.find?_put]
      split
      · rfl
      · exact ih

/- At first no box is checked, and the list is empty. -/
theorem mirrors_ofNodes (nodes : List String) :
    Mirrors nodes [] (ofNodes nodes) where
  boxes := isChecked_ofNodes nodes
  nodup := by
    change HiddenList.empty.entries.Nodup
    rw [HiddenList.entries_empty]
    exact List.nodup_nil
  listed node := by
    change node ∈ HiddenList.empty.entries ↔ _
    rw [HiddenList.entries_empty]
    simp [isCheckedAfter]
  ordered := by
    change HiddenList.empty.entries.Pairwise _
    rw [HiddenList.entries_empty]
    exact List.Pairwise.nil
  known := by
    rw [keys_ofNodes]
    simp [seen]

/- The names that come up do not lie within each other. -/
structure AreApart (names : List String) : Prop where
  entries : ∀ name ∈ names, IsEntry name.toList
  apart :
    ∀ name ∈ names,
      ∀ other ∈ names,
        name.toList <:+: other.toList →
        name = other

theorem AreApart.of_subset
    {names others : List String}
    (hApart : AreApart names)
    (hSubset : others ⊆ names) :
    AreApart others where
  entries name hName := hApart.entries name (hSubset hName)
  apart name hName other hOther :=
    hApart.apart name (hSubset hName) other (hSubset hOther)

/- The marks in turn keep the list as it should be. -/
theorem mirrors_markAll
    (hApart : AreApart (seen nodes marks)) :
    Mirrors nodes marks ((ofNodes nodes).markAll marks) := by
  induction marks using List.reverseRecOn with
  | nil => exact mirrors_ofNodes nodes
  | append_singleton marks next ih =>
      rw [seen_concat] at hApart
      have hMirrors :=
        ih (hApart.of_subset (List.subset_append_left _ _))
      have hSeen :
          ∀ node ∈ next.node?,
            node ∈ seen nodes marks ++ next.node?.toList := by
        intro node hNode
        exact
          List.mem_append_right _ (Option.mem_toList.mpr hNode)
      rw [markAll_concat]
      apply hMirrors.mark
      · intro node hNode
        exact hApart.entries node (hSeen node hNode)
      · intro node hNode other hOther
        exact
          hApart.apart node (hSeen node hNode) other
            (List.mem_append_left _ (hMirrors.mem_seen hOther))

/- What came up first comes up first in a longer run. -/
theorem isPrefix_seen
    (nodes : List String)
    {first whole : List Mark}
    (hPrefix : first <+: whole) :
    seen nodes first <+: seen nodes whole := by
  rcases hPrefix with ⟨rest, rfl⟩
  unfold seen
  rw [List.filterMap_append, ← List.append_assoc]
  exact List.prefix_append _ _

theorem isPrefix_history_take
    (changes : List Change)
    {earlier count : Nat}
    (hEarlier : earlier ≤ count) :
    history (changes.take earlier) <+:
      history (changes.take count) := by
  have hTake : changes.take earlier <+: changes.take count := by
    rw [← Nat.min_eq_left hEarlier, ← List.take_take]
    exact List.take_prefix earlier (changes.take count)
  rcases hTake with ⟨rest, hRest⟩
  rw [← hRest]
  unfold history
  rw [List.flatMap_append]
  exact List.prefix_append _ _

theorem isPrefix_eraseDups
    {first whole : List String}
    (hPrefix : first <+: whole) :
    first.eraseDups <+: whole.eraseDups := by
  rcases hPrefix with ⟨rest, rfl⟩
  rw [List.eraseDups_append]
  exact List.prefix_append _ _

/-
  After every change of the checkboxes, the hidden input has
  the checked machines once each and nothing else, in the
  order in which they were last checked, and the table has
  every machine that came up at its first place.
-/
theorem list_mirrors_checkboxes
    {nodes : List String}
    {changes : List Change}
    (hApart : AreApart (seen nodes (history changes)))
    (count : Nat) :
    let machines (count : Nat) :=
      (ofNodes nodes).changeAll (changes.take count)
    let marks := history (changes.take count)
    (machines count).hidden.entries.Nodup ∧
      (∀ node,
        node ∈ (machines count).hidden.entries ↔
          (machines count).isChecked node) ∧
      (∀ node,
        (machines count).isChecked node =
          isCheckedAfter marks node) ∧
      (machines count).hidden.entries.Pairwise
        (CheckedBefore marks) ∧
      (machines count).nodes.keys =
        (seen nodes marks).eraseDups ∧
      ∀ earlier ≤ count,
        (machines earlier).nodes.keys <+:
          (machines count).nodes.keys := by
  have hMirrors :
      ∀ count,
        Mirrors nodes (history (changes.take count))
          ((ofNodes nodes).changeAll (changes.take count)) := by
    intro count
    rw [changeAll_eq_markAll]
    apply mirrors_markAll
    apply hApart.of_subset
    have hPart : history (changes.take count) <+: history changes := by
      have hAll :=
        isPrefix_history_take changes
          (Nat.le_max_left count changes.length)
      rwa [List.take_of_length_le
        (Nat.le_max_right count changes.length)] at hAll
    exact (isPrefix_seen nodes hPart).subset
  intro machines marks
  have hNow := hMirrors count
  refine
    ⟨hNow.nodup, fun node => ?_, hNow.boxes, hNow.ordered,
      hNow.known, fun earlier hEarlier => ?_⟩
  · rw [hNow.boxes]
    exact hNow.listed node
  · change ((ofNodes nodes).changeAll _).nodes.keys <+: _
    rw [(hMirrors earlier).known, hNow.known]
    exact
      isPrefix_eraseDups
        (isPrefix_seen nodes (isPrefix_history_take changes hEarlier))

/-
  A machine is checked again after others, and a record
  brings a new one.
-/
theorem list_mirrors_checkboxes_again :
    let changes : List Change :=
      [.toggle "linux" true, .toggle "win" true,
        .toggle "linux" false, .toggle "mac" true,
        .toggle "linux" true,
        .load (Table.ofList
          [("arm", true), ("win", false), ("linux", true)])]
    let machines (count : Nat) :=
      (ofNodes ["win", "linux"]).changeAll (changes.take count)
    AreApart (seen ["win", "linux"] (history changes)) ∧
      (machines 5).hidden.entries = ["win", "mac", "linux"] ∧
      CheckedBefore (history (changes.take 5)) "mac" "linux" ∧
      (machines 6).hidden.entries = ["arm", "linux"] ∧
      (machines 6).nodes.keys =
        ["win", "linux", "mac", "arm"] := by
  intro changes machines
  have hApart :
      AreApart (seen ["win", "linux"] (history changes)) := by
    have hSeen :
        seen ["win", "linux"] (history changes) ⊆
          ["win", "linux", "mac", "arm"] := by
      decide
    refine AreApart.of_subset ⟨?_, by decide⟩ hSeen
    intro name hName
    simp only [List.mem_cons, List.not_mem_nil,
      or_false] at hName
    rcases hName with rfl | rfl | rfl | rfl <;>
      exact ⟨by decide, by decide⟩
  have hListed :
      (machines 5).hidden.entries = ["win", "mac", "linux"] := by
    decide
  have hOrdered := (list_mirrors_checkboxes hApart 5).2.2.2.1
  have hKnown := (list_mirrors_checkboxes hApart 6).2.2.2.2.1
  refine ⟨hApart, hListed, ?_, by decide, ?_⟩
  · change (machines 5).hidden.entries.Pairwise _ at hOrdered
    rw [hListed] at hOrdered
    simp only [List.pairwise_cons] at hOrdered
    exact hOrdered.2.1 "linux" (by simp)
  · exact hKnown.trans (by decide)

end Machines

end BuildForm
