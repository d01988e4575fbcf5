import WikiDoc.Document.Table

/-!
What becomes of a table draft, whatever edits it goes through.

An edit either writes a part of a draft anew or leaves it alone, so in the end each part is what was
written last (`observe_after`): the header row, and the alignment of a column from the last time on that
all columns were aligned. Rows are only ever added (`rows_after`). The finished table has the alignments
of its columns, filled up or cut to the widest row (`alignments_settled`).
-/

namespace WikiDoc

/-- A change to a table draft. -/
inductive TableEdit where
  | headers (cells : List Cell)
  | addRow (row : List Cell)
  | addRows (rows : List (List Cell))
  | alignAll (alignment : Alignment)
  | alignColumn (column : Column) (alignment : Alignment)

namespace TableEdit

/-- Makes the change. -/
def apply (draft : TableDraft) : TableEdit → TableDraft
  | .headers cells => draft.withHeaders cells
  | .addRow row => draft.addRow row
  | .addRows rows => draft.addRows rows
  | .alignAll alignment => draft.alignAll alignment
  | .alignColumn column alignment => draft.alignColumn column alignment

/-- The header row that the edit sets. -/
def headers? : TableEdit → Option (List Cell)
  | .headers cells => some cells
  | _ => none

/-- The rows that the edit adds. -/
def newRows : TableEdit → List (List Cell)
  | .addRow row => [row]
  | .addRows rows => rows
  | _ => []

/-- The alignment that the edit gives to all columns. -/
def alignAll? : TableEdit → Option Alignment
  | .alignAll alignment => some alignment
  | _ => none

/-- The alignment that the edit gives to the single column of an index. -/
def alignColumn? (index : Nat) : TableEdit → Option Alignment
  | .alignColumn column alignment => if column.index = index then some alignment else none
  | _ => none

/-- Whether the edit aligns anything. -/
def aligns : TableEdit → Bool
  | .alignAll _ | .alignColumn _ _ => true
  | _ => false

/-- The header row that is set last; without any it has no cells. -/
def lastHeaders (edits : List TableEdit) : List Cell := (edits.filterMap headers?).getLast?.getD []

/-- The rows that are added, in order. -/
def addedRows (edits : List TableEdit) : List (List Cell) := edits.flatMap newRows

/-- The alignment that is given to the single column of an index last. -/
def lastColumn? (index : Nat) (edits : List TableEdit) : Option Alignment :=
  (edits.filterMap (alignColumn? index)).getLast?

/-- The number of cells in the widest of the rows, the header row among them. -/
def widest (edits : List TableEdit) : Nat :=
  ((lastHeaders edits :: addedRows edits).map List.length).max?.getD 0

end TableEdit

section Resize

variable {α : Type}

theorem length_resize (length : Nat) (filler : α) (items : List α) :
    (resize length filler items).length = length := by
  rw [resize, List.length_append, List.length_take, List.length_replicate]
  omega

/-- What lies beyond the end of the list counts as the filler. -/
theorem getElem?_resize (length : Nat) (filler : α) (items : List α) (i : Nat) :
    (resize length filler items)[i]? =
      if i < length then some (items[i]?.getD filler) else none := by
  rw [resize, List.getElem?_append, List.length_take, List.getElem?_replicate, List.getElem?_take]
  rcases Nat.lt_or_ge i length with hi | hi
  · rcases Nat.lt_or_ge i items.length with hitem | hitem
    · rw [if_pos (by omega), if_pos hi, if_pos hi, List.getElem?_eq_getElem hitem]
      rfl
    · rw [if_neg (by omega), if_pos (by omega), if_pos hi, List.getElem?_eq_none hitem]
      rfl
  · rw [if_neg (by omega), if_neg (by omega), if_neg (by omega)]

end Resize

namespace TableDraft

/-- The draft after some edits. -/
def after (draft : TableDraft) (edits : List TableEdit) : TableDraft :=
  edits.foldl TableEdit.apply draft

theorem after_append (draft : TableDraft) (edits later : List TableEdit) :
    draft.after (edits ++ later) = (draft.after edits).after later := List.foldl_append

/-- What each edit writes anew or leaves alone is in the end what was written last. -/
theorem observe_after {β : Type} (observe : TableDraft → β) {write : TableEdit → Option β}
    {edits : List TableEdit} (step : ∀ edit ∈ edits, ∀ draft,
      observe (edit.apply draft) = (write edit).getD (observe draft)) (draft : TableDraft) :
    observe (draft.after edits) = (edits.filterMap write).getLast?.getD (observe draft) := by
  induction edits generalizing draft with
  | nil => rfl
  | cons edit edits ih =>
    rw [List.forall_mem_cons] at step
    rw [after, List.foldl_cons, ← after, ih step.2, step.1, List.filterMap_cons]
    cases write edit with
    | none => rfl
    | some written => rw [List.getLast?_cons]; rfl

/-! ### Rows -/

theorem headers_after (draft : TableDraft) (edits : List TableEdit) :
    (draft.after edits).headers = (edits.filterMap TableEdit.headers?).getLast?.getD draft.headers := by
  refine observe_after headers ?_ draft
  intro edit _ draft
  cases edit <;> rfl

theorem rows_after (draft : TableDraft) (edits : List TableEdit) :
    (draft.after edits).rows = draft.rows ++ TableEdit.addedRows edits := by
  induction edits generalizing draft with
  | nil => exact (List.append_nil _).symm
  | cons edit edits ih =>
    have step : (edit.apply draft).rows = draft.rows ++ edit.newRows := by
      cases edit <;> simp [TableEdit.apply, TableEdit.newRows, withHeaders, addRow, addRows, alignAll,
        alignColumn]
    rw [after, List.foldl_cons, ← after, ih, step, List.append_assoc]
    rfl

theorem width_eq (draft : TableDraft) :
    draft.width = ((draft.headers :: draft.rows).map List.length).max?.getD 0 := by
  rw [width, ← List.foldl_map, List.foldl_max, Nat.zero_max]

/-- The width of a draft is that of the widest row that the edits leave. -/
theorem width_after (edits : List TableEdit) :
    (({} : TableDraft).after edits).width = TableEdit.widest edits := by
  rw [width_eq, headers_after, rows_after]
  rfl

/-! ### Alignments -/

/-- An edit that aligns at most one column leaves the others as they are. -/
theorem alignments_apply {edit : TableEdit} (h : edit.alignAll? = none) (draft : TableDraft) (i : Nat) :
    (edit.apply draft).alignments[i]?.getD .none =
      (edit.alignColumn? i).getD (draft.alignments[i]?.getD .none) := by
  cases edit with
  | headers cells => rfl
  | addRow row => rfl
  | addRows rows => rfl
  | alignAll alignment => cases h
  | alignColumn column alignment =>
    simp only [TableEdit.apply, alignColumn, TableEdit.alignColumn?, List.getElem?_set, length_resize,
      getElem?_resize]
    by_cases hcolumn : column.index = i
    · rw [if_pos hcolumn, if_pos hcolumn, if_pos (by omega)]
      rfl
    · rw [if_neg hcolumn, if_neg hcolumn]
      split
      · rfl
      · -- beyond the columns that there are now, there was none before either
        rw [List.getElem?_eq_none (by omega)]
        rfl

theorem alignments_alignAll (draft : TableDraft) (alignment : Alignment) (i : Nat) :
    (draft.alignAll alignment).alignments[i]?.getD .none =
      if i < max 1 draft.width then alignment else .none := by
  rw [alignAll, List.getElem?_replicate, Nat.max_comm]
  split <;> rfl

theorem alignments_apply_eq_nil (draft : TableDraft) (edit : TableEdit) :
    (edit.apply draft).alignments = [] ↔ draft.alignments = [] ∧ edit.aligns = false := by
  cases edit with
  | headers cells => simp [TableEdit.apply, withHeaders, TableEdit.aligns]
  | addRow row => simp [TableEdit.apply, addRow, TableEdit.aligns]
  | addRows rows => simp [TableEdit.apply, addRows, TableEdit.aligns]
  | alignAll alignment =>
    refine iff_of_false (List.ne_nil_of_length_pos ?_) (by simp [TableEdit.aligns])
    rw [TableEdit.apply, alignAll, List.length_replicate]
    omega
  | alignColumn column alignment =>
    refine iff_of_false (List.ne_nil_of_length_pos ?_) (by simp [TableEdit.aligns])
    rw [TableEdit.apply, alignColumn, List.length_set, length_resize]
    omega

/-- There are alignments exactly when something was aligned. -/
theorem alignments_after_eq_nil (draft : TableDraft) (edits : List TableEdit) :
    (draft.after edits).alignments = [] ↔
      draft.alignments = [] ∧ ∀ edit ∈ edits, edit.aligns = false := by
  induction edits generalizing draft with
  | nil => simp [after]
  | cons edit edits ih =>
    rw [after, List.foldl_cons, ← after, ih, alignments_apply_eq_nil, List.forall_mem_cons, and_assoc]

/-- While no edit aligns all columns, each has the alignment that it was given last. -/
theorem alignments_after {edits : List TableEdit} (h : ∀ edit ∈ edits, edit.alignAll? = none)
    (draft : TableDraft) (i : Nat) : (draft.after edits).alignments[i]?.getD .none =
      (TableEdit.lastColumn? i edits).getD (draft.alignments[i]?.getD .none) :=
  observe_after (fun draft => draft.alignments[i]?.getD .none)
    (fun edit hedit draft => alignments_apply (h edit hedit) draft i) draft

/-! ### The finished table -/

theorem build_eq (draft : TableDraft) : draft.build =
    .parent (.table (if draft.alignments = [] then [] else resize draft.width .none draft.alignments))
      (((if draft.headers = [] then [] else [draft.headers]) ++ draft.rows).map row) := by
  simp only [build, List.isEmpty_iff, List.map_append]
  split <;> split <;> rfl

end TableDraft

/-- Whatever a draft goes through, the finished table has no alignments if nothing was aligned. Otherwise it
has one for each cell of the widest row: that which the column was given last since all columns were last
aligned; else that which all were given then, if the column is the first one or there was a row that wide
by then; else none. -/
theorem alignments_settled (edits : List TableEdit) : ∃ align children,
    (({} : TableDraft).after edits).build = .parent (.table align) children ∧
      ((∀ edit ∈ edits, edit.aligns = false) → align = []) ∧
      ((∃ edit ∈ edits, edit.aligns = true) → align.length = TableEdit.widest edits ∧
        ∀ i < TableEdit.widest edits,
          ((∀ edit ∈ edits, edit.alignAll? = none) →
            align[i]? = some ((TableEdit.lastColumn? i edits).getD .none)) ∧
          ∀ before alignment later, edits = before ++ .alignAll alignment :: later →
            (∀ edit ∈ later, edit.alignAll? = none) →
            align[i]? = some ((TableEdit.lastColumn? i later).getD
              (if i < max 1 (TableEdit.widest before) then alignment else .none))) := by
  refine ⟨_, _, TableDraft.build_eq _, ?_, ?_⟩
  · intro hnone
    exact if_pos ((TableDraft.alignments_after_eq_nil {} edits).2 ⟨rfl, hnone⟩)
  · rintro ⟨edit, hedit, haligns⟩
    have hsome : (({} : TableDraft).after edits).alignments ≠ [] := by
      intro hnil
      have hnone := ((TableDraft.alignments_after_eq_nil {} edits).1 hnil).2 edit hedit
      rw [haligns] at hnone
      cases hnone
    rw [if_neg hsome, TableDraft.width_after]
    refine ⟨length_resize .., fun i hi => ?_⟩
    rw [getElem?_resize, if_pos hi]
    constructor
    · intro hcolumns
      rw [TableDraft.alignments_after hcolumns]
      rfl
    · rintro before alignment later rfl hcolumns
      have hlast : ({} : TableDraft).after (before ++ .alignAll alignment :: later) =
          ((({} : TableDraft).after before).alignAll alignment).after later :=
        TableDraft.after_append {} before (.alignAll alignment :: later)
      rw [hlast, TableDraft.alignments_after hcolumns, TableDraft.alignments_alignAll,
        TableDraft.width_after]

/-- The third column loses its alignment when all are aligned, as no row is that wide yet; the second
one gets another. -/
theorem alignments_settled_ragged :
    let cell : Cell := [.literal .text "a"]
    let before : List TableEdit := [.alignColumn ⟨2, by decide⟩ .right, .addRow [cell, cell]]
    let later : List TableEdit :=
      [.headers [cell, [], cell, cell], .alignColumn ⟨1, by decide⟩ .left, .addRows [[], [cell]]]
    (∃ edit ∈ before ++ .alignAll .center :: later, edit.aligns = true) ∧
      (∀ edit ∈ later, edit.alignAll? = none) ∧
      ∃ align children, (({} : TableDraft).after (before ++ .alignAll .center :: later)).build =
          .parent (.table align) children ∧ align.length = 4 ∧
        align[0]? = some .center ∧ align[1]? = some .left ∧ align[2]? = some .none ∧
        align[3]? = some .none := by
  intro cell before later
  have haligns : ∃ edit ∈ before ++ .alignAll .center :: later, edit.aligns = true :=
    ⟨.alignAll .center, by simp, rfl⟩
  have hcolumns : ∀ edit ∈ later, edit.alignAll? = none := by simp [later, TableEdit.alignAll?]
  obtain ⟨align, children, hbuild, -, hsettled⟩ :=
    alignments_settled (before ++ .alignAll .center :: later)
  obtain ⟨hlength, hcolumn⟩ := hsettled haligns
  have hset := fun i hi => (hcolumn i hi).2 before .center later rfl hcolumns
  exact ⟨haligns, hcolumns, align, children, hbuild, hlength, hset 0 (by decide), hset 1 (by decide),
    hset 2 (by decide), hset 3 (by decide)⟩

end WikiDoc
