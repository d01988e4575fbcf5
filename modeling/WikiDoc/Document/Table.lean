import WikiDoc.Document.Node

/-!
Drafts of tables: rows of cells are collected, columns are aligned, and the draft becomes a table of
rows of cells.

Aligning a column before there are rows that wide is allowed. The finished table has one alignment per
column of its widest row, or none at all if no column was ever aligned.
-/

namespace WikiDoc

/-- The content of a cell. -/
abbrev Cell := List Node

/-- The length of the longest list that fits in memory, `2 ^ 63 - 1`: a longer one cannot be allocated. -/
def maxLength : Nat := 9223372036854775807

/-- A column, counted from zero. To align it is to keep an alignment for it and for each column before it, so
these must fit in memory. -/
structure Column where
  index : Nat
  fits : index < maxLength

/-- A table in the making. -/
structure TableDraft where
  headers : List Cell := []
  rows : List (List Cell) := []
  alignments : List Alignment := []

/-- Cuts a list to a length, or fills it up with a value. -/
def resize {α : Type} (length : Nat) (filler : α) (items : List α) : List α :=
  items.take length ++ List.replicate (length - items.length) filler

namespace TableDraft

/-- The number of cells in the widest row. -/
def width (draft : TableDraft) : Nat :=
  (draft.headers :: draft.rows).foldl (fun widest row => max widest row.length) 0

/-- Sets the header row. -/
def withHeaders (draft : TableDraft) (headers : List Cell) : TableDraft := { draft with headers }

/-- Adds a row below the others. -/
def addRow (draft : TableDraft) (row : List Cell) : TableDraft :=
  { draft with rows := draft.rows ++ [row] }

/-- Adds rows below the others. -/
def addRows (draft : TableDraft) (rows : List (List Cell)) : TableDraft :=
  { draft with rows := draft.rows ++ rows }

/-- Aligns all columns that there are, and the first one in any case, alike. -/
def alignAll (draft : TableDraft) (alignment : Alignment) : TableDraft :=
  { draft with alignments := List.replicate (max draft.width 1) alignment }

/-- Aligns one column. -/
def alignColumn (draft : TableDraft) (column : Column) (alignment : Alignment) : TableDraft :=
  let length := max draft.alignments.length (column.index + 1)
  { draft with alignments := (resize length .none draft.alignments).set column.index alignment }

/-- A row of a table. -/
def row (cells : List Cell) : Node := .parent .tableRow (cells.map (.parent .tableCell))

/-- The finished table; a header row without cells is left out. -/
def build (draft : TableDraft) : Node :=
  let align := if draft.alignments.isEmpty then [] else resize draft.width .none draft.alignments
  let headerRow := if draft.headers.isEmpty then [] else [row draft.headers]
  .parent (.table align) (headerRow ++ draft.rows.map row)

/-- A table with a header row and without alignments. -/
def simple (headers : List Cell) (rows : List (List Cell)) : Node :=
  (({} : TableDraft).withHeaders headers |>.addRows rows).build

end TableDraft

end WikiDoc
