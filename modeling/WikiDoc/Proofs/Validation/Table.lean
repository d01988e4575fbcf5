import WikiDoc.Proofs.Document.Table
import WikiDoc.Proofs.Validation.Conformance
import WikiDoc.Proofs.Validation.Insertion

/-!
Finished tables before the validator.

A finished table, its rows and its cells are built-in nodes without flaws, each where the one above asks
for it, so none of them has a violation (`violations_table`). What can be wrong is in the cells only:
the table is without findings exactly when the content of each cell is so on its own and belongs to text
(`clean_table_iff`), and nothing is ever found above the content of a cell.
-/

namespace WikiDoc

namespace Validator

variable {v : Validator}

/-! ### Clean trees, level by level -/

/-- Below a node without violations, it is the children that count. -/
theorem clean_iff_below {above : Option Node} {node : Node} (top : v.violations above node = []) :
    v.Clean above node ↔ ∀ child ∈ node.children, v.Clean (some node) child := by
  constructor
  · rintro ⟨-, below⟩
    exact below
  · exact fun below => ⟨top, below⟩

/-- A tree is clean below a node if it is so on its own and stands where it belongs. -/
theorem clean_some_iff {holder node : Node} : v.Clean (some holder) node ↔
    v.Clean none node ∧ v.misplacements (some holder) node = [] := by
  have hnone : v.violations none node = v.misshapes node ++ v.badAttributes node := rfl
  constructor
  · intro h
    obtain ⟨hplace, hshape, hattributes⟩ := h.violations_eq_nil
    obtain ⟨-, below⟩ := h
    exact ⟨⟨by rw [hnone, hshape, hattributes, List.append_nil], below⟩, hplace⟩
  · rintro ⟨h, hplace⟩
    obtain ⟨-, hshape, hattributes⟩ := h.violations_eq_nil
    obtain ⟨-, below⟩ := h
    refine ⟨?_, below⟩
    rw [violations, hplace, hshape, hattributes, List.append_nil, List.append_nil]

theorem referenceFindings?_off (hoff : v.options.checkReferences = false) (tree : Node) :
    v.referenceFindings? tree = [] := by
  rw [referenceFindings?, hoff, if_neg Bool.false_ne_true]

/-- With references left alone, a clean tree is one in which nothing is found. -/
theorem clean_iff_finds_nothing (hr : v.registry.WellFormed)
    (hoff : v.options.checkReferences = false) (tree : Node) :
    v.Clean none tree ↔ ∃ report, v.validate tree = .ok report ∧ report.findings = [] := by
  rw [clean_iff_accepts]
  have hreport := validate_eq hr tree
  constructor
  · intro h
    exact ⟨_, hreport, (findings_eq_nil_iff hr hreport).2 ⟨h, referenceFindings?_off hoff tree⟩⟩
  · rintro ⟨report, hreport, hnone⟩
    exact ((findings_eq_nil_iff hr hreport).1 hnone).1

/-! ### Built-in nodes without flaws -/

section BuiltIn

variable {history : List Mutation} (hv : v.registry = Registry.baseline.after history)

include hv

/-- A built-in node without flaws can only be out of place. -/
theorem violations_of_flawless {node : Node} (horigin : node.origin? = none) (hflaws : node.flaws = [])
    (above : Option Node) : v.violations above node = v.misplacements above node := by
  obtain ⟨d, hd, hshape, hproblems⟩ := Baseline.conforms_node horigin
  have hdefined : v.registry.kind? node.kind = some d := hv ▸ Registry.kind?_after_baseline hd
  have hseen : node.observedShape = d.shape :=
    (Node.observedShape_of_builtIn horigin).trans hshape.symm
  have hshapes : v.misshapes node = [] := by
    rw [misshapes_eq, hdefined]
    exact if_pos hseen
  have hattributes : v.badAttributes node = [] := by
    rw [badAttributes_eq, hdefined]
    simp [hproblems, hflaws]
  rw [violations, hshapes, hattributes, List.append_nil, List.append_nil]

theorem content?_of_definition {kind : String} {d : KindDef} {c : Category}
    (hd : Baseline.definition? kind = some d) (hc : d.content = some c) : v.content? kind = some c := by
  have hdefined : v.registry.kind? kind = some d := hv ▸ Registry.kind?_after_baseline hd
  rw [content?, hdefined, Option.bind_some, hc]

/-- A built-in kind is not out of place below one that asks for a category of the kind. -/
theorem misplacements_eq_nil_of_members {holder node : Node} {d : KindDef} {c : Category}
    (hd : Baseline.definition? holder.kind = some d) (hc : d.content = some c)
    (hmember : node.kind ∈ Baseline.members c) : v.misplacements (some holder) node = [] := by
  have hgrows : Registry.baseline.Grows v.registry :=
    hv ▸ (Registry.steps_after history Registry.baseline).grows
  have hcontent : v.content? holder.kind = some c := content?_of_definition hv hd hc
  refine (misplacements_eq_nil (by rw [Option.bind_some, hcontent])).2 ⟨?_, ?_⟩
  · exact hgrows.belongs (Registry.belongs_of_mem_members hmember)
  · obtain ⟨definition, hdefinition, hkind⟩ := List.mem_map.1 hmember
    have hbaseline : Registry.baseline.kind? node.kind = some definition :=
      Registry.kind?_baseline.2 ⟨(List.mem_filter.1 hdefinition).1, hkind⟩
    exact Option.isSome_iff_exists.2 ⟨definition, hgrows.kind? hbaseline⟩

/-- A built-in node without flaws has no violation where it is asked for. -/
theorem violations_eq_nil_of_members {holder node : Node} {d : KindDef} {c : Category}
    (hd : Baseline.definition? holder.kind = some d) (hc : d.content = some c)
    (hmember : node.kind ∈ Baseline.members c) (horigin : node.origin? = none)
    (hflaws : node.flaws = []) : v.violations (some holder) node = [] := by
  rw [violations_of_flawless hv horigin hflaws]
  exact misplacements_eq_nil_of_members hv hd hc hmember

/-! ### Tables -/

variable {table : Node} {align : List Alignment} {rows : List (List Cell)}
  (htable : table = .parent (.table align) (rows.map TableDraft.row))

include htable

theorem violations_table : v.violations none table = [] := by
  subst htable
  exact violations_of_flawless hv rfl rfl none

theorem violations_row {row : Node} (hrow : row ∈ table.children) :
    v.violations (some table) row = [] := by
  subst htable
  obtain ⟨cells, -, rfl⟩ := List.mem_map.1 hrow
  have hmember : "tableRow" ∈ Baseline.members Category.table := by decide
  exact violations_eq_nil_of_members hv rfl rfl hmember rfl rfl

theorem violations_cell {row cell : Node} (hrow : row ∈ table.children) (hcell : cell ∈ row.children) :
    v.violations (some row) cell = [] := by
  subst htable
  obtain ⟨cells, -, rfl⟩ := List.mem_map.1 hrow
  obtain ⟨content, -, rfl⟩ := List.mem_map.1 hcell
  have hmember : "tableCell" ∈ Baseline.members Category.row := by decide
  exact violations_eq_nil_of_members hv rfl rfl hmember rfl rfl

/-- A finished table is clean exactly when the content of its cells is. -/
theorem clean_table_iff : v.Clean none table ↔ ∀ row ∈ table.children, ∀ cell ∈ row.children,
    ∀ node ∈ cell.children, v.Clean (some cell) node := by
  rw [clean_iff_below (violations_table hv htable)]
  refine forall₂_congr fun row hrow => ?_
  rw [clean_iff_below (violations_row hv htable hrow)]
  refine forall₂_congr fun cell hcell => ?_
  rw [clean_iff_below (violations_cell hv htable hrow hcell)]

/-- Down to its cells, a finished table has no violations. -/
theorem violations_of_short {path : Path} {node : Node} (hnode : table.at? path = some node)
    (hshort : path.indices.length < 3) : v.violations (table.above? path) node = [] := by
  have hchild : ∀ {i row}, table.at? (Path.root.child i) = some row → row ∈ table.children := by
    intro i row hrow
    rw [Node.at?_child, Node.at?_root, Option.bind_some] at hrow
    exact List.mem_of_getElem? hrow
  obtain ⟨_ | ⟨i, _ | ⟨j, _ | ⟨k, rest⟩⟩⟩⟩ := path
  · obtain rfl : table = node := Option.some.inj ((Node.at?_root table).symm.trans hnode)
    exact violations_table hv htable
  · have habove : table.above? ⟨[i]⟩ = some table := above?_child (Node.at?_root table) i
    rw [habove]
    exact violations_row hv htable (hchild hnode)
  · obtain ⟨row, hrow, hcell⟩ : ∃ row, table.at? (Path.root.child i) = some row ∧
        row.children[j]? = some node := by
      rw [← Option.bind_eq_some_iff, ← Node.at?_child]
      exact hnode
    have habove : table.above? ⟨[i, j]⟩ = some row := above?_child hrow j
    rw [habove]
    exact violations_cell hv htable (hchild hrow) (List.mem_of_getElem? hcell)
  · simp only [List.length_cons] at hshort
    omega

/-- Whatever is found in a finished table is found in the content of its cells. -/
theorem length_path_of_mem_findings (hr : v.registry.WellFormed)
    (hoff : v.options.checkReferences = false) {report : Report}
    (hreport : v.validate table = .ok report) {f : Finding} (hf : f ∈ report.findings) :
    3 ≤ f.path.indices.length := by
  rw [validate_eq hr, referenceFindings?_off hoff, List.append_nil] at hreport
  cases hreport
  obtain ⟨s, hs, hf⟩ := List.mem_flatMap.1 hf
  obtain ⟨hnode, habove⟩ := (Node.mem_sites table s).1 hs
  by_contra hshort
  have hpath : f.path = s.path := by
    obtain ⟨_, _, rfl⟩ := List.mem_map.1 hf
    rfl
  rw [hpath] at hshort
  rw [siteFindings, habove, violations_of_short hv htable hnode (by omega)] at hf
  cases hf

/-- A node in a cell is clean there if it is so on its own and has a defined kind that belongs to text. -/
theorem clean_in_cell_iff (hr : v.registry.WellFormed) {row cell : Node} (hrow : row ∈ table.children)
    (hcell : cell ∈ row.children) (node : Node) : v.Clean (some cell) node ↔ v.Clean none node ∧
      v.registry.contains .phrasing node.kind = .ok true ∧ (v.registry.kind? node.kind).isSome := by
  have hcontent : v.content? cell.kind = some .phrasing := by
    subst htable
    obtain ⟨cells, -, rfl⟩ := List.mem_map.1 hrow
    obtain ⟨content, -, rfl⟩ := List.mem_map.1 hcell
    exact content?_of_definition hv rfl rfl
  rw [clean_some_iff, misplacements_eq_nil (by rw [Option.bind_some, hcontent]),
    Registry.contains_eq_true_iff hr]

end BuiltIn

end Validator

/-- Whatever a draft goes through, the finished table has one row for the header row that was set last,
unless that has no cells, and then one for each added row in order; each row has exactly its cells, and
each cell its content. In every registry that grew from the baseline it is without findings exactly when
each node in a cell is so on its own and has a defined kind that belongs to text, and nothing is found
above the content of the cells. -/
theorem table_keeps_cells (edits : List TableEdit) :
    let table := (({} : TableDraft).after edits).build
    let headerRow := if TableEdit.lastHeaders edits = [] then [] else [TableEdit.lastHeaders edits]
    (∃ align, table = .parent (.table align) ((headerRow ++ TableEdit.addedRows edits).map fun cells =>
      .parent .tableRow (cells.map fun content => .parent .tableCell content))) ∧
    (∀ headers rows, TableDraft.simple headers rows =
      (({} : TableDraft).after [.headers headers, .addRows rows]).build) ∧
    ∀ (history : List Mutation) (options : ValidatorOptions), options.checkReferences = false →
      let v : Validator := ⟨Registry.baseline.after history, options⟩
      ∃ report, v.validate table = .ok report ∧
        (report.findings = [] ↔ ∀ row ∈ table.children, ∀ cell ∈ row.children, ∀ node ∈ cell.children,
          (∃ report, v.validate node = .ok report ∧ report.findings = []) ∧
            v.registry.contains .phrasing node.kind = .ok true ∧
            (v.registry.kind? node.kind).isSome) ∧
        ∀ f ∈ report.findings, 3 ≤ f.path.indices.length := by
  intro table headerRow
  obtain ⟨align, htable⟩ : ∃ align,
      table = .parent (.table align) ((headerRow ++ TableEdit.addedRows edits).map TableDraft.row) := by
    have hbuild := (({} : TableDraft).after edits).build_eq
    rw [TableDraft.headers_after, TableDraft.rows_after] at hbuild
    exact ⟨_, hbuild⟩
  refine ⟨⟨align, htable⟩, fun headers rows => rfl, fun history options hoff => ?_⟩
  intro v
  have hv : v.registry = Registry.baseline.after history := by dsimp only [v]
  have hr : v.registry.WellFormed := (Registry.reachable_baseline.after history).wellFormed
  have hreport := Validator.validate_eq hr table
  refine ⟨_, hreport, ?_, fun f hf => Validator.length_path_of_mem_findings hv htable hr hoff hreport hf⟩
  rw [Validator.findings_eq_nil_iff hr hreport, Validator.referenceFindings?_off hoff,
    and_iff_left rfl, ← Validator.clean_iff_accepts, Validator.clean_table_iff hv htable]
  refine forall₂_congr fun row hrow => forall₂_congr fun cell hcell => forall₂_congr fun node _ => ?_
  rw [Validator.clean_in_cell_iff hv htable hr hrow hcell,
    Validator.clean_iff_finds_nothing hr hoff]

/-- A header row that is set twice, ragged rows and an alignment before the last of them, after poems were
added. -/
theorem table_keeps_cells_ragged :
    let text : Node := .literal .text "a"
    let edits : List TableEdit := [.headers [[], []], .addRow [[text], []], .alignAll .left,
      .headers [[text]], .addRows [[], [[text, text], [], []]]]
    let table := (({} : TableDraft).after edits).build
    let rows : List Node := [.parent .tableRow [.parent .tableCell [text]],
      .parent .tableRow [.parent .tableCell [text], .parent .tableCell []], .parent .tableRow [],
      .parent .tableRow [.parent .tableCell [text, text], .parent .tableCell [], .parent .tableCell []]]
    let v : Validator := ⟨Registry.baseline.after [.define Extension.poemDef], { checkReferences := false }⟩
    v.options.checkReferences = false ∧ (∃ align, table = .parent (.table align) rows) ∧
      ∃ report, v.validate table = .ok report ∧ report.findings = [] := by
  intro text edits table rows v
  obtain ⟨hcells, -, hvalidate⟩ := table_keeps_cells edits
  obtain ⟨report, hreport, hiff, -⟩ :=
    hvalidate [.define Extension.poemDef] { checkReferences := false } rfl
  have htext : ∀ row ∈ rows, ∀ cell ∈ row.children, ∀ node ∈ cell.children, node = text := by
    simp [rows, Node.children]
  have halone : v.validate text = .ok ⟨true, []⟩ := by decide +kernel
  have hmember : v.registry.contains .phrasing text.kind = .ok true ∧
      (v.registry.kind? text.kind).isSome := by decide +kernel
  refine ⟨rfl, hcells, report, hreport, hiff.2 fun row hrow cell hcell node hnode => ?_⟩
  rw [htext row hrow cell hcell node hnode]
  exact ⟨⟨_, halone, rfl⟩, hmember⟩

end WikiDoc
