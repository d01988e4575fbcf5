import WikiDoc.Proofs.Registry.Members
import WikiDoc.Proofs.Validation.Acceptance

/-!
What stands below what in a valid tree of built-in kinds.

A valid tree falls into strata. What holds text holds nothing but text, at any depth
(`Accepts.phrasing_below`): a child of text is text again, whichever kind of text it stands in. Lists,
tables and rows and their parts come together only, a gallery holds images, and a root is never below
anything (`assembly_content`). All this is read off the table of built-in kinds, where the category that
a definition asks for says which kinds its children may have (`Accepts.baseline`).
-/

namespace WikiDoc

namespace Baseline

/-- The kinds whose children are text. -/
def textHolders : List String :=
  ["paragraph", "heading", "tableCell", "emphasis", "strong", "delete", "footnote", "link",
    "linkReference"]

/-- The kinds that are no text: those of blocks only, of definitions and of parts, and the root. -/
def nonTextKinds : List String :=
  ["paragraph", "heading", "list", "listItem", "table", "tableRow", "tableCell", "blockquote", "code",
    "thematicBreak", "definition", "footnoteDefinition", "root"]

/-- The kinds that consist of parts, each with the kind of its parts. -/
def assemblies : List (String × String) :=
  [("list", "listItem"), ("table", "tableRow"), ("tableRow", "tableCell")]

/-- What a holder of text asks for is text. -/
theorem textHolder_content : ∀ d ∈ kinds, d.kind ∈ textHolders → ∀ c ∈ d.content, ∀ kind ∈ members c,
    kind ∈ members Category.phrasing := by decide

/-- What text holds is text. -/
theorem phrasing_content : ∀ d ∈ kinds, d.kind ∈ members Category.phrasing → ∀ c ∈ d.content,
    ∀ kind ∈ members c, kind ∈ members Category.phrasing := by decide

theorem phrasing_notMem_nonTextKinds : ∀ kind ∈ members Category.phrasing, kind ∉ nonTextKinds := by
  decide

/-- Parts are asked for by their own assembly and by no other kind, and it asks for nothing else. -/
theorem assembly_content : ∀ d ∈ kinds, ∀ c ∈ d.content, ∀ kind ∈ members c,
    (∀ assembly ∈ assemblies, d.kind = assembly.1 ↔ kind = assembly.2) ∧
      (d.kind = "gallery" → kind = "image") ∧ kind ≠ "root" := by decide

end Baseline

namespace Validator

-- the validator is a variable here: with the baseline written out, unification would unfold it
variable {v : Validator} (hv : v.registry = Registry.baseline) {tree : Node}

include hv

/-- A node of a tree that the baseline accepts has a built-in kind, and its children have kinds that the
definition asks for. -/
theorem Accepts.baseline (h : v.Accepts tree) (htop : (v.registry.kind? tree.kind).isSome)
    {path : Path} {node child : Node} {i : Nat} (hnode : tree.at? path = some node)
    (hchild : node.children[i]? = some child) :
    ∃ d ∈ Baseline.kinds, d.kind = node.kind ∧ ∃ c ∈ d.content, child.kind ∈ Baseline.members c := by
  have hnames : v.registry.NamesContent := hv ▸ Registry.namesContent_baseline
  obtain ⟨c, hc, hbelongs, _⟩ := h.child hnames hnode hchild (h.defined hnames htop hnode)
  obtain ⟨d, hd, hcontent⟩ := Option.bind_eq_some_iff.1 hc
  rw [hv] at hd hbelongs
  obtain ⟨hmem, hkind⟩ := Registry.kind?_baseline.1 hd
  exact ⟨d, hmem, hkind, c, hcontent, Registry.belongs_baseline hbelongs⟩

/-- Everything below a holder of text is text. -/
theorem Accepts.phrasing_below (h : v.Accepts tree) (htop : (v.registry.kind? tree.kind).isSome)
    {p : Path} {outer : Node} (houter : tree.at? p = some outer)
    (hholder : outer.kind ∈ Baseline.textHolders) {q : Path} {node : Node}
    (hnode : tree.at? q = some node) (hpq : p.Above q) :
    node.kind ∈ Baseline.members Category.phrasing := by
  refine Node.at?_induction
    (P := fun q node => p.Above q → node.kind ∈ Baseline.members Category.phrasing) ?_ ?_ hnode hpq
  · rintro ⟨i, rest, hroot⟩
    simp [Path.root] at hroot
  · intro m holder i child hholder' ih hchild hbelow
    obtain ⟨d, hd, hkind, c, hc, hmem⟩ := h.baseline hv htop hholder' hchild
    obtain ⟨m', i', hlast, hm'⟩ := hbelow.last
    obtain ⟨rfl, rfl⟩ : m = m' ∧ i = i' := Path.child_inj hlast
    rcases hm' with rfl | hm'
    · rw [houter, Option.some.injEq] at hholder'
      subst hholder'
      exact Baseline.textHolder_content d hd (hkind ▸ hholder) c hc _ hmem
    · exact Baseline.phrasing_content d hd (hkind ▸ ih hm') c hc _ hmem

/-- A node below the top stands in a node of a kind that asks for it. -/
theorem Accepts.holder (h : v.Accepts tree) (htop : (v.registry.kind? tree.kind).isSome) {q : Path}
    {node : Node} (hnode : tree.at? q = some node) (hq : q ≠ Path.root) :
    ∃ holder, tree.above? q = some holder ∧
      ∃ d ∈ Baseline.kinds, d.kind = holder.kind ∧ ∃ c ∈ d.content, node.kind ∈ Baseline.members c := by
  obtain ⟨m, i, rfl⟩ := Path.eq_child hq
  rw [Node.at?_child, Option.bind_eq_some_iff] at hnode
  obtain ⟨holder, hholder, hchild⟩ := hnode
  exact ⟨holder, above?_child hholder i, h.baseline hv htop hholder hchild⟩

end Validator

/-- In a tree without findings everything below a holder of text belongs to text, so that nothing that is
no text stands there. Every node but the top one stands in another, which is a list, a table or a row
exactly when the node is a list item, a row or a cell; in a gallery it is an image, and nowhere a
root. -/
theorem containment_strata (tree : Node) (htop : (Registry.baseline.kind? tree.kind).isSome)
    (options : ValidatorOptions) (report : Report)
    (hreport : (Validator.mk Registry.baseline options).validate tree = .ok report)
    (hnone : report.findings = []) :
    (∀ p q outer inner, p.Above q → tree.at? p = some outer → tree.at? q = some inner →
      outer.kind ∈ Baseline.textHolders →
      Registry.baseline.contains .phrasing inner.kind = .ok true ∧
        inner.kind ∉ Baseline.nonTextKinds) ∧
    ∀ q node, tree.at? q = some node → q ≠ Path.root → ∃ holder, tree.above? q = some holder ∧
      (∀ assembly ∈ Baseline.assemblies, holder.kind = assembly.1 ↔ node.kind = assembly.2) ∧
      (holder.kind = "gallery" → node.kind = "image") ∧ node.kind ≠ "root" := by
  obtain ⟨v, hv, hreport⟩ : ∃ v : Validator, v.registry = Registry.baseline ∧
      v.validate tree = .ok report := ⟨_, by dsimp only, hreport⟩
  rw [← hv] at htop
  have hbaseline := Registry.reachable_baseline.wellFormed
  have hr : v.registry.WellFormed := hv ▸ hbaseline
  have haccepts : v.Accepts tree := ((Validator.findings_eq_nil_iff hr hreport).1 hnone).1
  constructor
  · intro p q outer inner hpq houter hinner hholder
    have htext := haccepts.phrasing_below hv htop houter hholder hinner hpq
    refine ⟨(Registry.contains_eq_true_iff hbaseline).2 (Registry.belongs_of_mem_members htext), ?_⟩
    exact Baseline.phrasing_notMem_nonTextKinds _ htext
  · intro q node hnode hq
    obtain ⟨holder, habove, d, hd, hkind, c, hc, hmem⟩ := haccepts.holder hv htop hnode hq
    exact ⟨holder, habove, hkind ▸ Baseline.assembly_content d hd c hc _ hmem⟩

/-- A table and a list with a gallery and a footnote in them, each several levels deep. -/
theorem containment_strata_table :
    let image : Node := .leaf (.image { resource := ⟨"a.png", none⟩ })
    let note : Node := .parent .footnote [.parent .strong [.literal .text "a", .literal .html "b"]]
    let table : Node := .parent (.table [])
      [.parent .tableRow [.parent .tableCell [.parent (.gallery .empty) [image], note]]]
    let tree : Node := .parent .root [.parent .blockquote [table],
      .parent (.list {}) [.parent (.listItem {}) [.parent .paragraph [image, note], image]]]
    let options : ValidatorOptions := { checkReferences := false }
    (Registry.baseline.kind? tree.kind).isSome ∧
      (Validator.mk Registry.baseline options).validate tree = .ok ⟨true, []⟩ ∧
      (∀ p q outer inner, p.Above q → tree.at? p = some outer → tree.at? q = some inner →
        outer.kind ∈ Baseline.textHolders →
        Registry.baseline.contains .phrasing inner.kind = .ok true ∧
          inner.kind ∉ Baseline.nonTextKinds) ∧
      ∀ q node, tree.at? q = some node → q ≠ Path.root → ∃ holder, tree.above? q = some holder ∧
        (∀ assembly ∈ Baseline.assemblies, holder.kind = assembly.1 ↔ node.kind = assembly.2) ∧
        (holder.kind = "gallery" → node.kind = "image") ∧ node.kind ≠ "root" := by
  intro image note table tree options
  have htop : (Registry.baseline.kind? tree.kind).isSome := by decide +kernel
  have hvalid : (Validator.mk Registry.baseline options).validate tree = .ok ⟨true, []⟩ :=
    Report.eq_ok_of_toOption (by decide +kernel)
  exact ⟨htop, hvalid, containment_strata tree htop options _ hvalid rfl⟩

end WikiDoc
