import WikiDoc.Proofs.Kind.Conformance
import WikiDoc.Proofs.Registry.Rebuild
import WikiDoc.Proofs.Validation.Construction

/-!
Built-in nodes never contradict the shape of their kind.

A built-in node shows the shape that the definition of its kind asks for, so that no validation of a tree
of such nodes finds a shape violated (`Validator.no_misshape`). All that can be wrong with the node itself
are the flaws of its data (`builtIn_conforms`).
-/

namespace WikiDoc

section Content

variable {node : Node}

/-- Of the built-in nodes, the literal ones have a value. -/
theorem Node.value_iff_literal (h : node.origin? = none) :
    node.value.isSome ↔ node.shape = .literal := by
  cases node with
  | parent tag children => simp [value, shape]
  | literal tag value => simp [Node.value, shape]
  | leaf tag => simp [value, shape]
  | custom info children => cases h

/-- Of the built-in nodes, only parents have children. -/
theorem Node.parent_of_children (h : node.origin? = none) (hchildren : node.children ≠ []) :
    node.shape = .parent := by
  cases node with
  | parent tag children => rfl
  | literal tag value => exact absurd rfl hchildren
  | leaf tag => exact absurd rfl hchildren
  | custom info children => cases h

end Content

/-- The definition of a built-in kind is never replaced. -/
theorem Registry.kind?_after_baseline {history : List Mutation} {kind : String} {d : KindDef}
    (h : Baseline.definition? kind = some d) : (baseline.after history).kind? kind = some d := by
  have hkind : d.kind = kind := by simpa using List.find?_some h
  have hd : baseline.kind? kind = some d := kind?_baseline.2 ⟨List.mem_of_find?_eq_some h, hkind⟩
  exact (steps_after history baseline).grows.kind? hd

/-- A node that shows the shape of its kind has no violation of it. -/
theorem Validator.no_misshape {v : Validator} {above : Option Node} {node : Node} {d : KindDef}
    (hd : v.registry.kind? node.kind = some d) (hshape : node.observedShape = d.shape)
    (expected actual : Shape) : .shape expected actual ∉ v.violations above node := by
  intro hmem
  rw [violations, List.mem_append, List.mem_append] at hmem
  rcases hmem with (hmem | hmem) | hmem
  · obtain ⟨category, heq⟩ := mem_misplacements hmem
    cases heq
  · have hnone : v.misshapes node = [] := by rw [misshapes_eq, hd]; exact if_pos hshape
    rw [hnone] at hmem
    cases hmem
  · obtain ⟨-, _, -, problem, -, heq⟩ := mem_badAttributes.1 hmem
    cases heq

/-- Whatever is added to the baseline, the kind of a built-in node is defined, with the shape that the
node declares and shows. It has a value exactly if it is a literal, and children only if it is a parent.
Its attributes have exactly the problems that the flaws of its data lead to, one for each: none is
missing, undeclared or of the wrong type. And a tree of built-in nodes is validated without a finding
about a shape. -/
theorem builtIn_conforms (history : List Mutation) :
    (∀ node : Node, node.origin? = none → ∃ d,
      (Registry.baseline.after history).kind? node.kind = some d ∧
      d.shape = node.shape ∧ node.observedShape = node.shape ∧
      (node.value.isSome ↔ node.shape = .literal) ∧
      (node.children ≠ [] → node.shape = .parent) ∧
      d.problems node.attributes = node.flaws.map Flaw.problem ∧
      ∀ problem ∈ d.problems node.attributes, ∃ name rejection,
        problem = .invalid name rejection ∧ rejection.isTypeError = false) ∧
    ∀ (tree : Node) (options : ValidatorOptions), tree.BuiltIn → ∃ report,
      (Validator.mk (Registry.baseline.after history) options).validate tree = .ok report ∧
      ∀ path expected actual, ⟨path, .shape expected actual⟩ ∉ report.findings := by
  constructor
  · intro node horigin
    obtain ⟨d, hd, hshape, hproblems⟩ := Baseline.conforms_node horigin
    refine ⟨d, Registry.kind?_after_baseline hd, hshape, Node.observedShape_of_builtIn horigin,
      Node.value_iff_literal horigin, Node.parent_of_children horigin, hproblems, ?_⟩
    intro problem hproblem
    obtain ⟨flaw, -, rfl⟩ := List.mem_map.1 (hproblems ▸ hproblem)
    exact flaw.problem_eq_invalid
  · intro tree options hbuiltIn
    have hwell : (Registry.baseline.after history).WellFormed :=
      (Registry.reachable_baseline.after history).wellFormed
    have hreport := Validator.validate_eq (v := ⟨_, options⟩) hwell tree
    refine ⟨_, hreport, fun path expected actual hmem => ?_⟩
    obtain ⟨node, hnode, hviolation⟩ := (Validator.mem_findings_iff hwell hreport rfl).1 hmem
    have horigin := hbuiltIn path node hnode
    obtain ⟨d, hd, hshape, -⟩ := Baseline.conforms_node horigin
    have hobserved : node.observedShape = d.shape :=
      (Node.observedShape_of_builtIn horigin).trans hshape.symm
    exact Validator.no_misshape (Registry.kind?_after_baseline hd) hobserved expected actual hviolation

/-- An image with a locator of two lines and an unknown placement, beside a heading that is too deep, after
poems were added. -/
theorem builtIn_conforms_image :
    let r := Registry.baseline.after [.define Extension.poemDef]
    let image : Node := .leaf (.image
      { resource := { url := "a\nb" }, options := { location := some "top", size := some "10px" } })
    let tree : Node := .parent .root [image, .parent (.heading 7) []]
    image.origin? = none ∧ tree.BuiltIn ∧
      (∃ d, r.kind? "image" = some d ∧ d.shape = .leaf ∧ d.problems image.attributes =
        [.invalid "url" (.multipleLines "a\nb"),
          .invalid "location" (.notListed "top" ["left", "right", "center", "none"])]) ∧
      ∃ report, (Validator.mk r {}).validate tree = .ok report ∧
        ∀ path expected actual, ⟨path, .shape expected actual⟩ ∉ report.findings := by
  intro r image tree
  have htree : tree.BuiltIn := by decide
  obtain ⟨hnodes, htrees⟩ := builtIn_conforms [.define Extension.poemDef]
  obtain ⟨d, hd, hshape, -, -, -, hproblems, -⟩ := hnodes image rfl
  refine ⟨rfl, htree, ⟨d, hd, hshape, hproblems.trans ?_⟩, htrees tree {} htree⟩
  decide

end WikiDoc
