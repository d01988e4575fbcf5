import WikiDoc.Proofs.Validation.Exactness

/-!
How references are resolved, said without the two walks.

The first walk adds up the definitions of a tree by sort and normalized identifier. However they are
spread over the tree, the count that it arrives at for an identifier is the number of paths that lead
to a definition which the identifier matches (`count_ofTree`). So the second walk reports, in document
order, exactly the references for which this number is not one.
-/

namespace WikiDoc

namespace DefinitionIndex

/-- The definition of a node, with the sort of references that it is for. -/
def definition? : Node → Option (ReferenceSort × Association)
  | .leaf (.definition association _) => some (.link, association)
  | .parent (.footnoteDefinition association) _ => some (.footnote, association)
  | _ => none

/-- Whether a node is a definition of a sort that an identifier matches. -/
def defines (matching : IdentifierMatching) (sort : ReferenceSort) (identifier : String)
    (node : Node) : Bool :=
  (definition? node).any fun (sort', association) =>
    decide (sort' = sort) && matching.normalize association.identifier == matching.normalize identifier

end DefinitionIndex

/-- The paths of the definitions of a sort that an identifier matches. -/
def definitionPaths (matching : IdentifierMatching) (tree : Node) (sort : ReferenceSort)
    (identifier : String) : List Path :=
  tree.paths.filter fun path => (tree.at? path).any (DefinitionIndex.defines matching sort identifier)

/-- What is to be reported at a path: a reference that no definition matches, or several. -/
def referenceFindingsAt (matching : IdentifierMatching) (tree : Node) (path : Path) : List Finding :=
  match (tree.at? path).bind DefinitionIndex.reference? with
  | none => []
  | some (sort, reference) =>
    match (definitionPaths matching tree sort reference.identifier).length with
    | 0 => [⟨path, .unresolved reference.identifier⟩]
    | 1 => []
    | count => [⟨path, .ambiguous reference.identifier count⟩]

namespace DefinitionIndex

/-! ### The first walk counts -/

/-- Counts the definition of a node, if it is one. -/
def note (index : DefinitionIndex) (node : Node) : DefinitionIndex :=
  match definition? node with
  | some (sort, association) => index.add sort association
  | none => index

theorem counter_stepAt (s : Site) : counter.stepAt s = Step.update (·.note s.node) := by
  have henter : counter.enter s.node s.path = Step.skip := rfl
  rw [Visitor.stepAt, henter, Step.skip_andThen]
  obtain ⟨path, node, above⟩ := s
  cases node with
  | parent tag children => cases tag <;> rfl
  | literal tag value => rfl
  | leaf tag => cases tag <;> rfl
  | custom info children => rfl

/-- The first walk notes the nodes of the tree one after the other. -/
theorem ofTree_eq_foldl (matching : IdentifierMatching) (tree : Node) :
    ofTree matching tree = tree.sites.foldl (fun index s => index.note s.node) { matching } := by
  have hsteps : counter.stepAt = fun s => Step.update (·.note s.node) := funext counter_stepAt
  rw [ofTree, Visitor.walk_eq _ (fun _ _ => rfl), hsteps,
    Step.sequence_update (fun (index : DefinitionIndex) (s : Site) => index.note s.node)]

theorem matching_note (index : DefinitionIndex) (node : Node) :
    (index.note node).matching = index.matching := by
  rw [note]
  split <;> rfl

/-- One more definition adds one to the count of the identifiers that match it, and to no other. -/
theorem count_note (index : DefinitionIndex) (node : Node) (sort : ReferenceSort)
    (identifier : String) : (index.note node).count sort identifier =
      index.count sort identifier + if defines index.matching sort identifier node then 1 else 0 := by
  rw [note, defines]
  cases definition? node with
  | none => rfl
  | some found =>
    obtain ⟨sort', association⟩ := found
    simp only [Option.any_some, Bool.and_eq_true, decide_eq_true_iff, beq_iff_eq]
    rw [count, add, OrderedMap.get?_insert]
    by_cases hkey : sort' = sort ∧
        index.matching.normalize association.identifier = index.matching.normalize identifier
    · -- the identifier has the key of the definition, and with it its count
      rw [if_pos hkey, if_pos (Prod.ext hkey.1.symm hkey.2.symm), count, count, hkey.1, hkey.2]
      rfl
    · rw [if_neg hkey, if_neg fun h => hkey ⟨(Prod.ext_iff.1 h).1.symm, (Prod.ext_iff.1 h).2.symm⟩]
      rfl

theorem count_foldl_note (sort : ReferenceSort) (identifier : String) :
    ∀ (sites : List Site) (index : DefinitionIndex),
      (sites.foldl (fun index s => index.note s.node) index).count sort identifier =
        index.count sort identifier +
          sites.countP fun s => defines index.matching sort identifier s.node
  | [], index => rfl
  | s :: sites, index => by
    rw [List.foldl_cons, count_foldl_note sort identifier sites, matching_note, count_note,
      List.countP_cons]
    omega

/-- The count of an identifier is the number of paths to definitions that it matches. -/
theorem count_ofTree (matching : IdentifierMatching) (tree : Node) (sort : ReferenceSort)
    (identifier : String) : (ofTree matching tree).count sort identifier =
      (definitionPaths matching tree sort identifier).length := by
  have hzero : ({ matching } : DefinitionIndex).count sort identifier = 0 := rfl
  rw [ofTree_eq_foldl, count_foldl_note, hzero, Nat.zero_add, definitionPaths,
    ← List.countP_eq_length_filter, Node.paths, List.countP_map]
  apply List.countP_congr
  intro s hs
  rw [Function.comp_apply, ((Node.mem_sites tree s).1 hs).1, Option.any_some]

/-! ### The second walk reports -/

theorem findingAt?_toList (matching : IdentifierMatching) (tree : Node) {s : Site}
    (hs : s ∈ tree.sites) : ((ofTree matching tree).findingAt? s).toList =
      referenceFindingsAt matching tree s.path := by
  rw [findingAt?, referenceFindingsAt, ((Node.mem_sites tree s).1 hs).1, Option.bind_some]
  cases reference? s.node with
  | none => rfl
  | some found =>
    obtain ⟨sort, reference⟩ := found
    simp only [Option.bind_some, violation?, count_ofTree]
    rcases (definitionPaths matching tree sort reference.identifier).length with _ | _ | count <;> rfl

end DefinitionIndex

/-- The second walk reports what is to be reported, path by path. -/
theorem referenceFindings_eq_flatMap (matching : IdentifierMatching) (tree : Node) :
    referenceFindings matching tree = tree.paths.flatMap (referenceFindingsAt matching tree) := by
  rw [referenceFindings, Node.paths, List.flatMap_map]
  exact List.flatMap_congr fun s hs => DefinitionIndex.findingAt?_toList matching tree hs

/-- The findings about references of a validation are those of the second walk. -/
theorem Validator.filter_isReference {v : Validator} (tree : Node) :
    (tree.sites.flatMap v.siteFindings ++ v.referenceFindings? tree).filter
      (·.violation.isReference) = v.referenceFindings? tree := by
  rw [List.filter_append]
  have hsites : (tree.sites.flatMap v.siteFindings).filter (·.violation.isReference) = [] := by
    rw [List.filter_eq_nil_iff]
    intro f hf
    obtain ⟨s, _, hf⟩ := List.mem_flatMap.1 hf
    rw [Validator.isReference_of_mem_siteFindings hf]
    exact Bool.false_ne_true
  rw [hsites, List.nil_append, List.filter_eq_self]
  exact fun f hf => Validator.isReference_of_mem_referenceFindings? hf

/-- No node is both a reference and a definition. -/
theorem definition?_of_reference? {node : Node} (h : (DefinitionIndex.reference? node).isSome) :
    DefinitionIndex.definition? node = none := by
  unfold DefinitionIndex.reference? at h
  split at h
  · rfl
  · rfl
  · cases h

/-- A finding about a reference stands at the reference. -/
theorem isSome_reference?_of_mem {matching : IdentifierMatching} {tree : Node} {path : Path}
    {f : Finding} (hf : f ∈ referenceFindingsAt matching tree path) : f.path = path ∧
      ∃ node, tree.at? path = some node ∧ (DefinitionIndex.reference? node).isSome := by
  unfold referenceFindingsAt at hf
  split at hf
  · cases hf
  · next sort reference href =>
    obtain ⟨node, hnode, hreference⟩ := Option.bind_eq_some_iff.1 href
    refine ⟨?_, node, hnode, Option.isSome_iff_exists.2 ⟨_, hreference⟩⟩
    split at hf
    · rw [List.mem_singleton.1 hf]
    · cases hf
    · rw [List.mem_singleton.1 hf]

/-- For every registry that additions lead to, a validation succeeds. If it is asked to check
references, its findings about them are, in the order of paths, one for each reference that the
identifiers of no definition or of several definitions of its sort match; they stand at references
alone. If it is not asked to, there are none. -/
theorem referenceFindings_exact (r : Registry) (hr : r.Reachable) (options : ValidatorOptions)
    (tree : Node) : ∃ report, (Validator.mk r options).validate tree = .ok report ∧
      tree.paths.Pairwise (fun p q => compare p q = .lt) ∧
      (∀ path, path ∈ tree.paths ↔ (tree.at? path).isSome) ∧
      report.findings.filter (·.violation.isReference) =
        (if options.checkReferences then
          tree.paths.flatMap (referenceFindingsAt options.identifierMatching tree)
        else []) ∧
      ∀ f ∈ report.findings, f.violation.isReference = true → ∃ node,
        tree.at? f.path = some node ∧ (DefinitionIndex.reference? node).isSome ∧
          DefinitionIndex.definition? node = none := by
  have hrefs : (Validator.mk r options).referenceFindings? tree =
      if options.checkReferences then
        tree.paths.flatMap (referenceFindingsAt options.identifierMatching tree) else [] := by
    rw [Validator.referenceFindings?, referenceFindings_eq_flatMap]
  have hfilter := (Validator.filter_isReference (v := ⟨r, options⟩) tree).trans hrefs
  refine ⟨_, Validator.validate_eq hr.wellFormed tree, tree.paths_increasing, tree.mem_paths, hfilter, ?_⟩
  intro f hf href
  have hmem : f ∈ List.filter (·.violation.isReference) _ := List.mem_filter.2 ⟨hf, href⟩
  rw [Report.ofFindings, hfilter] at hmem
  split at hmem
  · obtain ⟨path, _, hmem⟩ := List.mem_flatMap.1 hmem
    obtain ⟨rfl, node, hnode, hreference⟩ := isSome_reference?_of_mem hmem
    exact ⟨node, hnode, hreference, definition?_of_reference? hreference⟩
  · cases hmem

/-- A footnote without a definition of its own sort, one with two definitions that differ in case, and
a link with one; a definition that is not referred to. -/
theorem referenceFindings_exact_footnotes :
    let options : ValidatorOptions := { identifierMatching := .caseInsensitive }
    let aside : Node := .custom { origin := "aside", kind := "aside", shape := .parent }
      [.parent (.footnoteDefinition ⟨"B  c", none⟩) [.leaf (.definition ⟨"a", none⟩ ⟨"u", none⟩)],
        .leaf (.definition ⟨"x", none⟩ ⟨"v", none⟩)]
    let tree : Node := .parent .root [.leaf (.footnoteReference ⟨⟨"A", none⟩, .shortcut⟩),
      .parent (.linkReference ⟨⟨"A", none⟩, .shortcut⟩)
        [.leaf (.footnoteReference ⟨⟨"b c", none⟩, .full⟩)],
      aside, .parent (.footnoteDefinition ⟨"b C", none⟩) []]
    Registry.baseline.Reachable ∧
      tree.paths.flatMap (referenceFindingsAt options.identifierMatching tree) =
        [⟨⟨[0]⟩, .unresolved "A"⟩, ⟨⟨[1, 0]⟩, .ambiguous "b c" 2⟩] ∧
      ∃ report, (Validator.mk .baseline options).validate tree = .ok report ∧
        tree.paths.Pairwise (fun p q => compare p q = .lt) ∧
        (∀ path, path ∈ tree.paths ↔ (tree.at? path).isSome) ∧
        report.findings.filter (·.violation.isReference) =
          (if options.checkReferences then
            tree.paths.flatMap (referenceFindingsAt options.identifierMatching tree)
          else []) ∧
        ∀ f ∈ report.findings, f.violation.isReference = true → ∃ node,
          tree.at? f.path = some node ∧ (DefinitionIndex.reference? node).isSome ∧
            DefinitionIndex.definition? node = none := by
  intro options aside tree
  have hopen : tree.paths.flatMap (referenceFindingsAt options.identifierMatching tree) =
      [⟨⟨[0]⟩, .unresolved "A"⟩, ⟨⟨[1, 0]⟩, .ambiguous "b c" 2⟩] := by decide +kernel
  have hr := Registry.reachable_baseline
  exact ⟨hr, hopen, referenceFindings_exact .baseline hr options tree⟩

end WikiDoc
