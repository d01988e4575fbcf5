import WikiDoc.Proofs.Validation.Strata

/-!
Links within links.

A link holds static phrasing, and no link is static phrasing itself. But emphasis, strong emphasis,
deleted text and footnotes are static phrasing and hold phrasing of any sort, links among it. So a valid
tree may have a link below a link, and it has one exactly when one of these four kinds stands somewhere
below a link and holds a link as its child.
-/

namespace WikiDoc

/-- The kinds of links. -/
def linkKinds : List String := ["link", "linkReference"]

/-- The kinds that are legal in a link and hold text in which links are legal. -/
def wrapperKinds : List String := ["emphasis", "strong", "delete", "footnote"]

/-- A link stands somewhere below another link. -/
def LinksNest (tree : Node) : Prop :=
  ∃ p q outer inner, p.Above q ∧ tree.at? p = some outer ∧ tree.at? q = some inner ∧
    outer.kind ∈ linkKinds ∧ inner.kind ∈ linkKinds

namespace Baseline

/-- What a link holds is text, but no link. -/
theorem link_content : ∀ d ∈ kinds, d.kind ∈ linkKinds → ∀ c ∈ d.content, ∀ kind ∈ members c,
    kind ∈ members Category.phrasing ∧ kind ∉ linkKinds := by decide

/-- Of the kinds of text, only the wrappers may hold a link. -/
theorem wrapper_content : ∀ d ∈ kinds, d.kind ∈ members Category.phrasing → ∀ c ∈ d.content,
    ∀ kind ∈ members c, kind ∈ linkKinds → d.kind ∈ wrapperKinds := by decide

end Baseline

/-- Everything below a link is text. -/
theorem Validator.Accepts.phrasing_below_link {v : Validator} (hv : v.registry = Registry.baseline)
    {tree : Node} (h : v.Accepts tree) (htop : (v.registry.kind? tree.kind).isSome) {p : Path}
    {outer : Node} (houter : tree.at? p = some outer) (hlink : outer.kind ∈ linkKinds) {q : Path}
    {node : Node} (hnode : tree.at? q = some node) (hpq : p.Above q) :
    node.kind ∈ Baseline.members Category.phrasing := by
  have hsub : ∀ kind ∈ linkKinds, kind ∈ Baseline.textHolders := by decide
  exact h.phrasing_below hv htop houter (hsub _ hlink) hnode hpq

/-- In a tree without findings a link stands below another one exactly when emphasis, strong emphasis,
deleted text or a footnote below a link holds a link. -/
theorem linksNest_iff (tree : Node) (htop : (Registry.baseline.kind? tree.kind).isSome)
    (options : ValidatorOptions) (report : Report)
    (hreport : (Validator.mk Registry.baseline options).validate tree = .ok report)
    (hnone : report.findings = []) :
    LinksNest tree ↔ ∃ p m i outer wrapper inner, p.Above m ∧ tree.at? p = some outer ∧
      tree.at? m = some wrapper ∧ tree.at? (m.child i) = some inner ∧
      outer.kind ∈ linkKinds ∧ wrapper.kind ∈ wrapperKinds ∧ inner.kind ∈ linkKinds := by
  obtain ⟨v, hv, hreport⟩ : ∃ v : Validator, v.registry = Registry.baseline ∧
      v.validate tree = .ok report := ⟨_, by dsimp only, hreport⟩
  rw [← hv] at htop
  have hr : v.registry.WellFormed := hv ▸ Registry.reachable_baseline.wellFormed
  have haccepts : v.Accepts tree := ((Validator.findings_eq_nil_iff hr hreport).1 hnone).1
  constructor
  · rintro ⟨p, q, outer, inner, hpq, houter, hinner, hlink, hlink'⟩
    obtain ⟨m, i, rfl, hm⟩ := hpq.last
    rw [Node.at?_child, Option.bind_eq_some_iff] at hinner
    obtain ⟨wrapper, hwrapper, hchild⟩ := hinner
    obtain ⟨d, hd, hkind, c, hc, hmem⟩ := haccepts.baseline hv htop hwrapper hchild
    rcases hm with rfl | hm
    · -- right above the inner link there would be the outer one
      rw [houter, Option.some.injEq] at hwrapper
      subst hwrapper
      exact absurd hlink' (Baseline.link_content d hd (hkind ▸ hlink) c hc _ hmem).2
    · have htext := haccepts.phrasing_below_link hv htop houter hlink hwrapper hm
      refine ⟨p, m, i, outer, wrapper, inner, hm, houter, hwrapper, ?_, hlink, ?_, hlink'⟩
      · rw [Node.at?_child, hwrapper, Option.bind_some, hchild]
      · exact hkind ▸ Baseline.wrapper_content d hd (hkind ▸ htext) c hc _ hmem hlink'
  · rintro ⟨p, m, i, outer, wrapper, inner, hm, houter, _, hinner, hlink, _, hlink'⟩
    exact ⟨p, m.child i, outer, inner, hm.child i, houter, hinner, hlink, hlink'⟩

/-- A link in a footnote in a link reference. -/
theorem linksNest_iff_footnote :
    let tree : Node := .parent .paragraph [.parent (.linkReference ⟨⟨"x", none⟩, .full⟩)
      [.parent .footnote [.parent (.link ⟨"https://b.example", none⟩) [.literal .text "inner"]]]]
    let options : ValidatorOptions := { checkReferences := false }
    (Registry.baseline.kind? tree.kind).isSome ∧
      (Validator.mk Registry.baseline options).validate tree = .ok ⟨true, []⟩ ∧
      (LinksNest tree ↔ ∃ p m i outer wrapper inner, p.Above m ∧ tree.at? p = some outer ∧
        tree.at? m = some wrapper ∧ tree.at? (m.child i) = some inner ∧
        outer.kind ∈ linkKinds ∧ wrapper.kind ∈ wrapperKinds ∧ inner.kind ∈ linkKinds) := by
  intro tree options
  have htop : (Registry.baseline.kind? tree.kind).isSome := by decide +kernel
  have hvalid : (Validator.mk Registry.baseline options).validate tree = .ok ⟨true, []⟩ :=
    Report.eq_ok_of_toOption (by decide +kernel)
  exact ⟨htop, hvalid, linksNest_iff tree htop options _ hvalid rfl⟩

/-- Emphasis within a link hides a link from the validator. -/
theorem linksNest_emphasis :
    let tree : Node := .parent .paragraph [.parent (.link ⟨"https://a.example", none⟩)
      [.parent .emphasis [.parent (.link ⟨"https://b.example", none⟩) [.literal .text "inner"]]]]
    (Registry.baseline.kind? tree.kind).isSome ∧
      (Validator.mk Registry.baseline { checkReferences := false }).validate tree = .ok ⟨true, []⟩ ∧
      LinksNest tree := by
  intro tree
  refine ⟨by decide +kernel, Report.eq_ok_of_toOption (by decide +kernel), ?_⟩
  exact ⟨⟨[0]⟩, ⟨[0, 0, 0]⟩, _, _, ⟨0, [0], rfl⟩, rfl, rfl, by decide +kernel, by decide +kernel⟩

end WikiDoc
