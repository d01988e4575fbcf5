import WikiDoc.Kind.Extension
import WikiDoc.Proofs.Kind.Sameness
import WikiDoc.Proofs.Registry.Growth

/-!
What a registry holds, it keeps.

Additions write behind what is there and nowhere else (`Steps.grows`): categories, definitions, the
members and the includes of a category stay where they are, from whatever registry one starts. In
particular the definition of a kind is the first that came. A later one is refused or, if it is taken
for the same, dropped (`define_defined`), also when it brings another constructor
(`define_rebuilt`).
-/

namespace WikiDoc

namespace Registry

variable {r : Registry}

/-- To define a kind that has a definition changes nothing, whether or not it is refused. -/
theorem define_defined {d existing : KindDef} (h : r.kind? d.kind = some existing) :
    (r.define d).registry = r := by
  unfold define
  split
  · rfl
  · simp only [h]
    split <;> rfl

/-- A definition that differs in the constructor alone is accepted and dropped. -/
theorem define_rebuilt {d : KindDef} (build : Constructor) (h : r.kind? d.kind = some d)
    (hbuild : d.build.isSome) (hdefined : ∀ c ∈ d.categories, r.hasCategory c) :
    r.define { d with build := some build } = ⟨.ok (), r, []⟩ := by
  have hnone : r.undefined? d.categories = none := undefined?_eq_none.2 hdefined
  have hsame : d.sameAs { d with build := some build } = true :=
    KindDef.sameAs_iff.2 ⟨rfl, rfl, rfl, rfl, rfl, hbuild, KindDef.sameRules_refl d.rules⟩
  have hcategories : ({ d with build := some build } : KindDef).categories = d.categories := rfl
  simp only [define, hcategories, hnone, h, if_pos hsame]

end Registry

/-- Whatever is added to a registry, of any contents, and whether or not it succeeds: the categories and
the definitions that were there still come first and in the same order, and so do the members and the
includes of each category. A kind keeps its definition; to define it once more changes nothing, and a
definition that differs in the constructor alone is accepted without effect. -/
theorem additions_append_only (r : Registry) (history : List Mutation) :
    r.categories.keys <+: (r.after history).categories.keys ∧
    r.kinds.values <+: (r.after history).kinds.values ∧
    (∀ c entry, r.categories.get? c = some entry →
      ∃ entry', (r.after history).categories.get? c = some entry' ∧
        entry.members <+: entry'.members ∧ entry.includes <+: entry'.includes) ∧
    (∀ kind d, r.kind? kind = some d → (r.after history).kind? kind = some d) ∧
    (∀ d existing, r.kind? d.kind = some existing →
      ((r.after history).define d).registry = r.after history) ∧
    ∀ d build, r.kind? d.kind = some d → d.build.isSome → (∀ c ∈ d.categories, r.hasCategory c) →
      (r.after history).define { d with build := some build } = ⟨.ok (), r.after history, []⟩ := by
  have hgrows : r.Grows (r.after history) := (Registry.steps_after history r).grows
  refine ⟨hgrows.categories, hgrows.kinds.map Prod.snd, hgrows.entry, fun kind d => hgrows.kind?, ?_, ?_⟩
  · intro d existing hexisting
    exact Registry.define_defined (hgrows.kind? hexisting)
  · intro d build hd hbuild hdefined
    exact Registry.define_rebuilt build (hgrows.kind? hd) hbuild
      fun c hc => hgrows.hasCategory (hdefined c hc)

/-- A registry that no additions lead to, since blocks include an undefined category. Scores are defined
again with another constructor and in another way, blocks get an include and a member, and a category
and two kinds are added, one of them without success. -/
theorem additions_append_only_scores :
    let score : KindDef := { Extension.scoreDef with memberOf := [.block] }
    let silent : Constructor := fun _ => .ok Extension.marquee
    let r : Registry :=
      { categories := .ofList [(.block, ⟨["html"], [Extension.verse]⟩)]
        kinds := .ofList [("score", score)] }
    let history : List Mutation :=
      [.define { score with build := some silent }, .define (KindDef.leaf "score"),
        .defineCategory .block [.block], .register .block "score", .defineCategory .row [],
        .define Extension.stanzaDef, .define { KindDef.leaf "line" with memberOf := [.row] }]
    r.hasCategory Extension.verse = false ∧ r.kind? "score" = some score ∧
      r.categories.get? .block = some ⟨["html"], [Extension.verse]⟩ ∧
      [.block] <+: (r.after history).categories.keys ∧
      [score] <+: (r.after history).kinds.values ∧
      (∃ entry', (r.after history).categories.get? .block = some entry' ∧
        ["html"] <+: entry'.members ∧ [Extension.verse] <+: entry'.includes) ∧
      (r.after history).kind? "score" = some score ∧
      ((r.after history).define (KindDef.leaf "score")).registry = r.after history ∧
      (r.after history).define { score with build := some silent } =
        ⟨.ok (), r.after history, []⟩ := by
  intro score silent r history
  have hverse : r.hasCategory Extension.verse = false := by decide
  have hscore : r.kind? "score" = some score := rfl
  have hblock : r.categories.get? .block = some ⟨["html"], [Extension.verse]⟩ := rfl
  have hdefined : ∀ c ∈ score.categories, r.hasCategory c := by decide
  obtain ⟨hcategories, hkinds, hentry, hkind, hagain, hrebuilt⟩ := additions_append_only r history
  exact ⟨hverse, hscore, hblock, hcategories, hkinds, hentry _ _ hblock, hkind _ _ hscore,
    hagain (KindDef.leaf "score") score hscore, hrebuilt score silent hscore rfl hdefined⟩

end WikiDoc
