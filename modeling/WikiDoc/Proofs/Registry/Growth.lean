import Mathlib.Logic.Relation
import WikiDoc.Registry.Mutation

/-!
How registries grow.

Whatever is asked of a registry, it changes by three small steps only: a category gets an entry with
more includes, a defined category gets one more member, or a kind without a definition gets one
(`Adds`). Every addition is a run of such steps (`steps_apply`), a refused one the empty run. So what a
single step keeps holds along every history: nothing is taken away (`Grows`), and all categories that
are referred to stay defined (`WellFormed`).
-/

namespace WikiDoc

theorem prefix_addNew {α : Type} [DecidableEq α] (items : List α) (item : α) :
    items <+: addNew items item := by
  unfold addNew
  split
  · exact List.prefix_refl items
  · exact List.prefix_append items [item]

theorem prefix_foldl_addNew {α : Type} [DecidableEq α] : ∀ added items : List α,
    items <+: added.foldl addNew items
  | [], items => List.prefix_refl items
  | item :: added, items =>
    (prefix_addNew items item).trans (prefix_foldl_addNew added (addNew items item))

theorem mem_addNew {α : Type} [DecidableEq α] {items : List α} {item x : α} :
    x ∈ addNew items item ↔ x ∈ items ∨ x = item := by
  unfold addNew
  split
  · next h => exact ⟨Or.inl, fun hx => hx.elim id fun he => he ▸ h⟩
  · simp

theorem mem_foldl_addNew {α : Type} [DecidableEq α] {x : α} : ∀ {added items : List α},
    x ∈ added.foldl addNew items ↔ x ∈ items ∨ x ∈ added
  | [], items => by simp
  | item :: added, items => by
    rw [List.foldl_cons, mem_foldl_addNew, mem_addNew, List.mem_cons, or_assoc]

theorem nodup_addNew {α : Type} [DecidableEq α] {items : List α} (h : items.Nodup) (item : α) :
    (addNew items item).Nodup := by
  unfold addNew
  split
  · exact h
  · next hnew =>
    refine List.nodup_append.2 ⟨h, List.pairwise_singleton _ item, ?_⟩
    intro a ha b hb hab
    rw [List.mem_singleton] at hb
    exact hnew (hb ▸ hab ▸ ha)

theorem nodup_foldl_addNew {α : Type} [DecidableEq α] : ∀ (added : List α) {items : List α},
    items.Nodup → (added.foldl addNew items).Nodup
  | [], _, h => h
  | item :: added, _, h => nodup_foldl_addNew added (nodup_addNew h item)

namespace Registry

/-- The entry of a category, empty for one that is not defined. -/
def entryOf (r : Registry) (category : Category) : CategoryEntry :=
  (r.categories.get? category).getD {}

/-- Sets the entry of a category. -/
def setEntry (r : Registry) (category : Category) (entry : CategoryEntry) : Registry :=
  { r with categories := r.categories.insert category entry }

/-- Sets the definition of a kind. -/
def setKind (r : Registry) (d : KindDef) : Registry := { r with kinds := r.kinds.insert d.kind d }

/-- A kind was registered into the category itself. -/
def HasMember (r : Registry) (category : Category) (kind : String) : Prop :=
  ∃ entry, r.categories.get? category = some entry ∧ kind ∈ entry.members

/-- The single steps by which a registry grows. -/
inductive Adds : Registry → Registry → Prop
  /-- A category, new or not, comes to include categories that are defined. -/
  | category (r : Registry) (category : Category) (includes : List Category)
      (defined : ∀ i ∈ includes, r.hasCategory i) :
      Adds r (r.setEntry category { r.entryOf category with
        includes := includes.foldl addNew (r.entryOf category).includes })
  /-- A defined category gets one more member. -/
  | member (r : Registry) (category : Category) (entry : CategoryEntry) (kind : String)
      (defined : r.categories.get? category = some entry) (fresh : kind ∉ entry.members) :
      Adds r (r.setEntry category { entry with members := entry.members ++ [kind] })
  /-- A kind that joined all its categories gets its definition. -/
  | kind (r : Registry) (d : KindDef) (fresh : r.kind? d.kind = none)
      (defined : ∀ c ∈ d.categories, r.hasCategory c)
      (joined : ∀ c ∈ d.memberOf, r.HasMember c d.kind) : Adds r (r.setKind d)

/-- One registry grows into another by single steps. -/
abbrev Steps : Registry → Registry → Prop := Relation.ReflTransGen Adds

theorem hasCategory_iff {r : Registry} {c : Category} :
    r.hasCategory c ↔ ∃ entry, r.categories.get? c = some entry := by
  rw [hasCategory, OrderedMap.contains, Option.isSome_iff_exists]

theorem undefined?_eq_none {r : Registry} {categories : List Category} :
    r.undefined? categories = none ↔ ∀ c ∈ categories, r.hasCategory c := by
  simp [undefined?]

@[simp]
theorem get?_setEntry (r : Registry) (c : Category) (entry : CategoryEntry) (c' : Category) :
    (r.setEntry c entry).categories.get? c' =
      if c' = c then some entry else r.categories.get? c' :=
  OrderedMap.get?_insert r.categories c entry c'

@[simp]
theorem kind?_setKind (r : Registry) (d : KindDef) (kind : String) :
    (r.setKind d).kind? kind = if kind = d.kind then some d else r.kind? kind :=
  OrderedMap.get?_insert r.kinds d.kind d kind

/-! ### Nothing is taken away -/

/-- All that is in the first registry is in the second, in the same place. -/
structure Grows (r r' : Registry) : Prop where
  categories : r.categories.keys <+: r'.categories.keys
  kinds : r.kinds.entries <+: r'.kinds.entries
  entry : ∀ c e, r.categories.get? c = some e → ∃ e', r'.categories.get? c = some e' ∧
    e.members <+: e'.members ∧ e.includes <+: e'.includes

theorem Grows.refl (r : Registry) : Grows r r :=
  ⟨List.prefix_refl _, List.prefix_refl _,
    fun _ e he => ⟨e, he, List.prefix_refl _, List.prefix_refl _⟩⟩

theorem Grows.trans {r s t : Registry} (h : Grows r s) (h' : Grows s t) : Grows r t := by
  refine ⟨h.categories.trans h'.categories, h.kinds.trans h'.kinds, ?_⟩
  intro c e he
  obtain ⟨e', he', hm, hi⟩ := h.entry c e he
  obtain ⟨e'', he'', hm', hi'⟩ := h'.entry c e' he'
  exact ⟨e'', he'', hm.trans hm', hi.trans hi'⟩

/-- An entry that holds at least what was there before takes nothing away. -/
theorem grows_setEntry {r : Registry} {c : Category} {entry : CategoryEntry}
    (hm : (r.entryOf c).members <+: entry.members)
    (hi : (r.entryOf c).includes <+: entry.includes) : Grows r (r.setEntry c entry) := by
  refine ⟨?_, List.prefix_refl _, ?_⟩
  · rw [setEntry, OrderedMap.keys_insert]
    split
    · exact List.prefix_refl _
    · exact List.prefix_append _ _
  · intro c' e he
    rw [get?_setEntry]
    split
    · next hc =>
      subst hc
      rw [entryOf, he] at hm hi
      exact ⟨entry, rfl, hm, hi⟩
    · exact ⟨e, he, List.prefix_refl _, List.prefix_refl _⟩

theorem Adds.grows {r r' : Registry} (h : Adds r r') : Grows r r' := by
  cases h with
  | category category includes _ =>
    exact grows_setEntry (List.prefix_refl _) (prefix_foldl_addNew includes _)
  | member category entry kind defined _ =>
    refine grows_setEntry ?_ ?_ <;> rw [entryOf, defined]
    · exact List.prefix_append _ _
    · exact List.prefix_refl _
  | kind d fresh _ _ =>
    refine ⟨List.prefix_refl _, ?_, fun _ e he => ⟨e, he, List.prefix_refl _, List.prefix_refl _⟩⟩
    rw [setKind, OrderedMap.entries_insert_new ((OrderedMap.get?_eq_none_iff ..).1 fresh)]
    exact List.prefix_append _ _

/-- What single steps lead to has grown. -/
theorem Steps.grows {r r' : Registry} (h : Steps r r') : Grows r r' := by
  induction h with
  | refl => exact Grows.refl r
  | tail _ step ih => exact ih.trans step.grows

theorem Grows.hasCategory {r r' : Registry} (h : Grows r r') {c : Category}
    (hc : r.hasCategory c) : r'.hasCategory c := by
  obtain ⟨e, he⟩ := hasCategory_iff.1 hc
  obtain ⟨e', he', _⟩ := h.entry c e he
  exact hasCategory_iff.2 ⟨e', he'⟩

/-- A definition is never replaced. -/
theorem Grows.kind? {r r' : Registry} (h : Grows r r') {kind : String} {d : KindDef}
    (hd : r.kind? kind = some d) : r'.kind? kind = some d := by
  obtain ⟨more, hmore⟩ := h.kinds
  rw [Registry.kind?, OrderedMap.get?] at hd ⊢
  rw [← hmore, List.lookup_append, hd, Option.some_or]

/-- A kind that did not get a definition has the one it had before, if any. -/
theorem Grows.kind?_eq {r r' : Registry} (h : Grows r r') {kind : String}
    (hnew : r.kind? kind = none → r'.kind? kind = none) : r'.kind? kind = r.kind? kind := by
  cases hd : r.kind? kind with
  | none => exact hnew hd
  | some d => exact h.kind? hd

theorem Grows.hasMember {r r' : Registry} (h : Grows r r') {c : Category} {kind : String}
    (hc : r.HasMember c kind) : r'.HasMember c kind := by
  obtain ⟨e, he, hk⟩ := hc
  obtain ⟨e', he', hm, _⟩ := h.entry c e he
  exact ⟨e', he', hm.subset hk⟩

/-! ### Every addition is a run of steps -/

theorem steps_defineCategory (r : Registry) (category : Category) (includes : List Category) :
    Steps r (r.defineCategory category includes).registry := by
  unfold defineCategory
  split
  · exact .refl
  · next h => exact .single (Adds.category r category includes (undefined?_eq_none.1 h))

theorem steps_register (r : Registry) (category : Category) (kind : String) :
    Steps r (r.register category kind).registry := by
  unfold register
  split
  · exact .refl
  · next entry he =>
    split
    · exact .refl
    · next hk => exact .single (Adds.member r category entry kind he hk)

theorem kinds_register (r : Registry) (category : Category) (kind : String) :
    (r.register category kind).registry.kinds = r.kinds := by
  unfold register
  split
  · rfl
  · split <;> rfl

/-- Registering into a defined category succeeds and leaves the kind a member of it. -/
theorem register_ok {r : Registry} {category : Category} (kind : String)
    (h : r.hasCategory category) : (∃ new, (r.register category kind).result = .ok new) ∧
      (r.register category kind).registry.HasMember category kind := by
  obtain ⟨entry, he⟩ := hasCategory_iff.1 h
  by_cases hk : kind ∈ entry.members
  · simp only [register, he, if_pos hk]
    exact ⟨⟨false, rfl⟩, entry, he, hk⟩
  · simp only [register, he, if_neg hk]
    exact ⟨⟨true, rfl⟩, { entry with members := entry.members ++ [kind] }, by simp, by simp⟩

/-- Registering into defined categories succeeds, by steps that leave the definitions alone. -/
theorem registerInto_ok (kind : String) : ∀ (categories : List Category) (r : Registry),
    (∀ c ∈ categories, r.hasCategory c) →
    (r.registerInto kind categories).result = .ok () ∧
      Steps r (r.registerInto kind categories).registry ∧
      (r.registerInto kind categories).registry.kinds = r.kinds ∧
      ∀ c ∈ categories, (r.registerInto kind categories).registry.HasMember c kind
  | [], r, _ => ⟨rfl, .refl, rfl, nofun⟩
  | category :: rest, r, h => by
    obtain ⟨⟨new, hnew⟩, hmember⟩ := register_ok kind (h category List.mem_cons_self)
    have hfirst := steps_register r category kind
    obtain ⟨hok, hsteps, hkinds, hmembers⟩ :=
      registerInto_ok kind rest (r.register category kind).registry
        fun c hc => (Steps.grows hfirst).hasCategory (h c (List.mem_cons_of_mem _ hc))
    rw [registerInto, Outcome.andThen, hnew]
    refine ⟨hok, hfirst.trans hsteps, hkinds.trans (kinds_register r category kind), ?_⟩
    intro c hc
    rcases List.mem_cons.mp hc with rfl | hc
    · exact (Steps.grows hsteps).hasMember hmember
    · exact hmembers c hc

theorem steps_define (r : Registry) (d : KindDef) : Steps r (r.define d).registry := by
  unfold define
  split
  · exact .refl
  · next h =>
    split
    · split <;> exact .refl
    · next hk =>
      have hdefined := undefined?_eq_none.1 h
      obtain ⟨hok, hsteps, hkinds, hmembers⟩ := registerInto_ok d.kind d.memberOf r
        fun c hc => hdefined c (List.mem_append_right _ hc)
      rw [Outcome.andThen, hok]
      refine hsteps.tail (Adds.kind _ d ?_ ?_ hmembers)
      · rw [kind?, hkinds]
        exact hk
      · exact fun c hc => (Steps.grows hsteps).hasCategory (hdefined c hc)

end Registry

theorem Mutation.registry_apply_register (r : Registry) (category : Category) (kind : String) :
    ((Mutation.register category kind).apply r).registry = (r.register category kind).registry := by
  rw [apply, Outcome.andThen]
  split <;> rfl

/-- Every addition, whether it succeeds or fails, is a run of single steps. -/
theorem Mutation.steps_apply (r : Registry) (m : Mutation) : Registry.Steps r (m.apply r).registry := by
  cases m with
  | defineCategory category includes => exact r.steps_defineCategory category includes
  | register category kind =>
    rw [registry_apply_register]
    exact r.steps_register category kind
  | define definition => exact r.steps_define definition

namespace Registry

/-! ### Histories -/

/-- The registry after some additions, each of which may succeed or fail. -/
def after (r : Registry) (history : List Mutation) : Registry :=
  history.foldl (fun r m => (m.apply r).registry) r

/-- The registries that additions lead to from the empty registry or the baseline. -/
def Reachable (r : Registry) : Prop :=
  ∃ history, r = empty.after history ∨ r = baseline.after history

theorem steps_after : ∀ (history : List Mutation) (r : Registry), Steps r (r.after history)
  | [], _ => .refl
  | m :: history, r => (m.steps_apply r).trans (steps_after history (m.apply r).registry)

theorem steps_applyAll : ∀ (ms : List Mutation) (r : Registry),
    Steps r (Mutation.applyAll r ms).registry
  | [], _ => .refl
  | m :: ms, r => by
    rw [Mutation.applyAll, Outcome.andThen]
    split
    · exact (m.steps_apply r).trans (steps_applyAll ms (m.apply r).registry)
    · exact m.steps_apply r

theorem steps_baseline : Steps empty baseline := by
  have hload : baseline = (Mutation.applyAll empty Baseline.mutations).registry := by
    rw [baseline, loadBaseline, Outcome.andThen]
    split <;> rfl
  rw [hload]
  exact steps_applyAll Baseline.mutations empty

theorem reachable_baseline : baseline.Reachable := ⟨[], Or.inr rfl⟩

/-- A reachable registry grew from the empty one by single steps. -/
theorem Reachable.steps {r : Registry} (h : r.Reachable) : Steps empty r := by
  obtain ⟨history, rfl | rfl⟩ := h
  · exact steps_after history empty
  · exact steps_baseline.trans (steps_after history baseline)

theorem Reachable.after {r : Registry} (h : r.Reachable) (history : List Mutation) :
    (r.after history).Reachable := by
  obtain ⟨before, h⟩ := h
  refine ⟨before ++ history, ?_⟩
  rcases h with rfl | rfl
  · exact Or.inl (List.foldl_append ..).symm
  · exact Or.inr (List.foldl_append ..).symm

/-! ### All categories that are referred to are defined -/

/-- Every category that an entry includes or a definition refers to is defined. -/
structure WellFormed (r : Registry) : Prop where
  includes : ∀ c e, r.categories.get? c = some e → ∀ i ∈ e.includes, r.hasCategory i
  kinds : ∀ kind d, r.kind? kind = some d → ∀ c ∈ d.categories, r.hasCategory c

theorem wellFormed_empty : WellFormed empty := ⟨nofun, nofun⟩

theorem WellFormed.step {r r' : Registry} (hr : WellFormed r) (h : Adds r r') : WellFormed r' := by
  have hgrows := h.grows
  cases h with
  | category category includes defined =>
    refine ⟨?_, fun kind d hd c hc => hgrows.hasCategory (hr.kinds kind d hd c hc)⟩
    intro c e he i hi
    apply hgrows.hasCategory
    rw [get?_setEntry] at he
    split at he
    · cases he
      rcases mem_foldl_addNew.1 hi with hi | hi
      · -- an include that was there before; an undefined category has none
        unfold entryOf at hi
        cases hold : r.categories.get? category with
        | none => rw [hold] at hi; cases hi
        | some old => rw [hold] at hi; exact hr.includes category old hold i hi
      · exact defined i hi
    · exact hr.includes c e he i hi
  | member category entry kind defined _ =>
    refine ⟨?_, fun kind d hd c hc => hgrows.hasCategory (hr.kinds kind d hd c hc)⟩
    intro c e he i hi
    apply hgrows.hasCategory
    rw [get?_setEntry] at he
    split at he
    · cases he
      exact hr.includes category entry defined i hi
    · exact hr.includes c e he i hi
  | kind d _ defined _ =>
    refine ⟨fun c e he i hi => hr.includes c e he i hi, ?_⟩
    intro kind d' hd c hc
    rw [kind?_setKind] at hd
    split at hd
    · cases hd
      exact defined c hc
    · exact hr.kinds kind d' hd c hc

theorem Steps.wellFormed {r r' : Registry} (h : Steps r r') (hr : WellFormed r) : WellFormed r' := by
  induction h with
  | refl => exact hr
  | tail _ step ih => exact ih.step step

/-- No registry that additions lead to refers to an undefined category. -/
theorem Reachable.wellFormed {r : Registry} (h : r.Reachable) : WellFormed r :=
  Steps.wellFormed h.steps wellFormed_empty

end Registry

end WikiDoc
