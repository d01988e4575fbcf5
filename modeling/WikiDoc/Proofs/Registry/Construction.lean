import WikiDoc.Kind.Extension
import WikiDoc.Proofs.Kind.Construction
import WikiDoc.Proofs.Registry.Baseline

/-!
Which parts a built-in kind accepts.

Parts are checked against the shape of a kind (`Parts.Fits`) and against its rules before its constructor
sees them, and the constructor may refuse them still. Those of the built-in kinds have nothing left to
refuse, with one exception: a gallery refuses an option that is not a text (`Baseline.build_error`). So
the checks alone say which parts are accepted (`Baseline.construct_isOk_iff`), and every error names the
kind (`Baseline.kind_of_construct_error`).
-/

namespace WikiDoc

/-- The parts have the content of a shape: children and no value, a value and no children, or neither. -/
def Parts.Fits (parts : Parts) : Shape → Prop
  | .parent => parts.value = none
  | .literal => parts.value.isSome ∧ parts.children = []
  | .leaf => parts.value = none ∧ parts.children = []

/-- Every attribute has a text as its value. -/
def Attributes.AllTexts (attrs : Attributes) : Prop :=
  ∀ name value, attrs.get? name = some value → ∃ text, value = .text text

/-- The kind that an error names. -/
def BuildError.kind : BuildError → String
  | .missingAttribute kind _ | .invalidAttribute kind _ _ | .unknownKind kind | .invalidShape kind _
  | .notConstructible kind => kind

theorem KindDef.misshape?_eq_none_iff {shape : Shape} {parts : Parts} :
    misshape? shape parts = none ↔ parts.Fits shape := by
  cases shape with
  | parent => simp [misshape?, Parts.Fits]
  | literal =>
    rw [misshape?, Parts.Fits]
    cases parts.value <;> cases parts.children <;> simp
  | leaf => simp [misshape?, Parts.Fits, and_comm]

theorem KindDef.kind_problemError (kind : String) (problem : AttributeProblem) :
    (problemError kind problem).kind = kind := by
  cases problem <;> rfl

/-- A gallery reports texts only. -/
theorem Node.allTexts_of_gallery {node : Node} (horigin : node.origin? = none)
    (hkind : node.kind = "gallery") : node.attributes.AllTexts := by
  cases node with
  | parent tag children =>
    cases tag with
    | gallery options =>
      intro name value hvalue
      have hmem := (OrderedMap.get?_eq_some_iff ..).1 hvalue
      obtain ⟨entry, -, hentry⟩ := List.mem_map.1 hmem
      cases hentry
      exact ⟨entry.2, rfl⟩
    | _ => simp [Node.kind, ParentTag.kind] at hkind
  | literal tag value => cases tag <;> simp [Node.kind, LiteralTag.kind] at hkind
  | leaf tag => cases tag <;> simp [Node.kind, LeafTag.kind] at hkind
  | custom info children => cases horigin

namespace Baseline

variable {d : KindDef} {parts : Parts}

/-- Of parts that pass the checks, a constructor refuses nothing but an option of a gallery that is not a
text. -/
theorem build_error (hd : d ∈ kinds) (hfits : parts.Fits d.shape)
    (hproblems : d.problems parts.attributes = []) : ∃ build, d.build = some build ∧
      d.construct parts = build parts ∧
      ∀ error, build parts = .error error → d.kind = "gallery" ∧
        ∃ name value, parts.attributes.get? name = some value ∧ (∀ text, value ≠ .text text) ∧
          error = .invalidAttribute "gallery" name .galleryOption := by
  have hshape := KindDef.misshape?_eq_none_iff.2 hfits
  obtain ⟨build, hbuild, hbuilt⟩ := buildsFrom_kinds parts hd hshape hproblems
  refine ⟨build, hbuild, by simp only [KindDef.construct, hshape, hproblems, hbuild], ?_⟩
  intro error herror
  rcases hbuilt with ⟨node, hnode, -⟩ | ⟨hgallery, ⟨name, value⟩, hentry, hvalue, hrefused⟩
  · rw [herror] at hnode
    cases hnode
  · rw [herror] at hrefused
    cases hrefused
    refine ⟨hgallery, name, value, (OrderedMap.get?_eq_some_iff ..).2 hentry, ?_, rfl⟩
    rintro text rfl
    cases hvalue

/-- A node is built exactly of parts that pass the checks, and of a gallery only if they are all texts. -/
theorem construct_isOk_iff (hd : d ∈ kinds) : (∃ node, d.construct parts = .ok node) ↔
    parts.Fits d.shape ∧ d.problems parts.attributes = [] ∧
      (d.kind = "gallery" → parts.attributes.AllTexts) := by
  constructor
  · rintro ⟨node, hnode⟩
    obtain ⟨hshape, hproblems⟩ := KindDef.checked_of_construct hnode
    refine ⟨KindDef.misshape?_eq_none_iff.1 hshape, hproblems, fun hgallery name value hvalue => ?_⟩
    -- the gallery reports the attributes that it was built of
    have hcarries := Node.carries_of_construct hd hnode
    have hkind : node.kind = "gallery" := hcarries.kind.trans hgallery
    apply Node.allTexts_of_gallery hcarries.origin hkind name value
    rw [hcarries.attributes, keptAttribute_of_ne (by simp [hkind]), hvalue]
  · rintro ⟨hfits, hproblems, htexts⟩
    obtain ⟨build, -, hconstruct, herrors⟩ := build_error hd hfits hproblems
    rw [hconstruct]
    cases hbuilt : build parts with
    | ok node => exact ⟨node, rfl⟩
    | error error =>
      obtain ⟨hgallery, name, value, hvalue, hother, -⟩ := herrors error hbuilt
      obtain ⟨text, htext⟩ := htexts hgallery name value hvalue
      exact absurd htext (hother text)

/-- Whatever is wrong with the parts, the error names the kind. -/
theorem kind_of_construct_error (hd : d ∈ kinds) {error : BuildError}
    (h : d.construct parts = .error error) : error.kind = d.kind := by
  cases hshape : KindDef.misshape? d.shape parts with
  | some misshape =>
    simp only [KindDef.construct, hshape] at h
    cases h
    rfl
  | none =>
    cases hproblems : d.problems parts.attributes with
    | cons problem rest =>
      simp only [KindDef.construct, hshape, hproblems] at h
      cases h
      exact KindDef.kind_problemError d.kind problem
    | nil =>
      obtain ⟨build, -, hconstruct, herrors⟩ :=
        build_error hd (KindDef.misshape?_eq_none_iff.1 hshape) hproblems
      obtain ⟨hgallery, _, _, -, -, rfl⟩ := herrors error (hconstruct ▸ h)
      exact hgallery.symm

end Baseline

/-- Whatever is added to the baseline, a node of a built-in kind is built exactly of parts that fit the
shape of the kind and have no problem with its rules; those of a gallery must all be texts, too. Once the
two checks have passed, the constructor of the kind fails in no other way, and then it says which option
is not a text. Every error names the kind. -/
theorem construct_accepts_exactly (history : List Mutation) (kind : String) (d : KindDef)
    (hd : Registry.baseline.kind? kind = some d) (parts : Parts) :
    (Registry.baseline.after history).kind? kind = some d ∧
    ((∃ node, (Registry.baseline.after history).construct kind parts = .ok node) ↔
      parts.Fits d.shape ∧ d.problems parts.attributes = [] ∧
        (kind = "gallery" → parts.attributes.AllTexts)) ∧
    (parts.Fits d.shape → d.problems parts.attributes = [] → ∃ build, d.build = some build ∧
      ∀ error, build parts = .error error → kind = "gallery" ∧
        ∃ name value, parts.attributes.get? name = some value ∧ (∀ text, value ≠ .text text) ∧
          error = .invalidAttribute "gallery" name .galleryOption) ∧
    ∀ error, (Registry.baseline.after history).construct kind parts = .error error →
      error.kind = kind := by
  have hgrows : Registry.baseline.Grows (Registry.baseline.after history) :=
    (Registry.steps_after history Registry.baseline).grows
  have hd' : (Registry.baseline.after history).kind? kind = some d := hgrows.kind? hd
  obtain ⟨hmem, rfl⟩ := Registry.kind?_baseline.1 hd
  have hconstruct : (Registry.baseline.after history).construct d.kind parts = d.construct parts := by
    rw [Registry.construct, hd']
  rw [hconstruct]
  refine ⟨hd', Baseline.construct_isOk_iff hmem, ?_, ?_⟩
  · intro hfits hproblems
    obtain ⟨build, hbuild, -, herrors⟩ := Baseline.build_error hmem hfits hproblems
    exact ⟨build, hbuild, herrors⟩
  · exact fun error herror => Baseline.kind_of_construct_error hmem herror

/-- A gallery with a further option that is a flag, after poems were added: the checks pass, and yet it
is not built. -/
theorem construct_accepts_exactly_gallery :
    let r := Registry.baseline.after [.define Extension.poemDef]
    let parts : Parts :=
      { attributes := .ofList [("mode", .text "packed"), ("lazy", .bool true)]
        children := [.leaf (.image { resource := { url := "a.png" } })] }
    ∃ d, Registry.baseline.kind? "gallery" = some d ∧ parts.Fits d.shape ∧
      d.problems parts.attributes = [] ∧
      r.construct "gallery" parts = .error (.invalidAttribute "gallery" "lazy" .galleryOption) ∧
      r.kind? "gallery" = some d ∧
      ((∃ node, r.construct "gallery" parts = .ok node) ↔
        parts.Fits d.shape ∧ d.problems parts.attributes = [] ∧
          ("gallery" = "gallery" → parts.attributes.AllTexts)) ∧
      ∀ error, r.construct "gallery" parts = .error error → error.kind = "gallery" := by
  intro r parts
  obtain ⟨d, hd⟩ := Option.isSome_iff_exists.1
    (show (Registry.baseline.kind? "gallery").isSome by decide +kernel)
  have hchecks : (Registry.baseline.kind? "gallery").all (fun d =>
      decide (d.shape = .parent) && (d.problems parts.attributes).isEmpty) = true := by decide +kernel
  rw [hd, Option.all_some, Bool.and_eq_true, decide_eq_true_iff, List.isEmpty_iff] at hchecks
  have hfits : parts.Fits d.shape := by rw [hchecks.1]; rfl
  have hrefused : r.construct "gallery" parts =
      .error (.invalidAttribute "gallery" "lazy" .galleryOption) := by rfl
  obtain ⟨hd', haccepts, -, hnames⟩ := construct_accepts_exactly _ "gallery" d hd parts
  exact ⟨d, hd, hfits, hchecks.2, hrefused, hd', haccepts, hnames⟩

end WikiDoc
