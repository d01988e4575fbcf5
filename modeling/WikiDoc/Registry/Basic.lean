import WikiDoc.Kind.Definition
import WikiDoc.Log

/-!
The registry: content categories with their members, and the definitions of node kinds.

A category lists the kinds that were registered into it and the categories it includes. The registry
only grows: `defineCategory`, `register` and `define` add to it and never take away, and when one of
them fails, the registry is left as it was. Each gives an `Outcome`: its answer, the registry
afterwards and the records that it logged.
-/

namespace WikiDoc

/-- What a category holds by itself. -/
structure CategoryEntry where
  /-- The kinds registered into the category. -/
  members : List String := []
  /-- The categories whose members count as well. -/
  includes : List Category := []

/-- Adds an item at the end of a list, unless it is there already. -/
def addNew {α : Type} [DecidableEq α] (items : List α) (item : α) : List α :=
  if item ∈ items then items else items ++ [item]

/-- Content categories and the definitions of node kinds, in the order in which they came. -/
structure Registry where
  categories : OrderedMap Category CategoryEntry := OrderedMap.empty
  kinds : OrderedMap String KindDef := OrderedMap.empty

/-- What can be wrong with a registry or with an addition to it. -/
inductive RegistryError where
  /-- A category is referred to that is not defined. -/
  | unknownCategory (category : Category) (referencedBy : String)
  /-- A kind is already defined, and differently. -/
  | conflict (kind : String)
  deriving DecidableEq

namespace RegistryError

/-- The wording of the error. -/
def message : RegistryError → String
  | .unknownCategory category referencedBy =>
    "content category `" ++ category.name ++ "` referenced by `" ++ referencedBy ++
      "` is not defined"
  | .conflict kind => "node kind `" ++ kind ++ "` is already defined differently"

/-- The record that is logged when the error arises. -/
def record : RegistryError → LogRecord
  | .unknownCategory category referencedBy =>
    ⟨.error, "content category `" ++ category.name ++ "` referenced by `" ++ referencedBy ++
      "` is not defined"⟩
  | .conflict kind => ⟨.error, "conflicting definition for node kind `" ++ kind ++ "`"⟩

end RegistryError

/-- What an addition to a registry leads to. -/
structure Outcome (α : Type) where
  result : Except RegistryError α
  /-- The registry afterwards. -/
  registry : Registry
  /-- The records logged on the way. -/
  log : List LogRecord

/-- Goes on with the answer and the registry of an outcome, unless it failed. -/
def Outcome.andThen {α β : Type} (first : Outcome α) (next : α → Registry → Outcome β) : Outcome β :=
  match first.result with
  | .ok answer =>
    let second := next answer first.registry
    { second with log := first.log ++ second.log }
  | .error error => ⟨.error error, first.registry, first.log⟩

namespace Registry

/-- The registry without categories and kinds. -/
def empty : Registry := {}

/-- Whether a category is defined. -/
def hasCategory (r : Registry) (category : Category) : Bool := r.categories.contains category

/-- The definition of a kind. -/
def kind? (r : Registry) (kind : String) : Option KindDef := r.kinds.get? kind

/-- The outcome of an addition that is refused. -/
def refuse {α : Type} (r : Registry) (error : RegistryError) : Outcome α :=
  ⟨.error error, r, [error.record]⟩

/-- The first of some categories that is not defined. -/
def undefined? (r : Registry) (categories : List Category) : Option Category :=
  categories.find? fun category => !r.hasCategory category

/-- How the log shows a list of categories. -/
def listCategories (categories : List Category) : String :=
  "[" ++ ", ".intercalate
    (categories.map fun category => "Category(" ++ Text.quoted category.name ++ ")") ++ "]"

/-- Defines a category, or extends it if it is defined already, so that it includes others. -/
def defineCategory (r : Registry) (category : Category) (includes : List Category) : Outcome Unit :=
  match r.undefined? includes with
  | some missing => r.refuse (.unknownCategory missing category.name)
  | none =>
    let entry := (r.categories.get? category).getD {}
    let entry' := { entry with includes := includes.foldl addNew entry.includes }
    ⟨.ok (), { r with categories := r.categories.insert category entry' },
      [⟨.debug, "defined content category `" ++ category.name ++ "` including " ++
        listCategories includes⟩]⟩

/-- Makes a kind a member of a category, and tells whether it was not one before. -/
def register (r : Registry) (category : Category) (kind : String) : Outcome Bool :=
  match r.categories.get? category with
  | none => r.refuse (.unknownCategory category kind)
  | some entry =>
    if kind ∈ entry.members then ⟨.ok false, r, []⟩
    else
      let entry' := { entry with members := entry.members ++ [kind] }
      ⟨.ok true, { r with categories := r.categories.insert category entry' },
        [⟨.debug, "registered kind `" ++ kind ++ "` into `" ++ category.name ++ "`"⟩]⟩

/-- Makes a kind a member of several categories, one after the other. -/
def registerInto (r : Registry) (kind : String) : List Category → Outcome Unit
  | [] => ⟨.ok (), r, []⟩
  | category :: rest =>
    (r.register category kind).andThen fun _ r' => r'.registerInto kind rest

/-- Stores a definition under its kind. -/
def store (r : Registry) (d : KindDef) : Outcome Unit :=
  ⟨.ok (), { r with kinds := r.kinds.insert d.kind d },
    [⟨.debug, "defined node kind `" ++ d.kind ++ "` (" ++ d.shape.title ++ ")"⟩]⟩

/-- Defines a kind and makes it a member of its categories. All categories it refers to must be
defined. To define a kind again in the same way changes nothing; to define it differently fails. -/
def define (r : Registry) (d : KindDef) : Outcome Unit :=
  match r.undefined? d.categories with
  | some missing => r.refuse (.unknownCategory missing d.kind)
  | none =>
    match r.kind? d.kind with
    | some existing =>
      if existing.sameAs d then ⟨.ok (), r, []⟩ else r.refuse (.conflict d.kind)
    | none => (r.registerInto d.kind d.memberOf).andThen fun _ r' => r'.store d

/-- Builds a node of a kind from parts. -/
def construct (r : Registry) (kind : String) (parts : Parts) : Except BuildError Node :=
  match r.kind? kind with
  | some d => d.construct parts
  | none => .error (.unknownKind kind)

end Registry

end WikiDoc
