import WikiDoc.Registry.Basic

/-!
Lookups in a registry, and what they log.

A lookup fails as soon as it comes upon a category that is not defined, and logs that on the spot.
-/

namespace WikiDoc

/-- What a lookup answers, and the records that it logs. -/
structure Lookup (α : Type) where
  result : Except RegistryError α
  log : List LogRecord

namespace Lookup

variable {α β : Type}

/-- The lookup that answers at once. -/
def answer (value : α) : Lookup α := ⟨.ok value, []⟩

/-- The lookup that fails, which is logged. -/
def fault (error : RegistryError) : Lookup α := ⟨.error error, [error.record]⟩

/-- A lookup that is made after some records were logged. -/
def after (log : List LogRecord) (lookup : Lookup α) : Lookup α :=
  { lookup with log := log ++ lookup.log }

/-- Goes on with the answer of a lookup, unless it failed. -/
def andThen (first : Lookup α) (next : α → Lookup β) : Lookup β :=
  match first with
  | ⟨.ok value, log⟩ => (next value).after log
  | ⟨.error error, log⟩ => ⟨.error error, log⟩

/-- Does the same lookup for all items, one after the other. -/
def forEach (lookup : α → Lookup Unit) : List α → Lookup Unit
  | [] => answer ()
  | item :: rest => (lookup item).andThen fun _ => forEach lookup rest

/-- Looks up what a category holds by itself. -/
def entry (r : Registry) (category : Category) : Lookup CategoryEntry :=
  match r.categories.get? category with
  | some entry => answer entry
  | none => fault (.unknownCategory category "lookup")

/-- Looks for a category that something refers to. -/
def defined (r : Registry) (referencedBy : String) (category : Category) : Lookup Unit :=
  if r.hasCategory category then answer () else fault (.unknownCategory category referencedBy)

/-- Looks for every category that is referred to: those that categories include, then those of the
definitions. -/
def check (r : Registry) : Lookup Unit :=
  (forEach (fun item => forEach (defined r item.1.name) item.2.includes) r.categories.entries).andThen
    fun _ => forEach (fun d => forEach (defined r d.kind) d.categories) r.kinds.values

end Lookup

/-- Checks that every category that is referred to is defined. -/
def Registry.check (r : Registry) : Except RegistryError Unit := (Lookup.check r).result

end WikiDoc
