import WikiDoc.Registry.Membership

/-!
What lookups log.

A lookup that fails logs this once, and one that answers logs nothing (`LogsFailure`): so it is of the
single lookups, and of the searches and the check that are made of them. Lookups that are made one after
the other succeed when each of them does (`forEach_eq_ok_iff`).
-/

namespace WikiDoc.Lookup

variable {α β : Type} {r : Registry}

/-- The lookup answers and logs nothing, or it fails and logs that alone. -/
inductive LogsFailure : Lookup α → Prop
  | answer (value : α) : LogsFailure (answer value)
  | fault (error : RegistryError) : LogsFailure (fault error)

theorem LogsFailure.andThen {first : Lookup α} {next : α → Lookup β} (h : first.LogsFailure)
    (hnext : ∀ value, (next value).LogsFailure) : (first.andThen next).LogsFailure := by
  cases h with
  | answer value => exact hnext value
  | fault error => exact .fault error

theorem LogsFailure.forEach {lookup : α → Lookup Unit} (h : ∀ item, (lookup item).LogsFailure)
    (items : List α) : (forEach lookup items).LogsFailure := by
  induction items with
  | nil => exact .answer ()
  | cons item rest ih => exact (h item).andThen fun _ => ih

theorem logsFailure_entry (category : Category) : (entry r category).LogsFailure := by
  unfold entry
  split
  · exact .answer _
  · exact .fault _

theorem log_of_entry {category : Category} {e : CategoryEntry} {log : List LogRecord}
    (h : entry r category = ⟨.ok e, log⟩) : log = [] := by
  have hlogs := logsFailure_entry (r := r) category
  rw [h] at hlogs
  cases hlogs
  rfl

theorem log_of_entry_error {category : Category} {error : RegistryError} {log : List LogRecord}
    (h : entry r category = ⟨.error error, log⟩) : log = [error.record] := by
  have hlogs := logsFailure_entry (r := r) category
  rw [h] at hlogs
  cases hlogs
  rfl

theorem logsFailure_collectMembers (seen pending : List Category) (found : List String) :
    (collectMembers r seen found pending).LogsFailure := by
  fun_induction collectMembers r seen found pending with
  | case1 => exact .answer _
  | case2 seen found category rest hseen ih => exact ih
  | case3 seen found category rest hseen error log he =>
    cases log_of_entry_error he
    exact .fault error
  | case4 seen found category rest hseen e log he ih =>
    cases log_of_entry he
    exact ih

theorem logsFailure_findMember (kind : String) (seen pending : List Category) :
    (findMember r kind seen pending).LogsFailure := by
  fun_induction findMember r kind seen pending with
  | case1 => exact .answer _
  | case2 seen category rest hseen ih => exact ih
  | case3 seen category rest hseen error log he =>
    cases log_of_entry_error he
    exact .fault error
  | case4 seen category rest hseen e log he hk =>
    cases log_of_entry he
    exact .answer true
  | case5 seen category rest hseen e log he hk ih =>
    cases log_of_entry he
    exact ih

theorem logsFailure_defined (referencedBy : String) (category : Category) :
    (defined r referencedBy category).LogsFailure := by
  unfold defined
  split
  · exact .answer ()
  · exact .fault _

theorem logsFailure_check : (check r).LogsFailure := by
  have hreferred : ∀ (referencedBy : String) (categories : List Category),
      (Lookup.forEach (defined r referencedBy) categories).LogsFailure :=
    fun referencedBy categories => .forEach (logsFailure_defined referencedBy) categories
  exact (LogsFailure.forEach (fun _ => hreferred ..) _).andThen fun _ =>
    .forEach (fun _ => hreferred ..) _

/-! ### Success -/

/-- Two lookups in a row succeed when each of them does. -/
theorem andThen_eq_ok_iff {first : Lookup Unit} {next : Unit → Lookup Unit} :
    (first.andThen next).result = .ok () ↔ first.result = .ok () ∧ (next ()).result = .ok () := by
  obtain ⟨result | _, log⟩ := first
  · exact iff_of_false nofun fun h => nomatch h.1
  · exact (and_iff_right rfl).symm

theorem forEach_eq_ok_iff {lookup : α → Lookup Unit} {items : List α} :
    (forEach lookup items).result = .ok () ↔ ∀ item ∈ items, (lookup item).result = .ok () := by
  induction items with
  | nil => exact iff_of_true rfl nofun
  | cons item rest ih => rw [forEach, andThen_eq_ok_iff, ih, List.forall_mem_cons]

theorem defined_eq_ok_iff {referencedBy : String} {category : Category} :
    (defined r referencedBy category).result = .ok () ↔ r.hasCategory category = true := by
  unfold defined
  split
  · next h => exact iff_of_true rfl h
  · next h => exact iff_of_false nofun h

end WikiDoc.Lookup
