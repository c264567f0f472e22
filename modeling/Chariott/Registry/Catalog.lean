import Chariott.Registry.Outcome

/-!
# The Abstract Catalog

What the registry is for, stated without its two indices: a catalog that maps
each service id to the configuration and the intents of the last accepted
`upsert` for that id. `Catalog.upsert` is the specified operation: reject a
call with a reserved intent, record any other.

`Refines r A` says that both indices of a registry are determined by the
catalog: `known_services` holds the recorded configurations, an intent is a key
of `external_services_by_intent` exactly when some recorded service requests
it, and its set is the set of those services. The indices are views of one
abstract map, kept consistent by construction.

Calls for different service ids touch different entries of the catalog, so they
commute (`Catalog.afterCall_comm`); an accepted call for an id replaces its entry,
so it absorbs any earlier call for that id (`Catalog.afterCall_afterCall_of_id_eq`).
-/

namespace Chariott

/-! ## §1 Catalogs -/

/-- Per service id, the configuration and intents of the last accepted call;
the configuration recorded under an id has that id. -/
structure Catalog where
  entry : ServiceId → Option (ServiceConfiguration × Finset IntentConfiguration)
  entry_id : ∀ id c J, entry id = some (c, J) → c.id = id

/-- The catalog of `Registry::new`. -/
def Catalog.empty : Catalog := ⟨fun _ => none, by simp⟩

/-- Record an accepted `upsert c I`: `A[c.id] := (c, set I)`. -/
def Catalog.record (A : Catalog) (c : ServiceConfiguration) (I : List IntentConfiguration) :
    Catalog where
  entry := Function.update A.entry c.id (some (c, I.toFinset))
  entry_id id s J h := by
    by_cases hid : id = c.id
    · subst hid
      simp only [Function.update_same, Option.some.injEq, Prod.mk.injEq] at h
      rw [← h.1]
    · rw [Function.update_noteq hid] at h
      exact A.entry_id id s J h

/-- The specified `upsert`: a reserved intent is rejected, any other call recorded. -/
def Catalog.upsert (A : Catalog) (c : ServiceConfiguration) (I : List IntentConfiguration) :
    Except Error Catalog :=
  if ∃ ic ∈ I, ReservedNamespace ic.namespace then .error systemRegistrationError
  else .ok (A.record c I)

/-- `A` binds service `s` to intent `i`: `s` is recorded and requests `i`. -/
def Catalog.Binds (A : Catalog) (i : IntentConfiguration) (s : ServiceConfiguration) : Prop :=
  ∃ J, A.entry s.id = some (s, J) ∧ i ∈ J

/-- `s` is the configuration recorded under its id. -/
def Catalog.Holds (A : Catalog) (s : ServiceConfiguration) : Prop :=
  ∃ J, A.entry s.id = some (s, J)

/-- No recorded intent has a reserved namespace. -/
def Catalog.Unreserved (A : Catalog) : Prop :=
  ∀ id c J, A.entry id = some (c, J) → ∀ i ∈ J, ¬ ReservedNamespace i.namespace

theorem Catalog.holds_iff (A : Catalog) (s : ServiceConfiguration) :
    A.Holds s ↔ ∃ id J, A.entry id = some (s, J) :=
  ⟨fun ⟨J, h⟩ => ⟨_, J, h⟩, fun ⟨id, J, h⟩ => ⟨J, (A.entry_id id s J h) ▸ h⟩⟩

theorem Catalog.binds_iff (A : Catalog) (i : IntentConfiguration) (s : ServiceConfiguration) :
    A.Binds i s ↔ ∃ id J, A.entry id = some (s, J) ∧ i ∈ J :=
  ⟨fun ⟨J, h, hi⟩ => ⟨_, J, h, hi⟩,
    fun ⟨id, J, h, hi⟩ => ⟨J, (A.entry_id id s J h) ▸ h, hi⟩⟩

/-- After recording `c`, the held configurations are `c` and those of other ids. -/
theorem Catalog.holds_record (A : Catalog) (c s : ServiceConfiguration)
    (I : List IntentConfiguration) :
    (A.record c I).Holds s ↔ s = c ∨ (s.id ≠ c.id ∧ A.Holds s) := by
  by_cases hid : s.id = c.id
  · simp only [Holds, record, hid, Function.update_same, Option.some.injEq, Prod.mk.injEq,
      exists_and_left, exists_eq', and_true, ne_eq, not_true_eq_false, false_and, or_false]
    exact eq_comm
  · have hsc : s ≠ c := fun h => hid (h ▸ rfl)
    simp [Holds, record, Function.update_noteq hid, hsc, hid]

/-- After recording `c` with `I`, an intent is bound to `c` if requested, and
to the services of other ids it was bound to. -/
theorem Catalog.binds_record (A : Catalog) (c s : ServiceConfiguration)
    (I : List IntentConfiguration) (i : IntentConfiguration) :
    (A.record c I).Binds i s ↔ (s = c ∧ i ∈ I) ∨ (s.id ≠ c.id ∧ A.Binds i s) := by
  by_cases hid : s.id = c.id
  · simp only [Binds, record, hid, Function.update_same, Option.some.injEq, Prod.mk.injEq,
      List.mem_toFinset, ne_eq, not_true_eq_false, false_and, or_false]
    constructor
    · rintro ⟨J, ⟨rfl, rfl⟩, hi⟩; exact ⟨rfl, List.mem_toFinset.mp hi⟩
    · rintro ⟨rfl, hi⟩; exact ⟨_, ⟨rfl, rfl⟩, by simpa using hi⟩
  · have hsc : s ≠ c := fun h => hid (h ▸ rfl)
    simp [Binds, record, Function.update_noteq hid, hsc, hid]

/-! ## §2 Order of calls -/

/-- Two catalogs with the same entries are equal. -/
theorem Catalog.ext {A B : Catalog} (h : A.entry = B.entry) : A = B := by
  cases A
  cases B
  cases h
  rfl

/-- Recording services of different ids commutes. -/
theorem Catalog.record_comm (A : Catalog) {c c' : ServiceConfiguration} (hid : c.id ≠ c'.id)
    (I I' : List IntentConfiguration) :
    (A.record c I).record c' I' = (A.record c' I').record c I :=
  Catalog.ext (Function.update_comm hid _ _ _)

/-- The catalog after a call of `Catalog.upsert`: the recorded one if the call
is accepted, the same one if it is rejected. -/
def Catalog.afterCall (A : Catalog) (c : ServiceConfiguration) (I : List IntentConfiguration) :
    Catalog :=
  match A.upsert c I with
  | .ok A' => A'
  | .error _ => A

/-- Calls for services of different ids commute, accepted or rejected. -/
theorem Catalog.afterCall_comm (A : Catalog) {c c' : ServiceConfiguration} (hid : c.id ≠ c'.id)
    (I I' : List IntentConfiguration) :
    (A.afterCall c I).afterCall c' I' = (A.afterCall c' I').afterCall c I := by
  by_cases hI : ∃ ic ∈ I, ReservedNamespace ic.namespace <;>
    by_cases hI' : ∃ ic ∈ I', ReservedNamespace ic.namespace <;>
    simp [afterCall, upsert, hI, hI', A.record_comm hid]

/-- Recording an id again replaces its previous record. -/
theorem Catalog.record_record_of_id_eq (A : Catalog) {c c' : ServiceConfiguration}
    (hid : c.id = c'.id) (I I' : List IntentConfiguration) :
    (A.record c I).record c' I' = A.record c' I' :=
  Catalog.ext (by simp only [record, hid, Function.update_idem])

/-- An accepted call for an id absorbs any earlier call for it. -/
theorem Catalog.afterCall_afterCall_of_id_eq (A : Catalog) {c c' : ServiceConfiguration}
    (hid : c.id = c'.id) (I : List IntentConfiguration) {I' : List IntentConfiguration}
    (hI' : ¬ ∃ ic ∈ I', ReservedNamespace ic.namespace) :
    (A.afterCall c I).afterCall c' I' = A.afterCall c' I' := by
  by_cases hI : ∃ ic ∈ I, ReservedNamespace ic.namespace <;>
    simp [afterCall, upsert, hI, hI', A.record_record_of_id_eq hid]

end Chariott
