import Chariott.Registry.Catalog

/-!
# `upsert` Refines the Catalog

The registry simulates the catalog: from a registry that refines a catalog, a
call of `upsert` returns what `Catalog.upsert` returns, and leaves a registry
that refines the catalog after the call (`upsert_simulates`). By induction,
every registry reachable from `Registry::new` refines the catalog of the calls
that returned `Ok`, and the invariants of the spec follow from the refinement
(`Refines.wellFormed`). Since the indices are a function of the catalog
(`Refines.unique`), facts about catalogs carry over to registries: two histories
with one catalog leave one registry, registrations of different services
commute, and the last accepted registration of an id absorbs the earlier ones.
-/

namespace Chariott

/-! ## §1 The refinement relation -/

/-- Both indices of `r` are the views of `A` the spec describes. -/
structure Refines (r : Registry) (A : Catalog) : Prop where
  known : ∀ s, s ∈ r.knownServices ↔ ∃ id J, A.entry id = some (s, J)
  key : ∀ i, i ∈ r.externalServicesByIntent ↔ ∃ id s J, A.entry id = some (s, J) ∧ i ∈ J
  services : ∀ i S, r.externalServicesByIntent.lookup i = some S →
    ∀ s, s ∈ S ↔ ∃ id J, A.entry id = some (s, J) ∧ i ∈ J

/-- The entry `o` of intent `i` is the one catalog `A` determines: it is never
empty, and it holds exactly the services `A` binds to `i`. -/
def EntryMatches (A : Catalog) (i : IntentConfiguration)
    (o : Option (Finset ServiceConfiguration)) : Prop :=
  (∀ S, o = some S → S.Nonempty) ∧ ∀ s, (∃ S, o = some S ∧ s ∈ S) ↔ A.Binds i s

/-- Some service is bound to `i` exactly when `i` is among the intents of some entry. -/
theorem Catalog.exists_binds_iff (A : Catalog) (i : IntentConfiguration) :
    (∃ s, A.Binds i s) ↔ ∃ id s J, A.entry id = some (s, J) ∧ i ∈ J := by
  simp only [Catalog.binds_iff]
  exact ⟨fun ⟨s, id, J, h⟩ => ⟨id, s, J, h⟩, fun ⟨id, s, J, h⟩ => ⟨s, id, J, h⟩⟩

/-- A matching entry is present exactly when some service is bound to its intent. -/
theorem EntryMatches.isSome_iff {A : Catalog} {i : IntentConfiguration}
    {o : Option (Finset ServiceConfiguration)} (h : EntryMatches A i o) :
    o.isSome ↔ ∃ s, A.Binds i s := by
  constructor
  · intro hs
    obtain ⟨S, hS⟩ := Option.isSome_iff_exists.mp hs
    obtain ⟨s, hs⟩ := h.1 S hS
    exact ⟨s, (h.2 s).mp ⟨S, hS, hs⟩⟩
  · rintro ⟨s, hb⟩
    obtain ⟨S, hS, -⟩ := (h.2 s).mpr hb
    simp [hS]

/-- The members of a matching entry are the services bound to its intent. -/
theorem EntryMatches.mem_iff {A : Catalog} {i : IntentConfiguration}
    {o : Option (Finset ServiceConfiguration)} (h : EntryMatches A i o)
    {S : Finset ServiceConfiguration} (hS : o = some S) (s : ServiceConfiguration) :
    s ∈ S ↔ A.Binds i s := by
  rw [← h.2, hS]
  simp

/-- The refinement, intent by intent. -/
theorem refines_iff (r : Registry) (A : Catalog) :
    Refines r A ↔ (∀ s, s ∈ r.knownServices ↔ A.Holds s) ∧
      ∀ i, EntryMatches A i (r.externalServicesByIntent.lookup i) := by
  simp only [A.holds_iff]
  constructor
  · rintro ⟨hk, hkey, hs⟩
    have hmem : ∀ i S, r.externalServicesByIntent.lookup i = some S →
        ∀ s, s ∈ S ↔ A.Binds i s := fun i S hS s => (hs i S hS s).trans (A.binds_iff i s).symm
    refine ⟨hk, fun i => ⟨fun S hS => ?_, fun s => ⟨fun ⟨S, hS, hs⟩ => (hmem i S hS s).mp hs,
      fun hb => ?_⟩⟩⟩
    · obtain ⟨s, hb⟩ :=
        (A.exists_binds_iff i).mpr ((hkey i).mp (AList.lookup_isSome.mp (by simp [hS])))
      exact ⟨s, (hmem i S hS s).mpr hb⟩
    · obtain ⟨S, hS⟩ := Option.isSome_iff_exists.mp
        (AList.lookup_isSome.mpr ((hkey i).mpr ((A.exists_binds_iff i).mp ⟨s, hb⟩)))
      exact ⟨S, hS, (hmem i S hS s).mpr hb⟩
  · rintro ⟨hk, he⟩
    refine ⟨hk, fun i => ?_, fun i S hS s => ((he i).mem_iff hS s).trans (A.binds_iff i s)⟩
    rw [← AList.lookup_isSome, (he i).isSome_iff, A.exists_binds_iff]

/-- Intent by intent, the entry after an accepted call is the one the catalog
after the call determines. -/
theorem entryMatches_afterServices {A : Catalog} {i : IntentConfiguration}
    {o : Option (Finset ServiceConfiguration)} (h : EntryMatches A i o)
    (c : ServiceConfiguration) (I : List IntentConfiguration) :
    EntryMatches (A.record c I) i (afterServices c I i o) :=
  ⟨fun _ hS => afterServices_nonempty hS, fun s => by
    rw [bound_afterServices, Catalog.binds_record, h.2]⟩

/-! ## §2 One call -/

/-- An accepted call keeps the refinement, with `c` recorded. -/
theorem refines_record {r : Registry} {A : Catalog} (h : Refines r A)
    (c : ServiceConfiguration) (I : List IntentConfiguration) {m : ServicesByIntent}
    (hm : ∀ i, m.lookup i = afterServices c I i (r.externalServicesByIntent.lookup i)) :
    Refines ⟨m, insert c (r.knownServices.filter (·.id ≠ c.id))⟩ (A.record c I) := by
  obtain ⟨hk, he⟩ := (refines_iff r A).mp h
  refine (refines_iff _ _).mpr ⟨fun s => ?_, fun i => ?_⟩
  · simp only [Finset.mem_insert, Finset.mem_filter, hk, Catalog.holds_record]
    tauto
  · simpa only [hm] using entryMatches_afterServices (he i) c I

/-- `upsert` simulates `Catalog.upsert`: it returns the catalog's result, and
leaves a registry that refines the catalog after the call (unchanged on a
rejection). -/
theorem upsert_simulates {r : Registry} {A : Catalog} (h : Refines r A)
    {c : ServiceConfiguration} {I : List IntentConfiguration} {o : UpsertOutcome}
    (ho : r.upsert c I = .ok o) :
    (A.upsert c I = .error systemRegistrationError ∧ o.result = .error systemRegistrationError ∧
        o.registry = r) ∨
      (A.upsert c I = .ok (A.record c I) ∧ o.result = .ok () ∧
        Refines o.registry (A.record c I)) := by
  by_cases hI : ∃ ic ∈ I, ReservedNamespace ic.namespace
  · rw [upsert_of_reserved hI] at ho
    cases ho
    exact .inl ⟨by simp [Catalog.upsert, hI], rfl, rfl⟩
  · obtain ⟨m, u, hu, -, hl⟩ := upsert_of_unreserved r c I hI
    rw [hu] at ho
    cases ho
    exact .inr ⟨by simp [Catalog.upsert, hI], rfl, refines_record h c I fun i => (hl i).1⟩

/-- Every call, accepted or rejected, returns, and leaves a registry that
refines the catalog after the call. -/
theorem refines_upsert {r : Registry} {A : Catalog} (h : Refines r A) (c : ServiceConfiguration)
    (I : List IntentConfiguration) :
    ∃ o, r.upsert c I = .ok o ∧ Refines o.registry (A.afterCall c I) := by
  by_cases hI : ∃ ic ∈ I, ReservedNamespace ic.namespace
  · exact ⟨_, upsert_of_reserved hI, by simpa [Catalog.afterCall, Catalog.upsert, hI] using h⟩
  · obtain ⟨m, u, hu, -, hl⟩ := upsert_of_unreserved r c I hI
    refine ⟨_, hu, ?_⟩
    simpa [Catalog.afterCall, Catalog.upsert, hI] using refines_record h c I fun i => (hl i).1

/-- Recording a call with no reserved intent keeps the catalog unreserved. -/
theorem Catalog.unreserved_record {A : Catalog} (h : A.Unreserved) (c : ServiceConfiguration)
    {I : List IntentConfiguration} (hI : ¬ ∃ ic ∈ I, ReservedNamespace ic.namespace) :
    (A.record c I).Unreserved := by
  intro id s J he i hi
  by_cases hid : id = c.id
  · subst hid
    simp only [record, Function.update_same, Option.some.injEq, Prod.mk.injEq] at he
    rw [← he.2, List.mem_toFinset] at hi
    exact fun hr => hI ⟨i, hi, hr⟩
  · exact h id s J (by simpa [record, Function.update_noteq hid] using he) i hi

/-! ## §3 What the refinement gives -/

/-- The invariants the spec states of the registry: no intent maps to an empty
set, every bound service is known, `known_services` holds one configuration per
id, and no key has a reserved namespace. -/
structure Registry.WellFormed (r : Registry) : Prop where
  nonempty : ∀ i S, r.externalServicesByIntent.lookup i = some S → S.Nonempty
  bound_known : ∀ i S s, r.externalServicesByIntent.lookup i = some S → s ∈ S →
    s ∈ r.knownServices
  known_unique : ∀ s ∈ r.knownServices, ∀ s' ∈ r.knownServices, s.id = s'.id → s = s'
  unreserved : ∀ i ∈ r.externalServicesByIntent, ¬ ReservedNamespace i.namespace

/-- A registry that refines an unreserved catalog is well formed. -/
theorem Refines.wellFormed {r : Registry} {A : Catalog} (h : Refines r A)
    (hu : A.Unreserved) : r.WellFormed := by
  obtain ⟨hk, he⟩ := (refines_iff r A).mp h
  refine ⟨fun i => (he i).1, fun i S s hS hs => ?_, fun s hs s' hs' hid => ?_, fun i hi => ?_⟩
  · obtain ⟨J, hJ, -⟩ := ((he i).mem_iff hS s).mp hs
    exact (hk s).mpr ⟨J, hJ⟩
  · obtain ⟨J, hJ⟩ := (hk s).mp hs
    obtain ⟨J', hJ'⟩ := (hk s').mp hs'
    rw [hid, hJ'] at hJ
    exact (Prod.mk.inj (Option.some.inj hJ)).1.symm
  · obtain ⟨s, J, hJ, hiJ⟩ := (he i).isSome_iff.mp (AList.lookup_isSome.mpr hi)
    exact hu _ s J hJ i hiJ

/-- The indices are a function of the catalog: two registries that refine the
same catalog know the same services and have the same entry for every intent. -/
theorem Refines.unique {r r' : Registry} {A : Catalog} (h : Refines r A) (h' : Refines r' A) :
    r.knownServices = r'.knownServices ∧
      ∀ i, r.externalServicesByIntent.lookup i = r'.externalServicesByIntent.lookup i := by
  obtain ⟨hk, he⟩ := (refines_iff r A).mp h
  obtain ⟨hk', he'⟩ := (refines_iff r' A).mp h'
  exact ⟨Finset.ext fun s => (hk s).trans (hk' s).symm, fun i =>
    entry_eq_of_bound_iff (he i).1 (he' i).1 fun s => ((he i).2 s).trans ((he' i).2 s).symm⟩

/-! ## §4 Runs -/

/-- The registry states that some sequence of `upsert` calls reaches from
`Registry::new`, whatever each call returned. -/
inductive Reachable : Registry → Prop
  | new : Reachable Registry.new
  | upsert {r : Registry} {c : ServiceConfiguration} {I : List IntentConfiguration}
      {o : UpsertOutcome} : Reachable r → r.upsert c I = .ok o → Reachable o.registry

theorem refines_new : Refines Registry.new Catalog.empty :=
  ⟨by simp [Registry.new, Catalog.empty], by simp [Registry.new, Catalog.empty],
    by simp [Registry.new]⟩

theorem Catalog.unreserved_empty : Catalog.empty.Unreserved := by
  simp [Unreserved, empty]

theorem Catalog.not_reserved_of_upsert {A A' : Catalog} {c : ServiceConfiguration}
    {I : List IntentConfiguration} (h : A.upsert c I = .ok A') :
    ¬ ∃ ic ∈ I, ReservedNamespace ic.namespace := by
  unfold Catalog.upsert at h
  split_ifs at h with hI
  exact hI

/-- Every reachable registry refines an unreserved catalog. -/
theorem Reachable.refines {r : Registry} (h : Reachable r) :
    ∃ A, Refines r A ∧ A.Unreserved := by
  induction h with
  | new => exact ⟨_, refines_new, Catalog.unreserved_empty⟩
  | upsert _ ho ih =>
    obtain ⟨A, hA, hu⟩ := ih
    rcases upsert_simulates hA ho with ⟨-, -, hr⟩ | ⟨hA', -, hr⟩
    · exact ⟨A, hr ▸ hA, hu⟩
    · exact ⟨_, hr, Catalog.unreserved_record hu _ (Catalog.not_reserved_of_upsert hA')⟩

/-- A call of `upsert`: the configuration and the intents. -/
abbrev Call := ServiceConfiguration × List IntentConfiguration

/-- Replays calls from a registry and keeps, beside it, the catalog of the calls
that returned `Ok`: `A[c.id] := (c, set I)` for each, in order. -/
def replay : Registry × Catalog → List Call → Except Panic (Registry × Catalog)
  | s, [] => pure s
  | (r, A), (c, I) :: calls => do
    let o ← r.upsert c I
    replay (o.registry, match o.result with | .ok _ => A.record c I | .error _ => A) calls

/-- From a registry that refines an unreserved catalog, a replay never panics and
ends in a registry that refines the replayed catalog. -/
theorem replay_spec : ∀ (calls : List Call) (r : Registry) (A : Catalog),
    Refines r A → A.Unreserved →
    ∃ r' A', replay (r, A) calls = .ok (r', A') ∧ Refines r' A' ∧ A'.Unreserved
  | [], r, A, h, hu => ⟨r, A, rfl, h, hu⟩
  | (c, I) :: calls, r, A, h, hu => by
    by_cases hI : ∃ ic ∈ I, ReservedNamespace ic.namespace
    · obtain ⟨r', A', hrun, h'⟩ := replay_spec calls r A h hu
      exact ⟨r', A', by simp [replay, upsert_of_reserved hI, hrun], h'⟩
    · obtain ⟨m, u, hup, -, hl⟩ := upsert_of_unreserved r c I hI
      obtain ⟨r', A', hrun, h'⟩ := replay_spec calls _ _
        (refines_record h c I fun i => (hl i).1) (Catalog.unreserved_record hu c hI)
      exact ⟨r', A', by simp [replay, hup, hrun], h'⟩

/-- Any finite sequence of calls from `Registry::new`, accepted and rejected ones
interleaved, runs without a panic; after it both indices are the views of the
catalog of the calls that returned `Ok`, and the registry is well formed. -/
theorem replay_refines_catalog (calls : List Call) :
    ∃ r A, replay (Registry.new, Catalog.empty) calls = .ok (r, A) ∧ Refines r A ∧
      r.WellFormed := by
  obtain ⟨r, A, hrun, h, hu⟩ :=
    replay_spec calls _ _ refines_new Catalog.unreserved_empty
  exact ⟨r, A, hrun, h, h.wellFormed hu⟩

/-- History independence: two sequences of calls from `Registry::new` that leave
the same catalog, whatever their order and their rejected calls, leave
registries that know the same services and have the same entry for every intent. -/
theorem replay_determined_by_catalog {calls calls' : List Call} {r r' : Registry} {A : Catalog}
    (h : replay (Registry.new, Catalog.empty) calls = .ok (r, A))
    (h' : replay (Registry.new, Catalog.empty) calls' = .ok (r', A)) :
    r.knownServices = r'.knownServices ∧
      ∀ i, r.externalServicesByIntent.lookup i = r'.externalServicesByIntent.lookup i := by
  obtain ⟨r₁, A₁, h₁, hr₁, -⟩ := replay_spec calls _ _ refines_new Catalog.unreserved_empty
  obtain ⟨r₂, A₂, h₂, hr₂, -⟩ := replay_spec calls' _ _ refines_new Catalog.unreserved_empty
  rw [h] at h₁
  rw [h'] at h₂
  cases h₁
  cases h₂
  exact hr₁.unique hr₂

/-- The tests' services `A` and `B` registered for intent 1 in either order:
both histories leave the catalog that records `A`, then `B`. -/
theorem replay_determined_by_catalog_swapped :
    ∃ r r', replay (Registry.new, Catalog.empty) [(⟨⟨"mock-service-A", "0.1.0"⟩, "http://service-a/", .cloud⟩, [⟨"namespace-1", .discover⟩]), (⟨⟨"mock-service-B", "0.1.0"⟩, "http://service-b/", .cloud⟩, [⟨"namespace-1", .discover⟩])] =
        .ok (r, (Catalog.empty.record ⟨⟨"mock-service-A", "0.1.0"⟩, "http://service-a/", .cloud⟩ [⟨"namespace-1", .discover⟩]).record ⟨⟨"mock-service-B", "0.1.0"⟩, "http://service-b/", .cloud⟩ [⟨"namespace-1", .discover⟩]) ∧
      replay (Registry.new, Catalog.empty) [(⟨⟨"mock-service-B", "0.1.0"⟩, "http://service-b/", .cloud⟩, [⟨"namespace-1", .discover⟩]), (⟨⟨"mock-service-A", "0.1.0"⟩, "http://service-a/", .cloud⟩, [⟨"namespace-1", .discover⟩])] =
        .ok (r', (Catalog.empty.record ⟨⟨"mock-service-A", "0.1.0"⟩, "http://service-a/", .cloud⟩ [⟨"namespace-1", .discover⟩]).record ⟨⟨"mock-service-B", "0.1.0"⟩, "http://service-b/", .cloud⟩ [⟨"namespace-1", .discover⟩]) ∧
      (r.knownServices = r'.knownServices ∧
        ∀ i, r.externalServicesByIntent.lookup i = r'.externalServicesByIntent.lookup i) := by
  obtain ⟨o₁, h₁, e₁⟩ := upsert_ok_of_unreserved Registry.new ⟨⟨"mock-service-A", "0.1.0"⟩, "http://service-a/", .cloud⟩ [⟨"namespace-1", .discover⟩] (by decide)
  obtain ⟨o₂, h₂, e₂⟩ := upsert_ok_of_unreserved o₁.registry ⟨⟨"mock-service-B", "0.1.0"⟩, "http://service-b/", .cloud⟩ [⟨"namespace-1", .discover⟩] (by decide)
  obtain ⟨p₁, g₁, f₁⟩ := upsert_ok_of_unreserved Registry.new ⟨⟨"mock-service-B", "0.1.0"⟩, "http://service-b/", .cloud⟩ [⟨"namespace-1", .discover⟩] (by decide)
  obtain ⟨p₂, g₂, f₂⟩ := upsert_ok_of_unreserved p₁.registry ⟨⟨"mock-service-A", "0.1.0"⟩, "http://service-a/", .cloud⟩ [⟨"namespace-1", .discover⟩] (by decide)
  have h : replay (Registry.new, Catalog.empty) [(⟨⟨"mock-service-A", "0.1.0"⟩, "http://service-a/", .cloud⟩, [⟨"namespace-1", .discover⟩]), (⟨⟨"mock-service-B", "0.1.0"⟩, "http://service-b/", .cloud⟩, [⟨"namespace-1", .discover⟩])] =
      .ok (o₂.registry, (Catalog.empty.record ⟨⟨"mock-service-A", "0.1.0"⟩, "http://service-a/", .cloud⟩ [⟨"namespace-1", .discover⟩]).record ⟨⟨"mock-service-B", "0.1.0"⟩, "http://service-b/", .cloud⟩ [⟨"namespace-1", .discover⟩]) := by
    simp [replay, h₁, h₂, e₁, e₂]
  have h' : replay (Registry.new, Catalog.empty) [(⟨⟨"mock-service-B", "0.1.0"⟩, "http://service-b/", .cloud⟩, [⟨"namespace-1", .discover⟩]), (⟨⟨"mock-service-A", "0.1.0"⟩, "http://service-a/", .cloud⟩, [⟨"namespace-1", .discover⟩])] =
      .ok (p₂.registry, (Catalog.empty.record ⟨⟨"mock-service-A", "0.1.0"⟩, "http://service-a/", .cloud⟩ [⟨"namespace-1", .discover⟩]).record ⟨⟨"mock-service-B", "0.1.0"⟩, "http://service-b/", .cloud⟩ [⟨"namespace-1", .discover⟩]) := by
    rw [Catalog.record_comm _ (by decide)]
    simp [replay, g₁, g₂, f₁, f₂]
  exact ⟨_, _, h, h', replay_determined_by_catalog h h'⟩

/-! ## §5 Independent registrations -/

/-- Registrations of different services commute: from any reachable registry,
`upsert c I` then `upsert c' I'`, and the same two calls in the other order,
accepted or rejected, leave registries that know the same services and have
the same entry for every intent, when `c` and `c'` have different ids. -/
theorem upsert_comm {r : Registry} (hr : Reachable r) {c c' : ServiceConfiguration}
    (hid : c.id ≠ c'.id) (I I' : List IntentConfiguration) :
    ∃ o₁ o₂ p₁ p₂, r.upsert c I = .ok o₁ ∧ o₁.registry.upsert c' I' = .ok o₂ ∧
      r.upsert c' I' = .ok p₁ ∧ p₁.registry.upsert c I = .ok p₂ ∧
      o₂.registry.knownServices = p₂.registry.knownServices ∧
      ∀ i, o₂.registry.externalServicesByIntent.lookup i =
        p₂.registry.externalServicesByIntent.lookup i := by
  obtain ⟨A, hA, -⟩ := hr.refines
  obtain ⟨o₁, h₁, hA₁⟩ := refines_upsert hA c I
  obtain ⟨o₂, h₂, hA₂⟩ := refines_upsert hA₁ c' I'
  obtain ⟨p₁, h₁', hB₁⟩ := refines_upsert hA c' I'
  obtain ⟨p₂, h₂', hB₂⟩ := refines_upsert hB₁ c I
  rw [A.afterCall_comm hid] at hA₂
  exact ⟨o₁, o₂, p₁, p₂, h₁, h₂, h₁', h₂', hA₂.unique hB₂⟩

/-- Services `A` and `B` of the tests, registered on a fresh registry for the
same intent in either order. -/
theorem upsert_comm_new :
    Reachable Registry.new ∧
      (⟨⟨"mock-service-A", "0.1.0"⟩, "http://service-a/", .cloud⟩ : ServiceConfiguration).id ≠
        (⟨⟨"mock-service-B", "0.1.0"⟩, "http://service-b/", .cloud⟩ : ServiceConfiguration).id ∧
      ∃ o₁ o₂ p₁ p₂,
        Registry.new.upsert ⟨⟨"mock-service-A", "0.1.0"⟩, "http://service-a/", .cloud⟩
          [⟨"namespace-1", .discover⟩] = .ok o₁ ∧
        o₁.registry.upsert ⟨⟨"mock-service-B", "0.1.0"⟩, "http://service-b/", .cloud⟩
          [⟨"namespace-1", .discover⟩] = .ok o₂ ∧
        Registry.new.upsert ⟨⟨"mock-service-B", "0.1.0"⟩, "http://service-b/", .cloud⟩
          [⟨"namespace-1", .discover⟩] = .ok p₁ ∧
        p₁.registry.upsert ⟨⟨"mock-service-A", "0.1.0"⟩, "http://service-a/", .cloud⟩
          [⟨"namespace-1", .discover⟩] = .ok p₂ ∧
        o₂.registry.knownServices = p₂.registry.knownServices ∧
        ∀ i, o₂.registry.externalServicesByIntent.lookup i =
          p₂.registry.externalServicesByIntent.lookup i :=
  ⟨.new, by decide, upsert_comm .new (by decide) _ _⟩

/-- The last registration of an id wins entirely: from any reachable registry,
`upsert c I`, accepted or rejected, followed by an accepted `upsert c' I'` for
the same id, leaves a registry that knows the same services and has the same
entry for every intent as `upsert c' I'` alone: nothing of the first call's
intents or configuration survives. -/
theorem upsert_overwrites {r : Registry} (hr : Reachable r) {c c' : ServiceConfiguration}
    (hid : c.id = c'.id) (I : List IntentConfiguration) {I' : List IntentConfiguration}
    (hI' : ¬ ∃ ic ∈ I', ReservedNamespace ic.namespace) :
    ∃ o₁ o₂ p, r.upsert c I = .ok o₁ ∧ o₁.registry.upsert c' I' = .ok o₂ ∧
      r.upsert c' I' = .ok p ∧ o₂.registry.knownServices = p.registry.knownServices ∧
      ∀ i, o₂.registry.externalServicesByIntent.lookup i =
        p.registry.externalServicesByIntent.lookup i := by
  obtain ⟨A, hA, -⟩ := hr.refines
  obtain ⟨o₁, h₁, hA₁⟩ := refines_upsert hA c I
  obtain ⟨o₂, h₂, hA₂⟩ := refines_upsert hA₁ c' I'
  obtain ⟨p, hp, hB⟩ := refines_upsert hA c' I'
  rw [A.afterCall_afterCall_of_id_eq hid I hI'] at hA₂
  exact ⟨o₁, o₂, p, h₁, h₂, hp, hA₂.unique hB⟩

/-- Service `A` of the tests re-registered at a new URL for another intent. -/
theorem upsert_overwrites_new_url :
    Reachable Registry.new ∧
      (⟨⟨"mock-service-A", "0.1.0"⟩, "http://service-a/", .cloud⟩ : ServiceConfiguration).id =
        (⟨⟨"mock-service-A", "0.1.0"⟩, "http://service-a-new/", .cloud⟩ :
          ServiceConfiguration).id ∧
      (¬ ∃ ic ∈ [(⟨"namespace-2", .discover⟩ : IntentConfiguration)],
        ReservedNamespace ic.namespace) ∧
      ∃ o₁ o₂ p,
        Registry.new.upsert ⟨⟨"mock-service-A", "0.1.0"⟩, "http://service-a/", .cloud⟩
          [⟨"namespace-1", .discover⟩] = .ok o₁ ∧
        o₁.registry.upsert ⟨⟨"mock-service-A", "0.1.0"⟩, "http://service-a-new/", .cloud⟩
          [⟨"namespace-2", .discover⟩] = .ok o₂ ∧
        Registry.new.upsert ⟨⟨"mock-service-A", "0.1.0"⟩, "http://service-a-new/", .cloud⟩
          [⟨"namespace-2", .discover⟩] = .ok p ∧
        o₂.registry.knownServices = p.registry.knownServices ∧
        ∀ i, o₂.registry.externalServicesByIntent.lookup i =
          p.registry.externalServicesByIntent.lookup i :=
  have hid : (⟨⟨"mock-service-A", "0.1.0"⟩, "http://service-a/", .cloud⟩ :
      ServiceConfiguration).id =
      (⟨⟨"mock-service-A", "0.1.0"⟩, "http://service-a-new/", .cloud⟩ : ServiceConfiguration).id :=
    rfl
  have hI' : ¬ ∃ ic ∈ [(⟨"namespace-2", .discover⟩ : IntentConfiguration)],
      ReservedNamespace ic.namespace := by decide
  ⟨.new, hid, hI', upsert_overwrites .new hid _ hI'⟩

end Chariott
