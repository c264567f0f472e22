import Chariott.Registry.NetDiff

/-!
# Service Lifecycle under `upsert`

The effect of one accepted call on which services are bound to which intent,
for any registry state. A call binds its service to exactly the requested
intents, whatever the endpoint or locality, and unbinds every other
configuration of its id; every service of another id, another version of the
same name included, keeps its bindings.

The two edge cases of an empty intent list follow: a service never bound is
registered silently, one that was bound is withdrawn with `Remove` and `Modify`
changes only. A call repeated with the same arguments changes nothing, yet
notifies `Modify` for every requested intent again. Only the set of requested
intents matters: their order and repetitions change the order of the batch,
nothing else.
-/

namespace Chariott

/-- Service `s` is bound to intent `i` in `r`. -/
def Registry.Bound (r : Registry) (i : IntentConfiguration) (s : ServiceConfiguration) : Prop :=
  ∃ S, r.externalServicesByIntent.lookup i = some S ∧ s ∈ S

/-! ## §1 One accepted call -/

/-- Rebinding: once `upsert c I` returns `Ok`, `c` is bound to exactly the
requested intents, no other configuration with its id is bound anywhere, and a
service of any other id is bound exactly where it was. -/
theorem upsert_rebinds (r : Registry) (c : ServiceConfiguration) (I : List IntentConfiguration) :
    ∃ o, r.upsert c I = .ok o ∧ (o.result = .ok () →
      ∀ i s, o.registry.Bound i s ↔ (s = c ∧ i ∈ I) ∨ (s.id ≠ c.id ∧ r.Bound i s)) := by
  by_cases hI : ∃ ic ∈ I, ReservedNamespace ic.namespace
  · exact ⟨_, upsert_of_reserved hI, by simp⟩
  · obtain ⟨m, u, hu, -, hl⟩ := upsert_of_unreserved r c I hI
    refine ⟨_, hu, fun _ i s => ?_⟩
    simp only [Registry.Bound, (hl i).1]
    exact bound_afterServices c I i _ s

/-! ## §2 Notifications -/

/-- Registering, with no intents, a service of which no configuration is bound
anywhere only records its identity: the call returns `Ok`, does not call
`on_change`, makes `has_service` true, and keeps every intent's entry. -/
theorem upsert_nil_registers_silently {r : Registry} (hr : Reachable r)
    (c : ServiceConfiguration) (hc : ∀ i s, r.Bound i s → s.id ≠ c.id) :
    ∃ o, r.upsert c [] = .ok o ∧ o.result = .ok () ∧ o.notified = none ∧
      o.registry.hasService c = true ∧
      ∀ i, o.registry.externalServicesByIntent.lookup i = r.externalServicesByIntent.lookup i := by
  obtain ⟨A, hA, hu⟩ := hr.refines
  have hne := (hA.wellFormed hu).nonempty
  obtain ⟨m, u, hup, -, hl⟩ := upsert_of_unreserved r c [] (by simp)
  have hnt : ∀ i, ¬ Touched c [] i (r.externalServicesByIntent.lookup i) := by
    rintro i (hi | ⟨S, hS, s, hs, hid⟩)
    · simp at hi
    · exact hc i s ⟨S, hS, hs⟩ hid
  have hnone : notifiedBatch u m = none := (notifiedBatch_eq_none_iff u m).mpr fun i hi =>
    hnt i ((mem_kinds_iff_touched (fun i => (hl i).2) i).mp hi)
  refine ⟨_, hup, rfl, hnone, by simp [Registry.hasService], fun i => ?_⟩
  rw [(hl i).1]
  exact afterServices_of_not_touched (hne i) (hnt i)

/-- The tests' service `B` registered with no intents, beside `A` bound to
intent 1 by an earlier call. -/
theorem upsert_nil_registers_silently_beside :
    ∃ o₁, Registry.new.upsert ⟨⟨"mock-service-A", "0.1.0"⟩, "http://service-a/", .cloud⟩
        [⟨"namespace-1", .discover⟩] = .ok o₁ ∧
      Reachable o₁.registry ∧
      (∀ i s, o₁.registry.Bound i s →
        s.id ≠ (⟨⟨"mock-service-B", "0.1.0"⟩, "http://service-b/", .cloud⟩ :
          ServiceConfiguration).id) ∧
      ∃ o, o₁.registry.upsert ⟨⟨"mock-service-B", "0.1.0"⟩, "http://service-b/", .cloud⟩ [] =
          .ok o ∧ o.result = .ok () ∧ o.notified = none ∧
        o.registry.hasService ⟨⟨"mock-service-B", "0.1.0"⟩, "http://service-b/", .cloud⟩ = true ∧
        ∀ i, o.registry.externalServicesByIntent.lookup i =
          o₁.registry.externalServicesByIntent.lookup i := by
  obtain ⟨m₁, u₁, h₁, -, hl⟩ := upsert_of_unreserved Registry.new
    ⟨⟨"mock-service-A", "0.1.0"⟩, "http://service-a/", .cloud⟩ [⟨"namespace-1", .discover⟩]
    (by decide)
  have hr := Reachable.new.upsert h₁
  have hc : ∀ i s, (∃ S, m₁.lookup i = some S ∧ s ∈ S) →
      s.id ≠ (⟨⟨"mock-service-B", "0.1.0"⟩, "http://service-b/", .cloud⟩ :
        ServiceConfiguration).id := by
    rintro i s ⟨S, hS, hs⟩
    rw [(hl i).1] at hS
    rcases (bound_afterServices _ _ i _ s).mp ⟨S, hS, hs⟩ with ⟨rfl, -⟩ | ⟨-, S', hS', -⟩
    · decide
    · cases hS'
  exact ⟨_, h₁, hr, hc, upsert_nil_registers_silently hr _ hc⟩

/-- Re-registering with no intents withdraws the service, from any registry
state: the call returns `Ok` and unbinds every configuration of `c.id`. It calls
`on_change` exactly when one was bound, and only for the intents that held one:
`Remove` for an intent left without services, `Modify` with the services left
for any other; never `Add`. -/
theorem upsert_nil_withdraws (r : Registry) (c : ServiceConfiguration) :
    ∃ o, r.upsert c [] = .ok o ∧ o.result = .ok () ∧
      (∀ i s, o.registry.Bound i s ↔ s.id ≠ c.id ∧ r.Bound i s) ∧
      (o.notified = none ↔ ∀ i s, r.Bound i s → s.id ≠ c.id) ∧
      ∀ batch, o.notified = some batch → ∀ ch ∈ batch,
        (∃ s, r.Bound ch.intent s ∧ s.id = c.id) ∧
        ((ch = .remove ch.intent ∧ o.registry.externalServicesByIntent.lookup ch.intent = none) ∨
          ∃ S, o.registry.externalServicesByIntent.lookup ch.intent = some S ∧
            ch = .modify ch.intent S) := by
  obtain ⟨m, u, hup, -, hl⟩ := upsert_of_unreserved r c [] (by simp)
  have hmark := mem_kinds_iff_touched fun i => (hl i).2
  refine ⟨_, hup, rfl, fun i s => ?_, ?_, fun batch hb ch hch => ?_⟩
  · simp [Registry.Bound, (hl i).1, bound_afterServices]
  · rw [notifiedBatch_eq_none_iff]
    simp only [hmark, Touched, Registry.Bound, List.not_mem_nil, false_or]
    constructor
    · exact fun h i s ⟨S, hS, hs⟩ hid => h i ⟨S, hS, s, hs, hid⟩
    · exact fun h i ⟨S, hS, s, hs, hid⟩ => h i s ⟨S, hS, hs⟩ hid
  rw [(notifiedBatch_eq_some hb).1] at hch
  obtain ⟨⟨i, k⟩, he, rfl⟩ := List.mem_map.mp hch
  have hk : (r.externalServicesByIntent.lookup i).bind (pruneKind c.id) = some k := by
    simpa [(hl i).2, afterKind] using AList.mem_lookup_iff.mpr he
  obtain ⟨S, hS, hp⟩ := Option.bind_eq_some.mp hk
  have hm : m.lookup i = keptServices c.id S := by simp [(hl i).1, afterServices, hS]
  obtain ⟨s, hs, hid⟩ : ∃ s ∈ S, s.id = c.id := by
    simpa [hp] using mt (pruneKind_eq_none_iff c.id S).mpr
  simp only [snapshotChange_intent]
  refine ⟨⟨s, ⟨S, hS, hs⟩, hid⟩, ?_⟩
  rcases pruneKind_eq_some hp with ⟨rfl, hkept⟩ | ⟨rfl, hkept⟩
  · exact .inl ⟨rfl, hm.trans hkept⟩
  · obtain ⟨S', hS'⟩ := Option.isSome_iff_exists.mp hkept
    exact .inr ⟨S', hm.trans hS', by simp [snapshotChange, hm, hS', Change.intent]⟩

/- `A` bound to intents 1 and 2 and `B` to intent 1; re-registering `A` with no
intents notifies `Remove` of intent 2 and `Modify` of intent 1 with `{B}`,
listed in the model's iteration order. -/
example : (do
    let o₁ ← Registry.new.upsert ⟨⟨"mock-service-A", "0.1.0"⟩, "http://service-a/", .cloud⟩
      [⟨"namespace-1", .discover⟩, ⟨"namespace-2", .discover⟩]
    let o₂ ← o₁.registry.upsert ⟨⟨"mock-service-B", "0.1.0"⟩, "http://service-b/", .cloud⟩
      [⟨"namespace-1", .discover⟩]
    let o₃ ← o₂.registry.upsert ⟨⟨"mock-service-A", "0.1.0"⟩, "http://service-a/", .cloud⟩ []
    pure o₃.notified : Except Panic _).toOption =
    some (some [.remove ⟨"namespace-2", .discover⟩,
      .modify ⟨"namespace-1", .discover⟩
        {⟨⟨"mock-service-B", "0.1.0"⟩, "http://service-b/", .cloud⟩}]) := by
  decide

/-! ## §3 Repeating a call -/

/-- A repeated call leaves every entry as the first call left it. -/
theorem afterServices_afterServices (c : ServiceConfiguration) (I : List IntentConfiguration)
    (i : IntentConfiguration) (o : Option (Finset ServiceConfiguration)) :
    afterServices c I i (afterServices c I i o) = afterServices c I i o :=
  entry_eq_of_bound_iff (fun _ => afterServices_nonempty) (fun _ => afterServices_nonempty)
    fun s => by rw [bound_afterServices, bound_afterServices c I i o]; tauto

/-- A repeated call marks exactly the requested intents, each `Modify`: pruning
removes the service the first call bound, and binding it again merges to `Modify`. -/
theorem afterKind_afterServices (c : ServiceConfiguration) (I : List IntentConfiguration)
    (i : IntentConfiguration) (o : Option (Finset ServiceConfiguration)) :
    afterKind c I i (afterServices c I i o) = if i ∈ I then some .modify else none := by
  unfold afterKind afterServices
  split_ifs with hI
  · simp only [Option.some_bind]
    rcases hk : pruneKind c.id (insert c ((o.bind (keptServices c.id)).getD ∅)) with _ | k
    · exact absurd rfl ((pruneKind_eq_none_iff _ _).mp hk c (Finset.mem_insert_self c _))
    · rcases pruneKind_eq_some hk with ⟨rfl, -⟩ | ⟨rfl, -⟩ <;> rfl
  · rcases o with _ | S
    · rfl
    · rcases hk : keptServices c.id S with _ | S'
      · simp [hk]
      · simpa [hk, pruneKind_eq_none_iff] using fun s hs => ((mem_keptServices hk s).mp hs).2

/-- Repeating an accepted call changes nothing, yet notifies again: the second
`upsert c I` returns `Ok`, leaves both indices as the first call left them, and
calls `on_change` unless `I` is empty, with one `Modify` per requested intent
carrying the entry the first call left. -/
theorem upsert_repeat_notifies_modify (r : Registry) (c : ServiceConfiguration)
    (I : List IntentConfiguration) :
    ∃ o₁ o₂, r.upsert c I = .ok o₁ ∧ o₁.registry.upsert c I = .ok o₂ ∧
      (o₁.result = .ok () →
        o₂.result = .ok () ∧ o₂.registry.knownServices = o₁.registry.knownServices ∧
        (∀ i, o₂.registry.externalServicesByIntent.lookup i =
          o₁.registry.externalServicesByIntent.lookup i) ∧
        (o₂.notified = none ↔ I = []) ∧
        ∀ batch, o₂.notified = some batch →
          (batch.map Change.intent).Nodup ∧ (∀ i, i ∈ batch.map Change.intent ↔ i ∈ I) ∧
          ∀ ch ∈ batch, ∃ S, o₁.registry.externalServicesByIntent.lookup ch.intent = some S ∧
            ch = .modify ch.intent S) := by
  by_cases hI : ∃ ic ∈ I, ReservedNamespace ic.namespace
  · exact ⟨_, _, upsert_of_reserved hI, upsert_of_reserved hI, by simp⟩
  obtain ⟨m₁, u₁, hu₁, -, hl₁⟩ := upsert_of_unreserved r c I hI
  obtain ⟨m₂, u₂, hu₂, -, hl₂⟩ :=
    upsert_of_unreserved ⟨m₁, insert c (r.knownServices.filter (·.id ≠ c.id))⟩ c I hI
  have hm : ∀ i, m₂.lookup i = m₁.lookup i := fun i => by
    rw [(hl₂ i).1, (hl₁ i).1, afterServices_afterServices]
  have hk : ∀ i, u₂.kinds.lookup i = if i ∈ I then some .modify else none := fun i => by
    rw [(hl₂ i).2, (hl₁ i).1, afterKind_afterServices]
  have hmark : ∀ i, i ∈ u₂.kinds ↔ i ∈ I := fun i => by
    rw [← AList.lookup_isSome, hk]
    split_ifs <;> simpa
  refine ⟨_, _, hu₁, hu₂, fun _ => ⟨rfl, ?_, hm, ?_, fun batch hb => ⟨?_, ?_, ?_⟩⟩⟩
  · ext s
    simp only [Finset.mem_insert, Finset.mem_filter]
    tauto
  · rw [notifiedBatch_eq_none_iff, List.eq_nil_iff_forall_not_mem]
    exact forall_congr' fun i => not_congr (hmark i)
  · rw [(notifiedBatch_eq_some hb).2.1]
    exact u₂.kinds.keys_nodup
  · intro i
    rw [(notifiedBatch_eq_some hb).2.1, ← AList.mem_keys, hmark]
  · rw [(notifiedBatch_eq_some hb).1]
    intro ch hch
    obtain ⟨⟨i, k⟩, he, rfl⟩ := List.mem_map.mp hch
    have he' : u₂.kinds.lookup i = some k := AList.mem_lookup_iff.mpr he
    rw [hk] at he'
    split_ifs at he' with hi
    cases he'
    obtain ⟨S, hS⟩ : ∃ S, m₁.lookup i = some S := by simp [(hl₁ i).1, afterServices, hi]
    exact ⟨S, hS, by simp [snapshotChange, hm, hS, Change.intent]⟩

/- Registering `A` for intent 1 twice: the second call notifies `Modify` of
intent 1 with `{A}`. -/
example : (do
    let o₁ ← Registry.new.upsert ⟨⟨"mock-service-A", "0.1.0"⟩, "http://service-a/", .cloud⟩
      [⟨"namespace-1", .discover⟩]
    let o₂ ← o₁.registry.upsert ⟨⟨"mock-service-A", "0.1.0"⟩, "http://service-a/", .cloud⟩
      [⟨"namespace-1", .discover⟩]
    pure o₂.notified : Except Panic _).toOption =
    some (some [.modify ⟨"namespace-1", .discover⟩
      {⟨⟨"mock-service-A", "0.1.0"⟩, "http://service-a/", .cloud⟩}]) := by
  decide

/-! ## §4 The requested intents as a set -/

/-- An intent's entry after a call depends on the requested intents only
through whether it is one of them. -/
theorem afterServices_congr {I I' : List IntentConfiguration} (hI : ∀ i, i ∈ I ↔ i ∈ I')
    (c : ServiceConfiguration) (i : IntentConfiguration) (o : Option (Finset ServiceConfiguration)) :
    afterServices c I i o = afterServices c I' i o := by
  simp only [afterServices, hI]

/-- So does the kind recorded for it. -/
theorem afterKind_congr {I I' : List IntentConfiguration} (hI : ∀ i, i ∈ I ↔ i ∈ I')
    (c : ServiceConfiguration) (i : IntentConfiguration) (o : Option (Finset ServiceConfiguration)) :
    afterKind c I i o = afterKind c I' i o := by
  simp only [afterKind, hI]

/-- Two maps with the same lookups hold the same entries, in some order. -/
theorem entries_perm_of_lookup {β : Type} {s s' : AList (fun _ : IntentConfiguration => β)}
    (h : ∀ i, s.lookup i = s'.lookup i) : s.entries.Perm s'.entries :=
  (List.perm_ext_iff_of_nodup s.nodupKeys.nodup s'.nodupKeys.nodup).mpr fun ⟨i, k⟩ => by
    rw [← AList.mem_lookup_iff, ← AList.mem_lookup_iff, h]

/-- A snapshot reads only the entry of its own intent. -/
theorem snapshotChange_congr {m m' : ServicesByIntent} (h : ∀ i, m.lookup i = m'.lookup i)
    (i : IntentConfiguration) (k : ChangeKind) : snapshotChange m i k = snapshotChange m' i k := by
  cases k <;> simp [snapshotChange, h]

/-- Only the set of requested intents matters, from any registry state: two
calls whose intent lists have the same members, in any order and with any
repetitions, return the same result, leave the same known services and the
same entry for every intent, and hand `on_change` the same changes, up to
their order. -/
theorem upsert_intents_as_set (r : Registry) (c : ServiceConfiguration)
    {I I' : List IntentConfiguration} (hI : ∀ i, i ∈ I ↔ i ∈ I') :
    ∃ o o', r.upsert c I = .ok o ∧ r.upsert c I' = .ok o' ∧ o.result = o'.result ∧
      o.registry.knownServices = o'.registry.knownServices ∧
      (∀ i, o.registry.externalServicesByIntent.lookup i =
        o'.registry.externalServicesByIntent.lookup i) ∧
      Option.Rel List.Perm o.notified o'.notified := by
  have hres : (∃ ic ∈ I, ReservedNamespace ic.namespace) ↔
      ∃ ic ∈ I', ReservedNamespace ic.namespace := by
    simp only [hI]
  by_cases h : ∃ ic ∈ I, ReservedNamespace ic.namespace
  · exact ⟨_, _, upsert_of_reserved h, upsert_of_reserved (hres.mp h), rfl, rfl, fun _ => rfl,
      .none⟩
  obtain ⟨m, u, hu, -, hl⟩ := upsert_of_unreserved r c I h
  obtain ⟨m', u', hu', -, hl'⟩ := upsert_of_unreserved r c I' (mt hres.mpr h)
  have hm : ∀ i, m.lookup i = m'.lookup i := fun i => by
    rw [(hl i).1, (hl' i).1, afterServices_congr hI]
  have hperm : u.kinds.entries.Perm u'.kinds.entries := entries_perm_of_lookup fun i => by
    rw [(hl i).2, (hl' i).2, afterKind_congr hI]
  have hsnap : (fun e : (Σ _ : IntentConfiguration, ChangeKind) => snapshotChange m e.1 e.2) =
      fun e => snapshotChange m' e.1 e.2 := funext fun e => snapshotChange_congr hm e.1 e.2
  refine ⟨_, _, hu, hu', rfl, rfl, hm, ?_⟩
  unfold notifiedBatch
  rw [hperm.length_eq]
  split_ifs
  · exact .some (hsnap ▸ hperm.map _)
  · exact .none

/-- A repeated intent changes nothing on a fresh registry. -/
theorem upsert_intents_as_set_repeated :
    (∀ i, i ∈ [(⟨"namespace-1", .discover⟩ : IntentConfiguration), ⟨"namespace-1", .discover⟩] ↔
      i ∈ [(⟨"namespace-1", .discover⟩ : IntentConfiguration)]) ∧
    ∃ o o', Registry.new.upsert ⟨⟨"mock-service-A", "0.1.0"⟩, "http://service-a/", .cloud⟩
          [⟨"namespace-1", .discover⟩, ⟨"namespace-1", .discover⟩] = .ok o ∧
        Registry.new.upsert ⟨⟨"mock-service-A", "0.1.0"⟩, "http://service-a/", .cloud⟩
          [⟨"namespace-1", .discover⟩] = .ok o' ∧ o.result = o'.result ∧
      o.registry.knownServices = o'.registry.knownServices ∧
      (∀ i, o.registry.externalServicesByIntent.lookup i =
        o'.registry.externalServicesByIntent.lookup i) ∧
      Option.Rel List.Perm o.notified o'.notified :=
  have hI : ∀ i, i ∈ [(⟨"namespace-1", .discover⟩ : IntentConfiguration),
      ⟨"namespace-1", .discover⟩] ↔ i ∈ [(⟨"namespace-1", .discover⟩ : IntentConfiguration)] := by
    simp
  ⟨hI, upsert_intents_as_set _ _ hI⟩

end Chariott
