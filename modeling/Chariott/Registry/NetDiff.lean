import Chariott.Registry.Refinement

/-!
# The Notified Batch is the Net Diff

One accepted `upsert` notifies the observer once, with one change per intent it
touched: the intents requested, and those that held a service of the upserted
id. The kind of each change is the net effect on that intent, read against the
state before the call (`Add` if it had no entry, `Remove` if it has none after,
`Modify` otherwise), never a `Remove` and an `Add` for one intent. An intent it
did not touch keeps its entry.

The proof goes intent by intent over the closed forms `afterServices` and
`afterKind` of the previous files; the only fact about reachable states it
needs is that no entry is empty (`Registry.WellFormed.nonempty`).
Without that fact, from any state, the batch still holds one change per touched
intent, so it is never longer than the intents requested and the keys before
the call together.
-/

namespace Chariott

/-! ## §1 Touched intents and net changes -/

/-- `upsert c I` touches intent `i`, whose entry before the call is `o`: `i` is
requested, or it held a service of `c.id`. -/
def Touched (c : ServiceConfiguration) (I : List IntentConfiguration) (i : IntentConfiguration)
    (o : Option (Finset ServiceConfiguration)) : Prop :=
  i ∈ I ∨ ∃ S, o = some S ∧ ∃ s ∈ S, s.id = c.id

/-- The net change of intent `i` whose entry goes from `before` to `after`. -/
def netChange (i : IntentConfiguration) :
    Option (Finset ServiceConfiguration) → Option (Finset ServiceConfiguration) → Option Change
  | none, some S' => some (.add i S')
  | some _, none => some (.remove i)
  | some _, some S' => some (.modify i S')
  | none, none => none

/-- An intent is marked exactly when the call touches it. -/
theorem afterKind_eq_none_iff (c : ServiceConfiguration) (I : List IntentConfiguration)
    (i : IntentConfiguration) (o : Option (Finset ServiceConfiguration)) :
    afterKind c I i o = none ↔ ¬ Touched c I i o := by
  unfold afterKind Touched
  split_ifs with hI
  · simp [hI]
  · cases o <;> simp [hI, pruneKind_eq_none_iff]

/-- The intents `upsert` marks are the ones it touches. -/
theorem mem_kinds_iff_touched {u : TransactionalRegistryUpdate} {c : ServiceConfiguration}
    {I : List IntentConfiguration} {m : ServicesByIntent}
    (hl : ∀ i, u.kinds.lookup i = afterKind c I i (m.lookup i)) (i : IntentConfiguration) :
    i ∈ u.kinds ↔ Touched c I i (m.lookup i) := by
  rw [← AList.lookup_isSome, hl i, Option.isSome_iff_ne_none, ne_eq, afterKind_eq_none_iff,
    not_not]

section NonemptyEntry

variable {c : ServiceConfiguration} {I : List IntentConfiguration} {i : IntentConfiguration}
  {o : Option (Finset ServiceConfiguration)}

/-- An intent the call does not touch keeps a nonempty entry. -/
theorem afterServices_of_not_touched (ho : ∀ S, o = some S → S.Nonempty)
    (h : ¬ Touched c I i o) : afterServices c I i o = o := by
  simp only [Touched, not_or, not_exists, not_and] at h
  cases o with
  | none => simp [afterServices, h.1]
  | some S =>
    have hall : ∀ s ∈ S, s.id ≠ c.id := fun s hs => h.2 S rfl s hs
    simp [afterServices, h.1, keptServices, Finset.filter_true_of_mem hall, (ho S rfl).ne_empty]

/-- The mark of a touched intent is its net change, read against a nonempty
entry before the call. -/
theorem netChange_after (ho : ∀ S, o = some S → S.Nonempty) {k : ChangeKind}
    (hk : afterKind c I i o = some k) {m : ServicesByIntent}
    (hm : m.lookup i = afterServices c I i o) :
    netChange i o (m.lookup i) = some (snapshotChange m i k) := by
  simp only [hm, snapshotChange]
  unfold afterKind at hk
  unfold afterServices
  rcases o with _ | S
  · split_ifs at hk ⊢ <;> cases k <;> simp_all [firstBindKind, netChange]
  · have hne := (ho S rfl).ne_empty
    simp only [Option.some_bind, pruneKind, keptServices] at hk ⊢
    split_ifs at hk ⊢ <;> cases k <;> simp_all [firstBindKind, netChange]

end NonemptyEntry

/-! ## §2 One accepted call -/

/-- What an accepted call `o` of `r.upsert c I` must do, reading the entries
before the call in `r` and after it in `o.registry`: return `Ok`; call
`on_change` exactly when it touches some intent, with one change per touched
intent and none for another, each the intent's net change; keep the entry of
every intent it does not touch. -/
structure NotifiesNetDiff (r : Registry) (c : ServiceConfiguration)
    (I : List IntentConfiguration) (o : UpsertOutcome) : Prop where
  ok : o.result = .ok ()
  silent_iff : o.notified = none ↔ ∀ i, ¬ Touched c I i (r.externalServicesByIntent.lookup i)
  nodup : ∀ batch, o.notified = some batch → (batch.map Change.intent).Nodup
  mem_iff : ∀ batch, o.notified = some batch →
    ∀ i, i ∈ batch.map Change.intent ↔ Touched c I i (r.externalServicesByIntent.lookup i)
  net : ∀ batch, o.notified = some batch → ∀ ch ∈ batch,
    netChange ch.intent (r.externalServicesByIntent.lookup ch.intent)
      (o.registry.externalServicesByIntent.lookup ch.intent) = some ch
  untouched : ∀ i, ¬ Touched c I i (r.externalServicesByIntent.lookup i) →
    o.registry.externalServicesByIntent.lookup i = r.externalServicesByIntent.lookup i

/-- From a reachable registry, an `upsert` with no reserved intent notifies
exactly the net diff of the call. -/
theorem upsert_notifies_net_diff {r : Registry} (hr : Reachable r) (c : ServiceConfiguration)
    (I : List IntentConfiguration) (hI : ∀ ic ∈ I, ¬ ReservedNamespace ic.namespace) :
    ∃ o, r.upsert c I = .ok o ∧ NotifiesNetDiff r c I o := by
  obtain ⟨A, hA, hu⟩ := hr.refines
  have hne := (hA.wellFormed hu).nonempty
  obtain ⟨m, u, hup, -, hl⟩ :=
    upsert_of_unreserved r c I fun ⟨ic, hic, hres⟩ => hI ic hic hres
  have hmark := mem_kinds_iff_touched fun i => (hl i).2
  refine ⟨_, hup, ⟨rfl, ?_, fun batch hb => ?_, fun batch hb i => ?_, fun batch hb => ?_,
    fun i hi => ?_⟩⟩
  · exact (notifiedBatch_eq_none_iff u m).trans (forall_congr' fun i => not_congr (hmark i))
  · rw [(notifiedBatch_eq_some hb).2.1]
    exact u.kinds.keys_nodup
  · rw [(notifiedBatch_eq_some hb).2.1, ← AList.mem_keys, hmark]
  · rw [(notifiedBatch_eq_some hb).1]
    intro ch hch
    obtain ⟨e, he, rfl⟩ := List.mem_map.mp hch
    rw [snapshotChange_intent]
    exact netChange_after (hne e.1) ((hl e.1).2 ▸ AList.mem_lookup_iff.mpr he) (hl e.1).1
  · rw [(hl i).1]
    exact afterServices_of_not_touched (hne i) hi

/-- The re-registration test of `registry.rs`, reached by its own calls: `A`
and `B` bound to intent 1, then `A` re-registered at a new URL for intent 2,
which prunes `A` from intent 1 (a `Modify`) and binds it to intent 2 (an `Add`). -/
theorem upsert_notifies_net_diff_reregistration :
    ∃ o₁ o₂, Registry.new.upsert ⟨⟨"mock-service-A", "0.1.0"⟩, "http://service-a/", .cloud⟩
        [⟨"namespace-1", .discover⟩] = .ok o₁ ∧
      o₁.registry.upsert ⟨⟨"mock-service-B", "0.1.0"⟩, "http://service-b/", .cloud⟩
        [⟨"namespace-1", .discover⟩] = .ok o₂ ∧
      Reachable o₂.registry ∧
      (∀ ic ∈ [(⟨"namespace-2", .discover⟩ : IntentConfiguration)],
        ¬ ReservedNamespace ic.namespace) ∧
      ∃ o, o₂.registry.upsert ⟨⟨"mock-service-A", "0.1.0"⟩, "http://service-a-new/", .cloud⟩
          [⟨"namespace-2", .discover⟩] = .ok o ∧
        NotifiesNetDiff o₂.registry ⟨⟨"mock-service-A", "0.1.0"⟩, "http://service-a-new/", .cloud⟩
          [⟨"namespace-2", .discover⟩] o := by
  obtain ⟨o₁, h₁, -⟩ := upsert_ok_of_unreserved Registry.new
    ⟨⟨"mock-service-A", "0.1.0"⟩, "http://service-a/", .cloud⟩ [⟨"namespace-1", .discover⟩]
    (by decide)
  obtain ⟨o₂, h₂, -⟩ := upsert_ok_of_unreserved o₁.registry
    ⟨⟨"mock-service-B", "0.1.0"⟩, "http://service-b/", .cloud⟩ [⟨"namespace-1", .discover⟩]
    (by decide)
  have hr := (Reachable.new.upsert h₁).upsert h₂
  exact ⟨o₁, o₂, h₁, h₂, hr, by decide, upsert_notifies_net_diff hr _ _ (by decide)⟩

/- The re-registration test of `registry.rs`: `A` and `B` bound to intent 1, then
`A` re-registered at a new URL for intent 2. The batch is `Modify` of intent 1
with `{B}` and `Add` of intent 2 with the new `A`, listed in the model's
iteration order. -/
example : (do
    let o₁ ← Registry.new.upsert ⟨⟨"mock-service-A", "0.1.0"⟩, "http://service-a/", .cloud⟩
      [⟨"namespace-1", .discover⟩]
    let o₂ ← o₁.registry.upsert ⟨⟨"mock-service-B", "0.1.0"⟩, "http://service-b/", .cloud⟩
      [⟨"namespace-1", .discover⟩]
    let o₃ ← o₂.registry.upsert ⟨⟨"mock-service-A", "0.1.0"⟩, "http://service-a-new/", .cloud⟩
      [⟨"namespace-2", .discover⟩]
    pure o₃.notified : Except Panic _).toOption =
    some (some [.add ⟨"namespace-2", .discover⟩
        {⟨⟨"mock-service-A", "0.1.0"⟩, "http://service-a-new/", .cloud⟩},
      .modify ⟨"namespace-1", .discover⟩
        {⟨⟨"mock-service-B", "0.1.0"⟩, "http://service-b/", .cloud⟩}]) := by
  decide

/-! ## §3 The size of a batch -/

/-- A touched intent is requested, or a key of the map before the call. -/
theorem mem_of_touched {c : ServiceConfiguration} {I : List IntentConfiguration}
    {m : ServicesByIntent} {i : IntentConfiguration} (h : Touched c I i (m.lookup i)) :
    i ∈ I ++ m.keys := by
  rcases h with hi | ⟨S, hS, -⟩
  · exact List.mem_append_left _ hi
  · exact List.mem_append_right _ (AList.mem_keys.mpr (AList.lookup_isSome.mp (by simp [hS])))

/-- From any registry state, the batch handed to `on_change` holds at most one
change per requested intent and per key of the map before the call. -/
theorem upsert_batch_length_le (r : Registry) (c : ServiceConfiguration)
    (I : List IntentConfiguration) :
    ∃ o, r.upsert c I = .ok o ∧ ∀ batch, o.notified = some batch →
      batch.length ≤ I.length + r.externalServicesByIntent.entries.length := by
  by_cases hI : ∃ ic ∈ I, ReservedNamespace ic.namespace
  · exact ⟨_, upsert_of_reserved hI, by simp⟩
  obtain ⟨m, u, hu, -, hl⟩ := upsert_of_unreserved r c I hI
  refine ⟨_, hu, fun batch hb => ?_⟩
  have hmark := mem_kinds_iff_touched fun i => (hl i).2
  obtain ⟨-, hkeys, -⟩ := notifiedBatch_eq_some hb
  have hsub : (batch.map Change.intent).Subperm (I ++ r.externalServicesByIntent.keys) := by
    rw [hkeys]
    exact u.kinds.keys_nodup.subperm fun i hi =>
      mem_of_touched ((hmark i).mp (AList.mem_keys.mp hi))
  simpa [AList.keys, List.keys] using hsub.length_le

end Chariott
