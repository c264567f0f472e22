import Chariott.Registry.NetDiff

/-!
# Observers, and the Batches as a Complete Change Log

An observer is modelled by the effect its `on_change` has on the state it owns
(the mock broker of the tests, for instance, appends the batch to a log).
`Composite` wraps two observers and forwards each batch to both, left first. A
registry with its observer runs `upsert`, then `on_change` if `upsert` called
it.

What `on_change` is for: a consumer downstream of the registry (the intent
broker, a republisher) keeps its own copy of `external_services_by_intent` and
updates it from the batches alone, `Add` and `Modify` setting an intent's
services and `Remove` deleting the intent.

Over every sequence of calls, such a copy stays equal to the registry's index,
intent by intent, whatever order it applies each batch in: the model's batch
order stands for `HashMap`'s unspecified iteration order, and the result does
not depend on it. No change is lost, none is left over, and no batch leaves the
copy in an intermediate state.

The step lemma (`upsertObserved_mirror`) reads one call through the closed
forms of `upsert_of_unreserved`: a marked intent's change carries its entry
after the call, because the marks agree with the map (`MarksAgree`), and an
unmarked intent keeps its entry, because entries of reachable states are never
empty. The run lemma follows by induction on the calls.
-/

namespace Chariott

/-! ## §1 Observed calls -/

/-- `Observer`, as the effect of `on_change` on the state the observer owns. -/
structure Observer (σ : Type) where
  onChange : List Change → σ → σ

/-- `Composite::new(left, right)`: `on_change` forwards the batch to `left`,
then the same batch to `right`. -/
def Composite.new {σ τ : Type} (left : Observer σ) (right : Observer τ) : Observer (σ × τ) where
  onChange changes s := (left.onChange changes s.1, right.onChange changes s.2)

/-- One call of `Registry::upsert` on a registry with observer `obs` in state
`s`: the `Result`, the registry after the call, and the observer's state after it. -/
def Registry.upsertObserved {σ : Type} (obs : Observer σ) (r : Registry) (s : σ)
    (c : ServiceConfiguration) (I : List IntentConfiguration) :
    Except Panic (Except Error Unit × Registry × σ) := do
  let o ← r.upsert c I
  pure (o.result, o.registry, o.notified.elim s fun batch => obs.onChange batch s)

/-- A sequence of calls on a registry with an observer. -/
def runObserved {σ : Type} (obs : Observer σ) : Registry × σ → List Call →
    Except Panic (Registry × σ)
  | rs, [] => pure rs
  | (r, s), (c, I) :: calls => do
    let step ← r.upsertObserved obs s c I
    runObserved obs step.2 calls

/-! ## §2 Applying a batch -/

/-- The entry a change sets for its intent: its services for `Add` and
`Modify`, no entry for `Remove`. -/
def Change.entry : Change → Option (Finset ServiceConfiguration)
  | .add _ services => some services
  | .modify _ services => some services
  | .remove _ => none

/-- A copy of the intent index applies one change. -/
def applyChange (copy : ServicesByIntent) : Change → ServicesByIntent
  | .add intent services => copy.insert intent services
  | .modify intent services => copy.insert intent services
  | .remove intent => copy.erase intent

/-- A consumer that keeps a copy of `external_services_by_intent`, applying the
changes of each batch in the order `reorder` puts them in. -/
def mirror (reorder : List Change → List Change) : Observer ServicesByIntent :=
  ⟨fun changes copy => (reorder changes).foldl applyChange copy⟩

/-- A change sets its own intent's entry and no other. -/
theorem lookup_applyChange (copy : ServicesByIntent) (ch : Change) (i : IntentConfiguration) :
    (applyChange copy ch).lookup i = if ch.intent = i then ch.entry else copy.lookup i := by
  by_cases hi : ch.intent = i
  · subst hi
    cases ch <;> simp [applyChange, Change.intent, Change.entry]
  · have hi' : i ≠ ch.intent := Ne.symm hi
    cases ch <;>
      simp_all [applyChange, Change.intent, AList.lookup_insert_ne, AList.lookup_erase_ne]

/-- Changes for other intents leave an intent's entry alone. -/
theorem lookup_foldl_applyChange_of_not_mem {i : IntentConfiguration} :
    ∀ (cs : List Change) (copy : ServicesByIntent), i ∉ cs.map Change.intent →
      (cs.foldl applyChange copy).lookup i = copy.lookup i
  | [], _, _ => rfl
  | ch :: cs, copy, h => by
    simp only [List.map_cons, List.mem_cons, not_or] at h
    rw [List.foldl_cons, lookup_foldl_applyChange_of_not_mem cs _ h.2, lookup_applyChange,
      if_neg (Ne.symm h.1)]

/-- In a batch with one change per intent, an intent ends with the entry its change sets. -/
theorem lookup_foldl_applyChange_of_mem {ch : Change} :
    ∀ (cs : List Change) (copy : ServicesByIntent), (cs.map Change.intent).Nodup → ch ∈ cs →
      (cs.foldl applyChange copy).lookup ch.intent = ch.entry
  | [], _, _, h => absurd h (List.not_mem_nil _)
  | ch' :: cs, copy, hnd, h => by
    rw [List.map_cons, List.nodup_cons] at hnd
    rw [List.foldl_cons]
    rcases List.mem_cons.mp h with rfl | h
    · rw [lookup_foldl_applyChange_of_not_mem cs _ hnd.1, lookup_applyChange, if_pos rfl]
    · exact lookup_foldl_applyChange_of_mem cs _ hnd.2 h

/-- With marks that agree with the map, the change `observe` builds for a
marked intent sets the intent's entry in that map. -/
theorem entry_snapshotChange {m : ServicesByIntent} {u : TransactionalRegistryUpdate}
    (h : MarksAgree m u) {i : IntentConfiguration} {k : ChangeKind}
    (hk : u.kinds.lookup i = some k) : (snapshotChange m i k).entry = m.lookup i := by
  have hmem := h i k hk
  cases k with
  | remove =>
    rw [eq_comm]
    simpa [snapshotChange, Change.entry, ← AList.lookup_isSome] using hmem
  | add | modify =>
    obtain ⟨S, hS⟩ := Option.isSome_iff_exists.mp (AList.lookup_isSome.mpr (hmem.mpr (by simp)))
    simp [snapshotChange, Change.entry, hS]

/-! ## §3 One call -/

section Mirror

variable (reorder : List Change → List Change) (hperm : ∀ changes, (reorder changes).Perm changes)

include hperm

/-- One call of `upsert` observed by the copy, from a reachable registry whose
index the copy equals: the call returns, the registry after it is reachable,
and the copy after it equals the new index. -/
theorem upsertObserved_mirror {r : Registry} (hr : Reachable r) {copy : ServicesByIntent}
    (hcopy : ∀ i, copy.lookup i = r.externalServicesByIntent.lookup i)
    (c : ServiceConfiguration) (I : List IntentConfiguration) :
    ∃ res r' copy', r.upsertObserved (mirror reorder) copy c I = .ok (res, r', copy') ∧
      Reachable r' ∧ ∀ i, copy'.lookup i = r'.externalServicesByIntent.lookup i := by
  by_cases hI : ∃ ic ∈ I, ReservedNamespace ic.namespace
  · have hres := @upsert_of_reserved r c I hI
    exact ⟨_, _, _, by rw [Registry.upsertObserved, hres]; rfl, hr.upsert hres, hcopy⟩
  obtain ⟨A, hA, hu⟩ := hr.refines
  have hne := (hA.wellFormed hu).nonempty
  obtain ⟨m, u, hup, hag, hl⟩ := upsert_of_unreserved r c I hI
  have hmark := mem_kinds_iff_touched fun i => (hl i).2
  have hkeep : ∀ i, i ∉ u.kinds → copy.lookup i = m.lookup i := fun i hi => by
    rw [hcopy, (hl i).1, afterServices_of_not_touched (hne i) fun ht => hi ((hmark i).mpr ht)]
  refine ⟨_, _, _, by rw [Registry.upsertObserved, hup]; rfl, hr.upsert hup, fun i => ?_⟩
  rcases hb : notifiedBatch u m with _ | batch
  · exact hkeep i ((notifiedBatch_eq_none_iff u m).mp hb i)
  obtain ⟨hbatch, hkeys, -⟩ := notifiedBatch_eq_some hb
  have hperm' := (hperm batch).map Change.intent
  have hnd : ((reorder batch).map Change.intent).Nodup := by
    rw [hperm'.nodup_iff, hkeys]
    exact u.kinds.keys_nodup
  show ((reorder batch).foldl applyChange copy).lookup i = m.lookup i
  by_cases hi : i ∈ u.kinds
  · obtain ⟨k, hk⟩ := Option.isSome_iff_exists.mp (AList.lookup_isSome.mpr hi)
    have hch : snapshotChange m i k ∈ reorder batch := by
      rw [(hperm batch).mem_iff, hbatch]
      exact List.mem_map.mpr ⟨⟨i, k⟩, AList.mem_lookup_iff.mp hk, rfl⟩
    have := lookup_foldl_applyChange_of_mem _ copy hnd hch
    rwa [snapshotChange_intent, entry_snapshotChange hag hk] at this
  · have hi' : i ∉ (reorder batch).map Change.intent := by
      rw [hperm'.mem_iff, hkeys]
      exact hi
    rw [lookup_foldl_applyChange_of_not_mem _ copy hi', hkeep i hi]

/-! ## §4 Every run -/

/-- The batches are a complete change log: from any reachable registry and a
copy of its index, over any sequence of calls, a copy that applies each batch
handed to `on_change`, in any order, ends equal to the registry's index. -/
theorem runObserved_mirror : ∀ (calls : List Call) (r : Registry) (copy : ServicesByIntent),
    Reachable r → (∀ i, copy.lookup i = r.externalServicesByIntent.lookup i) →
    ∃ r' copy', runObserved (mirror reorder) (r, copy) calls = .ok (r', copy') ∧
      Reachable r' ∧ ∀ i, copy'.lookup i = r'.externalServicesByIntent.lookup i
  | [], r, copy, hr, hcopy => ⟨r, copy, rfl, hr, hcopy⟩
  | (c, I) :: calls, r, copy, hr, hcopy => by
    obtain ⟨res, r₁, copy₁, h₁, hr₁, hcopy₁⟩ := upsertObserved_mirror reorder hperm hr hcopy c I
    obtain ⟨r', copy', h, hr', hcopy'⟩ := runObserved_mirror calls r₁ copy₁ hr₁ hcopy₁
    exact ⟨r', copy', by simp [runObserved, h₁, h], hr', hcopy'⟩

end Mirror

/-- The re-registration scenario of the tests, mirrored from an empty copy
that applies each batch in reverse. -/
theorem runObserved_mirror_reregistration :
    (∀ changes : List Change, (List.reverse changes).Perm changes) ∧ Reachable Registry.new ∧
      (∀ i, (∅ : ServicesByIntent).lookup i = Registry.new.externalServicesByIntent.lookup i) ∧
      ∃ r' copy', runObserved (mirror List.reverse) (Registry.new, ∅)
          [(⟨⟨"mock-service-A", "0.1.0"⟩, "http://service-a/", .cloud⟩, [⟨"namespace-1", .discover⟩]),
           (⟨⟨"mock-service-B", "0.1.0"⟩, "http://service-b/", .cloud⟩, [⟨"namespace-1", .discover⟩]),
           (⟨⟨"mock-service-A", "0.1.0"⟩, "http://service-a-new/", .cloud⟩,
             [⟨"namespace-2", .discover⟩])] = .ok (r', copy') ∧
        Reachable r' ∧ ∀ i, copy'.lookup i = r'.externalServicesByIntent.lookup i :=
  ⟨List.reverse_perm, .new, fun _ => rfl,
    runObserved_mirror List.reverse List.reverse_perm _ _ _ .new fun _ => rfl⟩

end Chariott
