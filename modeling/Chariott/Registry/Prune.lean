import Chariott.Registry.Upsert

/-!
# Pruning: `retain` over the Intent Map

The first step of `upsert` drops, from every entry of
`external_services_by_intent`, the services whose id is the upserted one. An
entry left empty is deleted, and the entry's change is recorded: `Remove` if it
was deleted, `Modify` if it shrank.

The closure runs once per key, so every transition starts from no mark. Under
that condition the pass never panics, and its effect on each key depends on
that key's entry only (`pruneServices_spec`).
-/

namespace Chariott

/-! ## §1 The effect on one entry -/

/-- The entry pruning leaves for a service set: none if no service is left. -/
def keptServices (id : ServiceId) (services : Finset ServiceConfiguration) :
    Option (Finset ServiceConfiguration) :=
  if (services.filter (·.id ≠ id)).card = 0 then none else some (services.filter (·.id ≠ id))

/-- The kind pruning records for a service set: none if no service of `id` was in it. -/
def pruneKind (id : ServiceId) (services : Finset ServiceConfiguration) : Option ChangeKind :=
  if services.card ≠ (services.filter (·.id ≠ id)).card then
    some (if (services.filter (·.id ≠ id)).card = 0 then .remove else .modify)
  else none

/-- The services pruning keeps are those of other ids. -/
theorem mem_keptServices {id : ServiceId} {S S' : Finset ServiceConfiguration}
    (h : keptServices id S = some S') (s : ServiceConfiguration) : s ∈ S' ↔ s ∈ S ∧ s.id ≠ id := by
  unfold keptServices at h
  split_ifs at h
  cases h
  simp

/-- Pruning keeps an entry exactly when it holds a service of another id. -/
theorem keptServices_isSome (id : ServiceId) (S : Finset ServiceConfiguration) :
    (keptServices id S).isSome ↔ ∃ s ∈ S, s.id ≠ id := by
  rw [← Finset.filter_nonempty_iff, ← Finset.card_pos]
  unfold keptServices
  split_ifs with h <;> simp [h, Nat.pos_of_ne_zero]

/-- Pruning leaves an entry unmarked exactly when it holds no service of `id`. -/
theorem pruneKind_eq_none_iff (id : ServiceId) (S : Finset ServiceConfiguration) :
    pruneKind id S = none ↔ ∀ s ∈ S, s.id ≠ id := by
  unfold pruneKind
  split_ifs with h
  · simp only [reduceCtorEq, false_iff]
    exact fun hall => h (Finset.card_filter_eq_iff.mpr hall).symm
  · simpa using Finset.card_filter_eq_iff.mp (not_not.mp h).symm

/-- A marked entry is marked `Remove` when pruning keeps nothing of it, and
`Modify` when it keeps some service. -/
theorem pruneKind_eq_some {id : ServiceId} {S : Finset ServiceConfiguration} {k : ChangeKind}
    (h : pruneKind id S = some k) :
    (k = .remove ∧ keptServices id S = none) ∨ (k = .modify ∧ (keptServices id S).isSome) := by
  unfold pruneKind at h
  unfold keptServices
  split_ifs at h ⊢ <;> cases h <;> simp_all

/-- After pruning, a service is bound exactly if it has another id and was bound. -/
theorem bound_bind_keptServices (o : Option (Finset ServiceConfiguration)) (id : ServiceId)
    (s : ServiceConfiguration) :
    (∃ S', o.bind (keptServices id) = some S' ∧ s ∈ S') ↔ s.id ≠ id ∧ ∃ S, o = some S ∧ s ∈ S := by
  rcases o with _ | S
  · simp
  · simp only [Option.some_bind, Option.some.injEq, exists_eq_left']
    cases hk : keptServices id S with
    | none =>
      simp only [reduceCtorEq, false_and, exists_false, false_iff, not_and]
      intro hne hs
      simpa [hk] using (keptServices_isSome id S).mpr ⟨s, hs, hne⟩
    | some S' => simp [mem_keptServices hk, and_comm]

/-- Inserting an optional value under a key that has none sets that key only. -/
theorem lookup_elim_insert {β : Type} {m : AList (fun _ : IntentConfiguration => β)}
    {k : IntentConfiguration} (hk : m.lookup k = none) (o : Option β) (i : IntentConfiguration) :
    (o.elim m fun v => m.insert k v).lookup i = if i = k then o else m.lookup i := by
  by_cases hi : i = k
  · subst hi; cases o <;> simp [hk]
  · cases o <;> simp [hi]

/-- The closure of `retain` on a key with no mark: it never panics, keeps the
entry `keptServices` gives, and records the kind `pruneKind` gives. -/
theorem retainIntent_eq (id : ServiceId) (acc : Work)
    (e : Σ _ : IntentConfiguration, Finset ServiceConfiguration)
    (hm : acc.2.kinds.lookup e.1 = none) :
    retainIntent id acc e = .ok ((keptServices id e.2).elim acc.1 fun S => acc.1.insert e.1 S,
      ⟨(pruneKind id e.2).elim acc.2.kinds fun k => acc.2.kinds.insert e.1 k⟩) := by
  have hsucc : ∀ k, mergeKind (acc.2.kinds.lookup e.1) k = some k := by simp [hm, mergeKind]
  unfold retainIntent keptServices pruneKind
  split_ifs <;> simp_all [TransactionalRegistryUpdate.transition_eq_ok (hsucc _)]

/-- On a key with no entry so far in the rebuilt map and no mark, the closure
of `retain` sets that key's entry and mark, and no other. -/
theorem retainIntent_spec (id : ServiceId) (acc : Work)
    (e : Σ _ : IntentConfiguration, Finset ServiceConfiguration)
    (hk : acc.1.lookup e.1 = none) (hm : acc.2.kinds.lookup e.1 = none) :
    ∃ w, retainIntent id acc e = .ok w ∧ ∀ i,
      w.1.lookup i = (if i = e.1 then keptServices id e.2 else acc.1.lookup i) ∧
      w.2.kinds.lookup i = (if i = e.1 then pruneKind id e.2 else acc.2.kinds.lookup i) :=
  ⟨_, retainIntent_eq id acc e hm, fun i => ⟨lookup_elim_insert hk _ i, lookup_elim_insert hm _ i⟩⟩

/-! ## §2 The whole pass -/

/-- `retain` over entries with distinct keys, none of them yet in the rebuilt
map or marked: it never panics, and each key of the entries gets the entry and
the mark of its own service set. -/
theorem foldlM_retainIntent (id : ServiceId) :
    ∀ (es : List (Σ _ : IntentConfiguration, Finset ServiceConfiguration)) (acc : Work),
      es.NodupKeys → (∀ i ∈ es.keys, acc.1.lookup i = none ∧ acc.2.kinds.lookup i = none) →
      ∃ w, es.foldlM (retainIntent id) acc = .ok w ∧ ∀ i,
        w.1.lookup i = ((es.dlookup i).bind (keptServices id)).or (acc.1.lookup i) ∧
        w.2.kinds.lookup i = ((es.dlookup i).bind (pruneKind id)).or (acc.2.kinds.lookup i)
  | [], acc, _, _ => ⟨acc, rfl, fun i => by simp⟩
  | ⟨k, S⟩ :: es, acc, hnd, hfresh => by
    obtain ⟨hk_es, hnd⟩ := List.nodupKeys_cons.mp hnd
    obtain ⟨hk, hm⟩ := hfresh k (List.mem_cons_self _ _)
    obtain ⟨w₁, hw₁, hl₁⟩ := retainIntent_spec id acc ⟨k, S⟩ hk hm
    have hfresh₁ : ∀ i ∈ es.keys, w₁.1.lookup i = none ∧ w₁.2.kinds.lookup i = none := by
      intro i hi
      have hne : i ≠ k := fun h => hk_es (h ▸ hi)
      simpa only [hl₁ i, if_neg hne] using hfresh i (List.mem_cons_of_mem _ hi)
    obtain ⟨w, hw, hl⟩ := foldlM_retainIntent id es w₁ hnd hfresh₁
    refine ⟨w, by simp [hw₁, hw], fun i => ?_⟩
    by_cases hi : i = k
    · subst hi
      simp [hl, hl₁, List.dlookup_eq_none.mpr hk_es, List.dlookup_cons_eq, hk, hm]
    · simp [hl, hl₁, hi, List.dlookup_cons_ne]

/-- The pruning pass of `upsert` never panics. Each intent keeps its services
other than those of `id`, losing its entry if none is left, and is marked as
`pruneKind` says. -/
theorem pruneServices_spec (id : ServiceId) (m : ServicesByIntent) :
    ∃ w, pruneServices id m TransactionalRegistryUpdate.new = .ok w ∧ ∀ i,
      w.1.lookup i = (m.lookup i).bind (keptServices id) ∧
      w.2.kinds.lookup i = (m.lookup i).bind (pruneKind id) := by
  obtain ⟨w, hw, hl⟩ := foldlM_retainIntent id m.entries (∅, .new) m.nodupKeys
    (fun _ _ => ⟨rfl, rfl⟩)
  exact ⟨w, hw, fun i => by simpa [AList.lookup, TransactionalRegistryUpdate.new] using hl i⟩

end Chariott
