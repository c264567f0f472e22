import Chariott.Registry.Rebind

/-!
# The Outcome of `upsert`

One specification for each of the two ways `upsert` can go, assembled from the
specifications of its passes:

* a call with a reserved intent returns the protected-namespace error and
  leaves the registry and the observer untouched (`upsert_of_reserved`);
* any other call succeeds, and each intent's entry and recorded kind are
  given by its entry before the call alone (`upsert_of_unreserved`).

Neither panics, whatever the registry state, reachable or not.
-/

namespace Chariott

/-! ## §1 Per-intent effect of an accepted call -/

/-- The entry of intent `i` after `upsert c I` accepted, from its entry `o`
before the call: pruned, then bound to `c` if `i` is requested. -/
def afterServices (c : ServiceConfiguration) (I : List IntentConfiguration)
    (i : IntentConfiguration) (o : Option (Finset ServiceConfiguration)) :
    Option (Finset ServiceConfiguration) :=
  if i ∈ I then some (insert c ((o.bind (keptServices c.id)).getD ∅))
  else o.bind (keptServices c.id)

private theorem mem_getD_empty {s : ServiceConfiguration}
    (x : Option (Finset ServiceConfiguration)) : s ∈ x.getD ∅ ↔ ∃ S, x = some S ∧ s ∈ S := by
  cases x <;> simp

/-- After an accepted call, `s` is bound to `i` exactly if it is the upserted
service and `i` is requested, or it has another id and was bound to `i`. -/
theorem bound_afterServices (c : ServiceConfiguration) (I : List IntentConfiguration)
    (i : IntentConfiguration) (o : Option (Finset ServiceConfiguration))
    (s : ServiceConfiguration) :
    (∃ S', afterServices c I i o = some S' ∧ s ∈ S') ↔
      (s = c ∧ i ∈ I) ∨ (s.id ≠ c.id ∧ ∃ S, o = some S ∧ s ∈ S) := by
  unfold afterServices
  split_ifs with hI
  · simp [mem_getD_empty, bound_bind_keptServices, hI]
  · simp [bound_bind_keptServices, hI]

/-- An entry after an accepted call is never empty. -/
theorem afterServices_nonempty {c : ServiceConfiguration} {I : List IntentConfiguration}
    {i : IntentConfiguration} {o : Option (Finset ServiceConfiguration)}
    {S : Finset ServiceConfiguration} (h : afterServices c I i o = some S) : S.Nonempty := by
  unfold afterServices at h
  split_ifs at h
  · cases h
    exact Finset.insert_nonempty _ _
  · obtain ⟨S₀, -, hk⟩ := Option.bind_eq_some.mp h
    unfold keptServices at hk
    split_ifs at hk with h0
    cases hk
    exact Finset.card_pos.mp (Nat.pos_of_ne_zero h0)

/-- Two entries that are never empty are equal when they hold the same services. -/
theorem entry_eq_of_bound_iff {o o' : Option (Finset ServiceConfiguration)}
    (h : ∀ S, o = some S → S.Nonempty) (h' : ∀ S, o' = some S → S.Nonempty)
    (hmem : ∀ s, (∃ S, o = some S ∧ s ∈ S) ↔ ∃ S, o' = some S ∧ s ∈ S) : o = o' := by
  rcases o with _ | S <;> rcases o' with _ | S'
  · rfl
  · obtain ⟨s, hs⟩ := h' S' rfl
    simpa using (hmem s).mpr ⟨S', rfl, hs⟩
  · obtain ⟨s, hs⟩ := h S rfl
    simpa using (hmem s).mp ⟨S, rfl, hs⟩
  · exact congrArg some (Finset.ext fun s => by simpa using hmem s)

/-- The kind recorded for intent `i` by `upsert c I`, from its entry `o` before the call. -/
def afterKind (c : ServiceConfiguration) (I : List IntentConfiguration)
    (i : IntentConfiguration) (o : Option (Finset ServiceConfiguration)) : Option ChangeKind :=
  if i ∈ I then
    some (firstBindKind (o.bind (pruneKind c.id)) (o.bind (keptServices c.id)).isSome)
  else o.bind (pruneKind c.id)

/-- The change `observe` builds for a mark, reading the map after the call. -/
def snapshotChange (m : ServicesByIntent) (i : IntentConfiguration) : ChangeKind → Change
  | .add => .add i ((m.lookup i).getD ∅)
  | .modify => .modify i ((m.lookup i).getD ∅)
  | .remove => .remove i

@[simp] theorem snapshotChange_intent (m : ServicesByIntent) (i : IntentConfiguration)
    (k : ChangeKind) : (snapshotChange m i k).intent = i := by
  cases k <;> rfl

/-- The batch `observe` hands to `on_change`, if any. -/
def notifiedBatch (u : TransactionalRegistryUpdate) (m : ServicesByIntent) :
    Option (List Change) :=
  if u.kinds.entries.length > 0 then some (u.kinds.entries.map fun e => snapshotChange m e.1 e.2)
  else none

/-- `on_change` is not called exactly when no intent is marked. -/
theorem notifiedBatch_eq_none_iff (u : TransactionalRegistryUpdate) (m : ServicesByIntent) :
    notifiedBatch u m = none ↔ ∀ i, i ∉ u.kinds := by
  simp only [notifiedBatch, AList.mem_keys, AList.keys, List.keys]
  split_ifs with h
  · obtain ⟨e, he⟩ := List.exists_mem_of_length_pos h
    simpa using ⟨e.1, e.2, he⟩
  · simp_all

/-- A batch is the snapshot of every marked intent, one change per intent, and
is never empty. -/
theorem notifiedBatch_eq_some {u : TransactionalRegistryUpdate} {m : ServicesByIntent}
    {batch : List Change} (h : notifiedBatch u m = some batch) :
    batch = u.kinds.entries.map (fun e => snapshotChange m e.1 e.2) ∧
      batch.map Change.intent = u.kinds.keys ∧ batch ≠ [] := by
  unfold notifiedBatch at h
  split_ifs at h with hlen
  cases h
  refine ⟨rfl, by simp [AList.keys, List.keys, Function.comp_def], ?_⟩
  simpa [← List.length_pos] using hlen

/-! ## §2 `observe` -/

/-- On an intent marked `Add` or `Modify` that has an entry, indexing succeeds. -/
theorem changeOf_eq (registry : Registry) (i : IntentConfiguration) (k : ChangeKind)
    (h : k ≠ .remove → i ∈ registry.externalServicesByIntent) :
    changeOf registry i k = .ok (snapshotChange registry.externalServicesByIntent i k) := by
  cases k
  case remove => rfl
  all_goals
    obtain ⟨S, hS⟩ := Option.isSome_iff_exists.mp (AList.lookup_isSome.mpr (h (by simp)))
    simp [changeOf, ServicesByIntent.index, snapshotChange, hS]

/-- With marks that agree with the map, `observe` never panics: every intent
marked `Add` or `Modify` is a key of the map it indexes. -/
theorem observe_eq (u : TransactionalRegistryUpdate) (registry : Registry)
    (h : MarksAgree registry.externalServicesByIntent u) :
    u.observe registry = .ok (notifiedBatch u registry.externalServicesByIntent) := by
  have hmap : ∀ es : List (Σ _ : IntentConfiguration, ChangeKind), es ⊆ u.kinds.entries →
      es.mapM (fun e => changeOf registry e.1 e.2) =
        .ok (es.map fun e => snapshotChange registry.externalServicesByIntent e.1 e.2) := by
    intro es hes
    induction es with
    | nil => rfl
    | cons e es ih =>
      have he : u.kinds.lookup e.1 = some e.2 :=
        AList.mem_lookup_iff.mpr (hes (List.mem_cons_self _ _))
      rw [List.mapM_cons, changeOf_eq registry e.1 e.2 (fun hk => (h _ _ he).mpr hk),
        ih (fun x hx => hes (List.mem_cons_of_mem _ hx))]
      rfl
  unfold TransactionalRegistryUpdate.observe notifiedBatch
  split
  · rw [hmap _ (List.Subset.refl _)]; rfl
  · rfl

/-! ## §3 The two cases of `upsert` -/

/-- A call with a reserved intent returns the error and changes nothing. -/
theorem upsert_of_reserved {r : Registry} {c : ServiceConfiguration}
    {I : List IntentConfiguration} (h : ∃ ic ∈ I, ReservedNamespace ic.namespace) :
    r.upsert c I = .ok ⟨.error systemRegistrationError, r, none⟩ := by
  simp [Registry.upsert, anyM_isSystemIntent, h]

/-- A call with no reserved intent returns `Ok`. It replaces the services of
`c.id` in `known_services` by `c`, sets each intent's entry by `afterServices`,
and notifies the batch of the marks given by `afterKind`. -/
theorem upsert_of_unreserved (r : Registry) (c : ServiceConfiguration)
    (I : List IntentConfiguration) (h : ¬ ∃ ic ∈ I, ReservedNamespace ic.namespace) :
    ∃ m u, r.upsert c I =
        .ok ⟨.ok (), ⟨m, insert c (r.knownServices.filter (·.id ≠ c.id))⟩, notifiedBatch u m⟩ ∧
      MarksAgree m u ∧
      ∀ i, m.lookup i = afterServices c I i (r.externalServicesByIntent.lookup i) ∧
        u.kinds.lookup i = afterKind c I i (r.externalServicesByIntent.lookup i) := by
  obtain ⟨w₁, hw₁, hl₁⟩ := pruneServices_spec c.id r.externalServicesByIntent
  obtain ⟨w, hw, hag, hl⟩ := foldlM_bindIntent c I w₁ (marksAgree_of_prune hl₁)
  refine ⟨w.1, w.2, ?_, hag, fun i => ?_⟩
  · simp [Registry.upsert, anyM_isSystemIntent, h, hw₁, hw,
      observe_eq w.2 ⟨w.1, _⟩ hag]
  · simp [hl, hl₁, afterServices, afterKind, ← AList.lookup_isSome]

/-- A call whose intents are all unreserved returns `Ok`. -/
theorem upsert_ok_of_unreserved (r : Registry) (c : ServiceConfiguration)
    (I : List IntentConfiguration) (h : ¬ ∃ ic ∈ I, ReservedNamespace ic.namespace) :
    ∃ o, r.upsert c I = .ok o ∧ o.result = .ok () :=
  let ⟨_, _, hu, _⟩ := upsert_of_unreserved r c I h
  ⟨_, hu, rfl⟩

/-! ## §4 Panics and errors -/

/-- `upsert` never panics, from any registry state, reachable or not: neither the
fatal arm of `transition`, nor the indexing in `observe`, nor the byte slice of
the guard is reached. -/
theorem upsert_never_panics (r : Registry) (c : ServiceConfiguration)
    (I : List IntentConfiguration) : ∃ o, r.upsert c I = .ok o := by
  by_cases h : ∃ ic ∈ I, ReservedNamespace ic.namespace
  · exact ⟨_, upsert_of_reserved h⟩
  · obtain ⟨m, u, hu, -⟩ := upsert_of_unreserved r c I h
    exact ⟨_, hu⟩

/-- A namespace the guard lets through although it resembles `system`: seven or
more characters with a seventh other than `.`, or a character beyond ASCII among
the first seven. -/
def LookAlike (n : String) : Prop :=
  (7 ≤ n.data.length ∧ n.data[6]? ≠ some '.') ∨ ∃ ch ∈ n.data.take 7, 127 < ch.toNat

instance : DecidablePred LookAlike := fun _ => inferInstanceAs (Decidable (_ ∨ _))

/-- The character-level rule lets every look-alike through: lowering `A`–`Z`
keeps the length, turns nothing but `.` into `.`, and keeps every character
beyond ASCII, while `system.` is seven ASCII characters. -/
theorem not_reservedByChars_of_lookAlike {n : String} (h : LookAlike n) :
    ¬ ReservedByChars n := by
  have hsys : ∀ x ∈ "system".data, x.toNat ≤ 127 := by decide
  have hdot : ∀ x ∈ "system.".data, x.toNat ≤ 127 := by decide
  intro hres
  have htake : List.IsPrefix "system.".data (n.data.map Char.toLower) →
      (n.data.map Char.toLower).take 7 = "system.".data := fun h2 =>
    (List.prefix_iff_eq_take.mp h2).symm
  rcases h with ⟨hlen, h6⟩ | ⟨ch, hch, h⟩
  · rcases hres with h1 | h2
    · have := congrArg List.length h1
      rw [List.length_map] at this
      exact absurd this (by rw [show "system".data.length = 6 from rfl]; omega)
    · have h6' := congrArg (·[6]?) (htake h2)
      simp only [List.getElem?_take, show 6 < 7 by omega, if_true, List.getElem?_map] at h6'
      obtain ⟨c, hc, hdot6⟩ := Option.map_eq_some'.mp h6'
      exact h6 (hc.trans (congrArg some (toLower_eq_dot.mp hdot6)))
  · have hmem := List.mem_map_of_mem Char.toLower hch
    rw [toLower_of_lt h, List.map_take] at hmem
    rcases hres with h1 | h2
    · rw [h1] at hmem
      exact absurd (hsys _ (List.mem_of_mem_take hmem)) (by omega)
    · rw [htake h2] at hmem
      exact absurd (hdot _ hmem) (by omega)

example : LookAlike "systemfoo" ∧ LookAlike "system-x" ∧ LookAlike "ſystem" ∧
    ¬ LookAlike "System.x" := by
  decide

/-- `upsert` returns `Err` exactly when some intent, at any position, has a
namespace that, lower-cased on `A`–`Z` only, is `system` or starts with
`system.`; it then leaves the registry as it was and does not call
`on_change`. Look-alike namespaces are accepted. -/
theorem upsert_err_iff_reserved (r : Registry) (c : ServiceConfiguration)
    (I : List IntentConfiguration) :
    ∃ o, r.upsert c I = .ok o ∧
      ((∃ e, o.result = .error e) ↔ ∃ ic ∈ I, ReservedByChars ic.namespace) ∧
      (∀ e, o.result = .error e → o.registry = r ∧ o.notified = none) ∧
      ((∀ ic ∈ I, LookAlike ic.namespace) → o.result = .ok ()) := by
  simp only [← reservedNamespace_iff_chars]
  by_cases h : ∃ ic ∈ I, ReservedNamespace ic.namespace
  · refine ⟨_, upsert_of_reserved h, by simp [h], by simp, fun hl => absurd h ?_⟩
    exact fun ⟨ic, hic, hres⟩ =>
      not_reservedByChars_of_lookAlike (hl ic hic) ((reservedNamespace_iff_chars _).mp hres)
  · obtain ⟨m, u, hu, -⟩ := upsert_of_unreserved r c I h
    exact ⟨_, hu, by simp [h], by simp, fun _ => rfl⟩

end Chariott
