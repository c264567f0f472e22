import Chariott.Registry.Prune

/-!
# Rebinding: the `for` Loop over the Intents

After pruning, `upsert` walks the requested intents in order. Each one records
`Modify` if the intent has an entry and `Add` otherwise, then inserts the
service into the intent's set.

The transition table of `TransactionalRegistryUpdate::transition` has a fatal
arm. It is never reached because the marks always agree with the map
(`MarksAgree`): an intent marked `Remove` has no entry, one marked `Add` or
`Modify` has one. Pruning establishes the agreement and every pass of the loop
keeps it, so the loop never panics, and a repeated intent leaves the mark of
its first occurrence (`foldlM_bindIntent`).
-/

namespace Chariott

/-! ## §1 Marks agree with the map -/

/-- An intent marked `Remove` has no entry; one marked `Add` or `Modify` has one. -/
def MarksAgree (m : ServicesByIntent) (u : TransactionalRegistryUpdate) : Prop :=
  ∀ i k, u.kinds.lookup i = some k → (i ∈ m ↔ k ≠ .remove)

/-- The kind recorded for an intent by its first binding, from its mark and
whether it has an entry. -/
def firstBindKind : Option ChangeKind → Bool → ChangeKind
  | some .add, _ => .add
  | none, false => .add
  | _, _ => .modify

/-- When the mark agrees with the entry, the transition of a binding is one of
`(None, _)`, `(Remove, Add)`, `(Modify, Modify)`, `(Add, Modify)`, and merges to
`firstBindKind`. -/
theorem mergeKind_bind (mark : Option ChangeKind) (present : Bool)
    (h : ∀ k, mark = some k → (present = true ↔ k ≠ .remove)) :
    mergeKind mark (if present then .modify else .add) = some (firstBindKind mark present) := by
  rcases mark with _ | k
  · cases present <;> rfl
  · have hk := h k rfl
    cases present <;> cases k <;> simp_all [mergeKind, firstBindKind]

/-- A first binding never records `Remove`. -/
theorem firstBindKind_ne_remove (mark : Option ChangeKind) (present : Bool) :
    firstBindKind mark present ≠ .remove := by
  rcases mark with _ | (_ | _ | _) <;> cases present <;> simp [firstBindKind]

/-- Binding again an intent that was just bound keeps its mark. -/
theorem firstBindKind_rebind (mark : Option ChangeKind) (present : Bool) :
    firstBindKind (some (firstBindKind mark present)) true = firstBindKind mark present := by
  rcases mark with _ | (_ | _ | _) <;> cases present <;> rfl

/-- Pruning leaves marks that agree with the pruned map. -/
theorem marksAgree_of_prune {id : ServiceId} {m : ServicesByIntent} {w : Work}
    (hw : ∀ i, w.1.lookup i = (m.lookup i).bind (keptServices id) ∧
      w.2.kinds.lookup i = (m.lookup i).bind (pruneKind id)) :
    MarksAgree w.1 w.2 := by
  intro i k hk
  rw [← AList.lookup_isSome, (hw i).1]
  obtain ⟨S, hS, hp⟩ := Option.bind_eq_some.mp ((hw i).2 ▸ hk)
  rcases pruneKind_eq_some hp with ⟨rfl, hkept⟩ | ⟨rfl, hkept⟩ <;> simp [hS, hkept]

/-! ## §2 One pass and the whole loop -/

/-- One pass of the loop, from agreeing marks: it never panics, binds the
service to the intent, records `firstBindKind`, and keeps the agreement. -/
theorem bindIntent_spec (c : ServiceConfiguration) (acc : Work) (i : IntentConfiguration)
    (h : MarksAgree acc.1 acc.2) :
    ∃ w, bindIntent c acc i = .ok w ∧ MarksAgree w.1 w.2 ∧ ∀ j,
      w.1.lookup j = (if j = i then some (insert c ((acc.1.lookup i).getD ∅))
        else acc.1.lookup j) ∧
      w.2.kinds.lookup j = (if j = i then some (firstBindKind (acc.2.kinds.lookup i) (i ∈ acc.1))
        else acc.2.kinds.lookup j) := by
  have hmerge := mergeKind_bind (acc.2.kinds.lookup i) (decide (i ∈ acc.1))
    (fun k hk => by simpa using h i k hk)
  simp only [decide_eq_true_eq] at hmerge
  have hb : bindIntent c acc i = .ok (acc.1.insert i (insert c ((acc.1.lookup i).getD ∅)),
      ⟨acc.2.kinds.insert i (firstBindKind (acc.2.kinds.lookup i) (i ∈ acc.1))⟩) := by
    simp [bindIntent, TransactionalRegistryUpdate.transition_eq_ok hmerge]
  refine ⟨_, hb, ?_, ?_⟩
  · intro j k hk
    by_cases hj : j = i
    · subst hj
      simp only [AList.lookup_insert, Option.some.injEq] at hk
      simp [← hk, firstBindKind_ne_remove]
    · simp only [AList.lookup_insert_ne hj] at hk
      simpa [hj] using h j k hk
  · intro j
    by_cases hj : j = i
    · subst hj; simp
    · simp [hj]

/-- The loop from agreeing marks never panics and keeps the agreement. An intent
of the list gets the service added to its set and the mark of its first
binding; every other intent is left as it was. -/
theorem foldlM_bindIntent (c : ServiceConfiguration) :
    ∀ (I : List IntentConfiguration) (acc : Work), MarksAgree acc.1 acc.2 →
      ∃ w, I.foldlM (bindIntent c) acc = .ok w ∧ MarksAgree w.1 w.2 ∧ ∀ j,
        w.1.lookup j = (if j ∈ I then some (insert c ((acc.1.lookup j).getD ∅))
          else acc.1.lookup j) ∧
        w.2.kinds.lookup j = (if j ∈ I then some (firstBindKind (acc.2.kinds.lookup j) (j ∈ acc.1))
          else acc.2.kinds.lookup j)
  | [], acc, h => ⟨acc, rfl, h, fun j => by simp⟩
  | i :: I, acc, h => by
    obtain ⟨w₁, hw₁, hag₁, hl₁⟩ := bindIntent_spec c acc i h
    obtain ⟨w, hw, hag, hl⟩ := foldlM_bindIntent c I w₁ hag₁
    refine ⟨w, by simp [hw₁, hw], hag, fun j => ?_⟩
    by_cases hj : j = i
    · subst hj
      have hmem : j ∈ w₁.1 := by rw [← AList.lookup_isSome, (hl₁ j).1]; simp
      by_cases hI : j ∈ I
      · simp [hl, hl₁, hI, hmem, firstBindKind_rebind]
      · simp [hl, hl₁, hI]
    · have hmem : j ∈ w₁.1 ↔ j ∈ acc.1 := by
        rw [← AList.lookup_isSome, ← AList.lookup_isSome, (hl₁ j).1, if_neg hj]
      simp [hl, hl₁, hj, hmem]

end Chariott
