import Chariott.Registry.Namespace
import Mathlib.Data.List.AList
import Mathlib.Data.Finset.Card

/-!
# The Registry and `upsert`

The state of `Registry<T>` and its one mutating operation, `Registry::upsert`,
together with the transaction-scoped change tracking it declares inside its
body (`ChangeKind`, `TransactionalRegistryUpdate`).

A Rust `HashMap` is modelled by an `AList`: an association list whose keys are
distinct by construction. Its list order stands for the map's iteration order,
which Rust leaves unspecified; nothing proved about `upsert` depends on it. A
`HashSet` of services is a `Finset`.

`upsert` runs in `Except Panic`: `.error` is a panic, and the `Result` the Rust
function returns is a field of the outcome. The observer is not part of the
state; the outcome records the batch `upsert` hands to `Observer::on_change`,
if it calls it.
-/

namespace Chariott

/-! ## §1 Registry state -/

/-- `HashMap<IntentConfiguration, HashSet<ServiceConfiguration>>`. -/
abbrev ServicesByIntent := AList (fun _ : IntentConfiguration => Finset ServiceConfiguration)

/-- `Registry<T>`, without its observer. -/
structure Registry where
  externalServicesByIntent : ServicesByIntent
  knownServices : Finset ServiceConfiguration

/-- `Registry::new`. -/
def Registry.new : Registry := ⟨∅, ∅⟩

/-- `Registry::has_service`: membership in `known_services`. -/
def Registry.hasService (r : Registry) (key : ServiceConfiguration) : Bool :=
  decide (key ∈ r.knownServices)

/-- `registry.external_services_by_intent[intent]`: `Index` panics on a missing key. -/
def ServicesByIntent.index (m : ServicesByIntent) (intent : IntentConfiguration) :
    Except Panic (Finset ServiceConfiguration) :=
  match m.lookup intent with
  | some services => .ok services
  | none => .error (.missingKey intent)

/-! ## §2 Change tracking -/

/-- `TransactionalRegistryUpdate(HashMap<IntentConfiguration, ChangeKind>)`. -/
structure TransactionalRegistryUpdate where
  kinds : AList (fun _ : IntentConfiguration => ChangeKind)

/-- `TransactionalRegistryUpdate::new`. -/
def TransactionalRegistryUpdate.new : TransactionalRegistryUpdate := ⟨∅⟩

/-- The `match (from, to)` of `transition`; `none` is its fatal arm. -/
def mergeKind : Option ChangeKind → ChangeKind → Option ChangeKind
  | none, toKind => some toKind
  | some .remove, .add => some .modify
  | some .modify, .modify => some .modify
  | some .add, .modify => some .add
  | some _, _ => none

/-- `TransactionalRegistryUpdate::transition`. -/
def TransactionalRegistryUpdate.transition (u : TransactionalRegistryUpdate)
    (intent : IntentConfiguration) (toKind : ChangeKind) :
    Except Panic TransactionalRegistryUpdate :=
  match mergeKind (u.kinds.lookup intent) toKind with
  | some value => .ok ⟨u.kinds.insert intent value⟩
  | none => .error (.transition (u.kinds.lookup intent) toKind)

/-- A transition whose merge is defined records the merged kind. -/
theorem TransactionalRegistryUpdate.transition_eq_ok {u : TransactionalRegistryUpdate}
    {intent : IntentConfiguration} {toKind value : ChangeKind}
    (h : mergeKind (u.kinds.lookup intent) toKind = some value) :
    u.transition intent toKind = .ok ⟨u.kinds.insert intent value⟩ := by
  simp [transition, h]

/-- The closure `observe` maps over the recorded kinds. -/
def changeOf (registry : Registry) (intent : IntentConfiguration) :
    ChangeKind → Except Panic Change
  | .add => return .add intent (← registry.externalServicesByIntent.index intent)
  | .modify => return .modify intent (← registry.externalServicesByIntent.index intent)
  | .remove => pure (.remove intent)

/-- `TransactionalRegistryUpdate::observe`: the batch passed to `on_change`, or
`none` when the batch is empty and `on_change` is not called. The Rust iterator
is lazy; evaluating it here in full panics whenever any traversal could. -/
def TransactionalRegistryUpdate.observe (u : TransactionalRegistryUpdate) (registry : Registry) :
    Except Panic (Option (List Change)) :=
  if u.kinds.entries.length > 0 then
    some <$> u.kinds.entries.mapM fun e => changeOf registry e.1 e.2
  else pure none

/-! ## §3 `upsert` -/

/-- The error `upsert` returns for a protected namespace. -/
def systemRegistrationError : Error :=
  ⟨"It is not possible to overwrite an existing system registration"⟩

/-- What a call of `upsert` that does not panic leaves behind: the `Result` it
returns, the registry after the call, and the batch passed to `on_change`. -/
structure UpsertOutcome where
  result : Except Error Unit
  registry : Registry
  notified : Option (List Change)

/-- The working state of `upsert`: the intent map and the changes tracked so far. -/
abbrev Work := ServicesByIntent × TransactionalRegistryUpdate

/-- The closure passed to `external_services_by_intent.retain`, on one entry;
`retain` is modelled as rebuilding the map from the entries it keeps. -/
def retainIntent (id : ServiceId) (acc : Work)
    (entry : Σ _ : IntentConfiguration, Finset ServiceConfiguration) : Except Panic Work := do
  let services := entry.2.filter (·.id ≠ id)
  let changes ←
    if entry.2.card ≠ services.card then
      acc.2.transition entry.1 (if services.card = 0 then .remove else .modify)
    else pure acc.2
  pure (if services.card = 0 then acc.1 else acc.1.insert entry.1 services, changes)

/-- `external_services_by_intent.retain(..)`: prunes the bindings of the
service id, over the entries in iteration order. -/
def pruneServices (id : ServiceId) (m : ServicesByIntent) (changes : TransactionalRegistryUpdate) :
    Except Panic Work :=
  m.entries.foldlM (retainIntent id) (∅, changes)

/-- One pass of the `for` loop over `intent_configurations`. -/
def bindIntent (service : ServiceConfiguration) (acc : Work) (intent : IntentConfiguration) :
    Except Panic Work := do
  let changes ← acc.2.transition intent (if intent ∈ acc.1 then .modify else .add)
  pure (acc.1.insert intent (insert service ((acc.1.lookup intent).getD ∅)), changes)

/-- `Registry::upsert`. -/
def Registry.upsert (registry : Registry) (serviceConfiguration : ServiceConfiguration)
    (intentConfigurations : List IntentConfiguration) : Except Panic UpsertOutcome := do
  if ← intentConfigurations.anyM isSystemIntent then
    pure ⟨.error systemRegistrationError, registry, none⟩
  else
    let pruned ← pruneServices serviceConfiguration.id registry.externalServicesByIntent
      TransactionalRegistryUpdate.new
    let known := registry.knownServices.filter (·.id ≠ serviceConfiguration.id)
    let bound ← intentConfigurations.foldlM (bindIntent serviceConfiguration) pruned
    let registry' : Registry := ⟨bound.1, insert serviceConfiguration known⟩
    let notified ← bound.2.observe registry'
    pure ⟨.ok (), registry', notified⟩

end Chariott
