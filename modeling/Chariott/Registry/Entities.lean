import Mathlib.Data.Finset.Basic

/-!
# Registry Catalog Entities

The value types of `src/src/registry.rs`: service identities and configurations,
intents, the changes handed to an observer, and the two ways a call of
`Registry::upsert` can end abnormally (the `Error` it returns and the panics it
can raise).

All of them are plain values with structural equality, as the Rust
`#[derive(PartialEq, Eq, Hash)]` gives them. Two configurations with the same
`id` and different `url` are different values that share an identity; pruning
in `upsert` compares the `id` only.
-/

namespace Chariott

/-! ## §1 Services -/

/-- `ServiceId(name, version)`: the identity of a service implementation. -/
structure ServiceId where
  name : String
  version : String
deriving DecidableEq, Repr

/-- `ExecutionLocality`. -/
inductive ExecutionLocality
  | local
  | cloud
deriving DecidableEq, Repr

/-- `ServiceConfiguration { id, url, locality }`. The `Url` is kept as its
serialization, which is what its equality compares. -/
structure ServiceConfiguration where
  id : ServiceId
  url : String
  locality : ExecutionLocality
deriving DecidableEq, Repr

/-! ## §2 Intents -/

/-- `IntentKind`, the closed set of operations a service can fulfil. -/
inductive IntentKind
  | discover
  | inspect
  | read
  | write
  | invoke
  | subscribe
deriving DecidableEq, Repr

/-- `impl fmt::Display for IntentKind`. -/
def IntentKind.fmt : IntentKind → String
  | .discover => "discover"
  | .inspect => "inspect"
  | .read => "read"
  | .write => "write"
  | .invoke => "invoke"
  | .subscribe => "subscribe"

instance : ToString IntentKind := ⟨IntentKind.fmt⟩

/-- `IntentConfiguration { namespace, intent }`. -/
structure IntentConfiguration where
  «namespace» : String
  intent : IntentKind
deriving DecidableEq, Repr

/-! ## §3 Changes -/

/-- `Change`: one entry of the batch passed to `Observer::on_change`. The Rust
variants borrow the intent and its service set from the registry; here they
carry the values read at the time of the call. -/
inductive Change
  | add (intent : IntentConfiguration) (services : Finset ServiceConfiguration)
  | modify (intent : IntentConfiguration) (services : Finset ServiceConfiguration)
  | remove (intent : IntentConfiguration)
deriving DecidableEq

/-- The intent a change is about. -/
def Change.intent : Change → IntentConfiguration
  | .add i _ => i
  | .modify i _ => i
  | .remove i => i

/-- `ChangeKind`, the net transition `upsert` records per intent. -/
inductive ChangeKind
  | add
  | remove
  | modify
deriving DecidableEq, Repr

/-- `#[derive(Debug)]` of `ChangeKind`. -/
def ChangeKind.debug : ChangeKind → String
  | .add => "Add"
  | .remove => "Remove"
  | .modify => "Modify"

/-- `#[derive(Debug)]` of `Option<&ChangeKind>`. -/
def ChangeKind.debugOption : Option ChangeKind → String
  | none => "None"
  | some k => "Some(" ++ k.debug ++ ")"

/-! ## §4 Abnormal ends -/

/-- `chariott_common::error::Error`, of which `upsert` only sets the message. -/
structure Error where
  message : String
deriving DecidableEq, Repr

/-- The panics that `upsert` can reach: the fatal arm of
`TransactionalRegistryUpdate::transition`, indexing
`external_services_by_intent` with a missing key in `observe`, and the byte
slice of `starts_with_ignore_ascii_case`. -/
inductive Panic
  | transition (fromKind : Option ChangeKind) (toKind : ChangeKind)
  | missingKey (intent : IntentConfiguration)
  | sliceIndexOrder (start stop : Nat)
  | sliceEndIndex (stop length : Nat)
deriving DecidableEq, Repr

/-- The panic message, as `panic!`, `HashMap`'s `Index` and slice indexing
format it. -/
def Panic.message : Panic → String
  | .transition f t =>
      "Bug: Transition from " ++ ChangeKind.debugOption f ++ " to " ++ t.debug ++
        " must not be possible."
  | .missingKey _ => "no entry found for key"
  | .sliceIndexOrder s e =>
      "slice index starts at " ++ toString s ++ " but ends at " ++ toString e
  | .sliceEndIndex e n =>
      "range end index " ++ toString e ++ " out of range for slice of length " ++ toString n

/-! ## §5 Running in `Except Panic`

`upsert` is modelled in `Except Panic`: `.error` is a panic. These equations
let `simp` step through a computation that has not panicked so far. -/

@[simp] theorem pure_eq_ok {ε α : Type} (a : α) : (pure a : Except ε α) = .ok a := rfl

@[simp] theorem ok_bind {ε α β : Type} (a : α) (f : α → Except ε β) :
    (Except.ok a >>= f) = f a := rfl

@[simp] theorem error_bind {ε α β : Type} (e : ε) (f : α → Except ε β) :
    (Except.error e >>= f) = Except.error e := rfl

end Chariott
