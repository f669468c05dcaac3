import PracticeClient.Program
import PracticeClient.Text.Utf8

/-!
# Keychains

A keychain keeps secrets as bytes, each under the name of a service and a key. A program first
builds a handle for a key and then sets, gets or deletes through it. Any of the four can be made to
fail for a key, for a while or for good.
-/

namespace PracticeClient

inductive KeychainError where
  | noEntry
  | badEncoding
  | tooLong
  | invalid
  | ambiguous
  | noAccess
  | platform
  deriving DecidableEq, Repr

def KeychainError.message : KeychainError → String
  | noEntry => "No matching entry found in secure storage"
  | badEncoding => "Data is not UTF-8 encoded"
  | tooLong => "Attribute 'password' is longer than platform limit of 5 chars"
  | invalid => "Attribute user is invalid: cannot be empty"
  | ambiguous => "Entry is matched by 0 credentials: []"
  | noAccess => "Couldn't access platform secure storage: locked"
  | platform => "Platform secure storage failure: boom"

inductive KeychainAction where
  | build
  | set
  | get
  | delete
  deriving DecidableEq, Repr

inductive KeychainOp where
  | build (service key : String)
  | set (service key value : String)
  | get (service key : String)
  | delete (service key : String)
  deriving DecidableEq, Repr

namespace KeychainOp

abbrev Answer : KeychainOp → Type
  | build _ _ => Except KeychainError Unit
  | set _ _ _ => Except KeychainError Unit
  | get _ _ => Except KeychainError String
  | delete _ _ => Except KeychainError Unit

def action : KeychainOp → KeychainAction
  | build _ _ => .build
  | set _ _ _ => .set
  | get _ _ => .get
  | delete _ _ => .delete

def service : KeychainOp → String
  | build service _ | set service _ _ | get service _ | delete service _ => service

def key : KeychainOp → String
  | build _ key | set _ key _ | get _ key | delete _ key => key

def fail (error : KeychainError) : (op : KeychainOp) → op.Answer
  | build _ _ => .error error
  | set _ _ _ => .error error
  | get _ _ => .error error
  | delete _ _ => .error error

end KeychainOp

structure KeychainFault where
  action : KeychainAction
  key : String
  error : KeychainError
  left : Option Nat
  deriving DecidableEq, Repr

structure Keychain where
  entries : List ((String × String) × Bytes)
  faults : List KeychainFault
  deriving Repr

namespace Keychain

def empty : Keychain := ⟨[], []⟩

def get? (keychain : Keychain) (service key : String) : Option Bytes :=
  keychain.entries.lookup (service, key)

def erase (keychain : Keychain) (service key : String) : Keychain :=
  { keychain with entries := keychain.entries.filter (·.1 != (service, key)) }

def put (keychain : Keychain) (service key : String) (secret : Bytes) : Keychain :=
  { keychain.erase service key with
    entries := ((service, key), secret) :: (keychain.erase service key).entries }

/-! ## Faults -/

def withoutFault (keychain : Keychain) (action : KeychainAction) (key : String) : Keychain :=
  { keychain with faults := keychain.faults.filter fun f => !(f.action == action && f.key == key) }

def withFault (keychain : Keychain) (fault : KeychainFault) : Keychain :=
  let cleared := keychain.withoutFault fault.action fault.key
  { cleared with faults := fault :: cleared.faults }

def isDue (op : KeychainOp) (fault : KeychainFault) : Bool :=
  fault.action == op.action && fault.key == op.key && fault.left != some 0

def meetFault (keychain : Keychain) (op : KeychainOp) : Option KeychainError × Keychain :=
  match keychain.faults.find? (isDue op) with
  | none => (none, keychain)
  | some fault =>
    let faults := keychain.faults.map fun f =>
      if isDue op f then { f with left := f.left.map (· - 1) } else f
    (some fault.error, { keychain with faults })

/-! ## Operations -/

def perform : (op : KeychainOp) → Keychain → op.Answer × Keychain
  | .build _ _, keychain => (.ok (), keychain)
  | .set service key value, keychain => (.ok (), keychain.put service key (Text.utf8 value))
  | .get service key, keychain =>
    match keychain.get? service key with
    | none => (.error .noEntry, keychain)
    | some secret =>
      match Text.decode? secret with
      | some value => (.ok value, keychain)
      | none => (.error .badEncoding, keychain)
  | .delete service key, keychain =>
    match keychain.get? service key with
    | none => (.error .noEntry, keychain)
    | some _ => (.ok (), keychain.erase service key)

def handle : Program.Handler KeychainOp KeychainOp.Answer Keychain := fun op keychain =>
  match keychain.meetFault op with
  | (some error, keychain) => (op.fail error, keychain)
  | (none, keychain) => perform op keychain

end Keychain

end PracticeClient
