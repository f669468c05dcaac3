import PracticeClient.Storage.Error
import PracticeClient.Storage.System

/-!
# A store in the keychain

Each value is a secret of its own under one service. The handle of a key is built at its first use
and kept. If one of several values cannot be stored, all of them are removed again.
-/

namespace PracticeClient

structure KeychainStore where
  service : String
  handles : List String
  deriving DecidableEq, Repr

namespace KeychainStore

def open? (store : KeychainStore) (key : String) :
    System (Except KeychainError KeychainStore) := do
  if key ∈ store.handles then pure (.ok store)
  else
    match ← System.keychain (.build store.service key) with
    | .ok () => pure (.ok { store with handles := key :: store.handles })
    | .error error => pure (.error error)

def keychainWarning (message : String) (error : KeychainError) (key : String) : LogEntry :=
  .warn message [("error", (StoreError.keychain error).message), ("key", key)]

def get (store : KeychainStore) (key : String) : System (Option String × KeychainStore) := do
  let failed (error : KeychainError) (store : KeychainStore) :
      System (Option String × KeychainStore) := do
    System.log (keychainWarning "Failed to read from keychain" error key)
    pure (none, store)
  match ← store.open? key with
  | .error error => failed error store
  | .ok store =>
    match ← System.keychain (.get store.service key) with
    | .ok value => pure (some value, store)
    | .error .noEntry => pure (none, store)
    | .error error => failed error store

def trySet (store : KeychainStore) (key value : String) :
    System (Except KeychainError Unit × KeychainStore) := do
  match ← store.open? key with
  | .error error => pure (.error error, store)
  | .ok store =>
    let result ← System.keychain (.set store.service key value)
    pure (result, store)

def set (store : KeychainStore) (key value : String) : System KeychainStore := do
  match ← store.trySet key value with
  | (.ok (), store) => pure store
  | (.error error, store) =>
    System.log (keychainWarning "Failed to store value in keychain" error key)
    pure store

def remove (store : KeychainStore) (key : String) : System KeychainStore := do
  let failed (error : KeychainError) (store : KeychainStore) : System KeychainStore := do
    System.log (keychainWarning "Failed to delete keychain entry" error key)
    pure store
  match ← store.open? key with
  | .error error => failed error store
  | .ok store =>
    match ← System.keychain (.delete store.service key) with
    | .ok () => pure store
    | .error .noEntry => pure store
    | .error error => failed error store

def removeMany : List String → KeychainStore → System KeychainStore
  | [], store => pure store
  | key :: rest, store => do
    let store ← store.remove key
    removeMany rest store

/-- Stores values one by one, after those of the keys that are already written. -/
def setAfter (written : List String) : List (String × String) → KeychainStore →
    System KeychainStore
  | [], store => pure store
  | (key, value) :: rest, store => do
    match ← store.trySet key value with
    | (.ok (), store) => setAfter (written ++ [key]) rest store
    | (.error error, store) =>
      System.log
        (keychainWarning "Failed to store value in keychain, removing the batch" error key)
      removeMany (written ++ [key]) store

def setMany (entries : List (String × String)) (store : KeychainStore) : System KeychainStore :=
  setAfter [] entries store

def perform : (call : StoreCall) → KeychainStore → System (call.Answer × KeychainStore)
  | .get key, store => store.get key
  | .set key value, store => do
    let store ← store.set key value
    pure ((), store)
  | .remove key, store => do
    let store ← store.remove key
    pure ((), store)
  | .setMany entries, store => do
    let store ← setMany entries store
    pure ((), store)
  | .removeMany keys, store => do
    let store ← removeMany keys store
    pure ((), store)

end KeychainStore

end PracticeClient
