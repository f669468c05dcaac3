import PracticeClient.Storage.FileStore
import PracticeClient.Storage.KeychainStore

namespace PracticeClient

inductive Store where
  | memory (values : Table String)
  | file (path : Path)
  | keychain (store : KeychainStore)
  | plain (values : Table String)
  | batching (values : Table String)
  deriving DecidableEq

namespace Store

def onTable : (call : StoreCall) → Table String → call.Answer × Table String
  | .get key, values => (values.get? key, values)
  | .set key value, values => ((), values.insert key value)
  | .remove key, values => ((), values.erase key)
  | .setMany entries, values => ((), values.insertMany entries)
  | .removeMany keys, values => ((), values.eraseMany keys)

def announced (call : StoreCall) (values : Table String) :
    System (call.Answer × Table String) := do
  System.announce call
  pure (onTable call values)

def setEach : List (String × String) → Table String → System (Table String)
  | [], values => pure values
  | (key, value) :: rest, values => do
    let ((), values) ← announced (.set key value) values
    setEach rest values

def removeEach : List String → Table String → System (Table String)
  | [], values => pure values
  | key :: rest, values => do
    let ((), values) ← announced (.remove key) values
    removeEach rest values

def onPlain : (call : StoreCall) → Table String → System (call.Answer × Table String)
  | .setMany entries, values => do
    let values ← setEach entries values
    pure ((), values)
  | .removeMany keys, values => do
    let values ← removeEach keys values
    pure ((), values)
  | .get key, values => announced (.get key) values
  | .set key value, values => announced (.set key value) values
  | .remove key, values => announced (.remove key) values

def perform (call : StoreCall) : Store → System (call.Answer × Store)
  | memory values =>
    let (answer, values) := onTable call values
    pure (answer, .memory values)
  | file path => do
    let answer ← FileStore.perform path call
    pure (answer, .file path)
  | keychain store => do
    let (answer, store) ← KeychainStore.perform call store
    pure (answer, .keychain store)
  | plain values => do
    let (answer, values) ← onPlain call values
    pure (answer, .plain values)
  | batching values => do
    let (answer, values) ← announced call values
    pure (answer, .batching values)

end Store

end PracticeClient
