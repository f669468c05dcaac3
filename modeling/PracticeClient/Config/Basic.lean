import PracticeClient.Json.Decoding

namespace PracticeClient

inductive StorageKind where
  | file
  | keyring
  | memory
  deriving DecidableEq, Repr

namespace StorageKind

def name : StorageKind → String
  | file => "file"
  | keyring => "keyring"
  | memory => "memory"

def describe : StorageKind → String
  | file => "File"
  | keyring => "Keyring"
  | memory => "Memory"

def names : List (String × StorageKind) :=
  [(file.name, file), (keyring.name, keyring), (memory.name, memory)]

end StorageKind

structure Config where
  baseUrl : String
  timeoutSeconds : UInt64
  storage : StorageKind
  lastUsername : Option String
  deriving DecidableEq, Repr

namespace Config

def standard : Config :=
  { baseUrl := "http://localhost:8891/"
    timeoutSeconds := 30
    storage := .file
    lastUsername := none }

instance : Inhabited Config := ⟨standard⟩

def timeoutMilliseconds (config : Config) : Nat :=
  config.timeoutSeconds.toNat * 1000

/-! ## Reading -/

structure Draft where
  baseUrl : Option String
  timeoutSeconds : Option UInt64
  storage : Option StorageKind
  lastUsername : Option (Option String)

def Draft.blank : Draft := ⟨none, none, none, none⟩

def Draft.settle (draft : Draft) : Config :=
  { baseUrl := draft.baseUrl.getD standard.baseUrl
    timeoutSeconds := draft.timeoutSeconds.getD standard.timeoutSeconds
    storage := draft.storage.getD standard.storage
    lastUsername := draft.lastUsername.getD standard.lastUsername }

def baseUrlField : Json.Field Draft where
  name := "base_url"
  required := false
  isSet draft := draft.baseUrl.isSome
  read tree draft := do
    let url ← tree.fit Json.Shape.text
    pure { draft with baseUrl := some url }

def timeoutField : Json.Field Draft where
  name := "request_timeout_secs"
  required := false
  isSet draft := draft.timeoutSeconds.isSome
  read tree draft := do
    let seconds ← tree.fit Json.Shape.word
    pure { draft with timeoutSeconds := some seconds }

def storageField : Json.Field Draft where
  name := "storage"
  required := false
  isSet draft := draft.storage.isSome
  read tree draft := do
    let kind ← tree.choice StorageKind.names
    pure { draft with storage := some kind }

def lastUsernameField : Json.Field Draft where
  name := "last_username"
  required := false
  isSet draft := draft.lastUsername.isSome
  read tree draft := do
    let username ← tree.fit Json.Shape.text?
    pure { draft with lastUsername := some username }

def format : Json.RecordFormat Draft where
  name := "struct Config"
  blank := .blank
  fields := [baseUrlField, timeoutField, storageField, lastUsernameField]

def ofTree (tree : Json.Tree) : Except Json.Fault Config :=
  (format.read tree).map Draft.settle

def ofText (text : String) : Except Json.Fault Config :=
  Json.decode ofTree text

/-! ## Writing -/

def members (config : Config) : List (String × Json.Value) :=
  [ (baseUrlField.name, .string config.baseUrl),
    (timeoutField.name, .number (.integer config.timeoutSeconds.toNat)),
    (storageField.name, .string config.storage.name),
    (lastUsernameField.name, Json.valueOf config.lastUsername) ]

def toValue (config : Config) : Json.Value :=
  .object config.members

def text (config : Config) : String :=
  config.toValue.pretty

end Config

end PracticeClient
