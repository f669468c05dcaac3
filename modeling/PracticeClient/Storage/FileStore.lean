import PracticeClient.Json.Decoding
import PracticeClient.Storage.Error
import PracticeClient.Storage.System
import PracticeClient.Text.Blank

/-!
# A store in a file

The values are the members of one JSON object. Every look-up reads the file again. A change reads
the file, applies itself and writes the result aside, then moves it into place, so that a reader
never sees half of it; if nothing is left the file is removed. A file that cannot be read counts as
empty and is replaced by the next change.
-/

namespace PracticeClient.FileStore

/-- Where the new content is written first. -/
def asidePath (path : Path) : Path :=
  path.withFileName (path.fileName?.getD "" ++ ".tmp")

def decode (content : Bytes) : Except StoreError (Table String) :=
  match Text.decode? content with
  | none => .error (.file .notText)
  | some text =>
    if text.toList.all Text.isBlank then .ok .empty
    else match Json.decode Json.Tree.texts text with
      | .ok table => .ok table
      | .error fault => .error (.corrupt fault text)

def encode (table : Table String) : Bytes :=
  let members := table.entries.map fun entry => (entry.1, Json.Value.string entry.2)
  Text.utf8 (Json.Value.object members).pretty

def readEntries (path : Path) : System (Except StoreError (Table String)) := do
  if ← System.file (.probe path) then
    match ← System.file (.read path) with
    | .error error => pure (.error (.file error))
    | .ok content => pure (decode content)
  else pure (.ok .empty)

def removeFile (path : Path) : System (Except FileError Unit) := do
  if ← System.file (.probe path) then System.file (.remove path)
  else pure (.ok ())

def createParent (path : Path) : System (Except FileError Unit) :=
  match path.parent? with
  | some parent => System.file (.createDirectories parent)
  | none => pure (.ok ())

def replaceFile (path : Path) (content : Bytes) : System (Except FileError Unit) := do
  match ← createParent path with
  | .error error => pure (.error error)
  | .ok () =>
    match ← System.file (.write (asidePath path) content) with
    | .error error => pure (.error error)
    | .ok () => System.file (.rename (asidePath path) path)

def writeEntries (path : Path) (table : Table String) : System (Except FileError Unit) :=
  if table.isEmpty then removeFile path else replaceFile path (encode table)

def keysDetail (keys : List String) : String × String :=
  ("keys", Text.quoteList keys)

def pathDetail (path : Path) : String × String :=
  ("path", Text.quote path.text)

def readForUpdate (path : Path) : System (Table String) := do
  match ← readEntries path with
  | .ok table => pure table
  | .error error =>
    System.log (.warn "Discarding unreadable storage file"
      [("error", error.message), pathDetail path])
    pure .empty

def update (path : Path) (keys : List String) (change : Table String → Table String) :
    System Unit := do
  let table ← readForUpdate path
  match ← writeEntries path (change table) with
  | .ok () => pure ()
  | .error error =>
    System.log (.warn "Failed to write storage file"
      [("error", (StoreError.file error).message), keysDetail keys, pathDetail path])

/-! ## Calls -/

def get (path : Path) (key : String) : System (Option String) := do
  match ← readEntries path with
  | .ok table => pure (table.get? key)
  | .error error =>
    System.log (.warn "Failed to read storage file" [("error", error.message), pathDetail path])
    pure none

def setMany (path : Path) (entries : List (String × String)) : System Unit := do
  let keys := entries.map Prod.fst
  System.log (.debug "Storing values" [keysDetail keys])
  update path keys fun table => table.insertMany entries

def removeMany (path : Path) (keys : List String) : System Unit := do
  System.log (.debug "Removing values" [keysDetail keys])
  update path keys fun table => table.eraseMany keys

def perform (path : Path) : (call : StoreCall) → System call.Answer
  | .get key => get path key
  | .set key value => setMany path [(key, value)]
  | .remove key => removeMany path [key]
  | .setMany entries => setMany path entries
  | .removeMany keys => removeMany path keys

end PracticeClient.FileStore
