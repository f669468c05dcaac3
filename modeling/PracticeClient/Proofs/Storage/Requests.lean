import PracticeClient.Proofs.Runs
import PracticeClient.Storage.Store

namespace PracticeClient

/-! ## Stores on files -/

namespace FileStore

def Concerns (path : Path) : FileOp → Prop
  | .probe probed => probed = path
  | .read found => found = path
  | .write written _ => written = asidePath path
  | .createDirectories made => path.parent? = some made
  | .rename source destination => source = asidePath path ∧ destination = path
  | .remove removed => removed = path
  | .touch _ => False

instance (path : Path) : (op : FileOp) → Decidable (Concerns path op)
  | .probe probed => inferInstanceAs (Decidable (probed = path))
  | .read found => inferInstanceAs (Decidable (found = path))
  | .write written _ => inferInstanceAs (Decidable (written = asidePath path))
  | .createDirectories made => inferInstanceAs (Decidable (path.parent? = some made))
  | .rename source destination =>
    inferInstanceAs (Decidable (source = asidePath path ∧ destination = path))
  | .remove removed => inferInstanceAs (Decidable (removed = path))
  | .touch _ => inferInstanceAs (Decidable False)

def messages : List String :=
  ["Discarding unreadable storage file", "Failed to write storage file",
    "Failed to read storage file", "Storing values", "Removing values"]

inductive Asks (path : Path) : SystemOp → Prop
  | file {op : FileOp} (concerns : Concerns path op) : Asks path (.file op)
  | log {entry : LogEntry} (known : entry.message ∈ messages) : Asks path (.log entry)

section

variable {path : Path}

theorem asks_log {level : Level} {message : String} {details : List (String × String)}
    (known : message ∈ messages) : Asks path (.log ⟨level, message, details⟩) :=
  .log known

theorem asks_readEntries : (readEntries path).Uses (Asks path) := by
  refine ⟨.file rfl, ?_⟩
  intro there
  cases there with
  | false => trivial
  | true =>
    refine ⟨.file rfl, ?_⟩
    intro answer
    cases answer <;> trivial

theorem asks_readForUpdate : (readForUpdate path).Uses (Asks path) := by
  apply Program.uses_bind asks_readEntries
  intro result
  cases result with
  | ok table => trivial
  | error error => exact ⟨asks_log (by decide), fun _ => trivial⟩

theorem asks_get (key : String) : (get path key).Uses (Asks path) := by
  apply Program.uses_bind asks_readEntries
  intro result
  cases result with
  | ok table => trivial
  | error error => exact ⟨asks_log (by decide), fun _ => trivial⟩

theorem asks_removeFile : (removeFile path).Uses (Asks path) := by
  refine ⟨.file rfl, ?_⟩
  intro there
  cases there with
  | false => trivial
  | true => exact ⟨.file rfl, fun _ => trivial⟩

theorem asks_replaceFile (content : Bytes) : (replaceFile path content).Uses (Asks path) := by
  have made : (createParent path).Uses (Asks path) := by
    unfold createParent
    cases above : path.parent? with
    | none => trivial
    | some parent => exact ⟨.file above, fun _ => trivial⟩
  apply Program.uses_bind made
  intro made
  cases made with
  | error error => trivial
  | ok _ =>
    refine ⟨.file rfl, ?_⟩
    intro written
    cases written with
    | error error => trivial
    | ok _ => exact ⟨.file ⟨rfl, rfl⟩, fun _ => trivial⟩

theorem asks_update (keys : List String) (change : Table String → Table String) :
    (update path keys change).Uses (Asks path) := by
  apply Program.uses_bind asks_readForUpdate
  intro table
  have written : (writeEntries path (change table)).Uses (Asks path) := by
    unfold writeEntries
    split
    · exact asks_removeFile
    · exact asks_replaceFile _
  apply Program.uses_bind written
  intro result
  cases result with
  | ok _ => trivial
  | error error => exact ⟨asks_log (by decide), fun _ => trivial⟩

theorem asks_perform (call : StoreCall) : (perform path call).Uses (Asks path) := by
  cases call with
  | get key => exact asks_get key
  | set key value => exact ⟨asks_log (by decide), fun _ => asks_update _ _⟩
  | remove key => exact ⟨asks_log (by decide), fun _ => asks_update _ _⟩
  | setMany entries => exact ⟨asks_log (by decide), fun _ => asks_update _ _⟩
  | removeMany keys => exact ⟨asks_log (by decide), fun _ => asks_update _ _⟩

end

end FileStore

/-! ## Stores in the keychain -/

namespace KeychainStore

def messages : List String :=
  ["Failed to read from keychain", "Failed to store value in keychain",
    "Failed to delete keychain entry", "Failed to store value in keychain, removing the batch"]

inductive Asks (actions : List KeychainAction) : SystemOp → Prop
  | keychain {op : KeychainOp} (wanted : op.action ∈ actions) : Asks actions (.keychain op)
  | log {entry : LogEntry} (known : entry.message ∈ messages) : Asks actions (.log entry)

section

variable {actions : List KeychainAction} (builds : .build ∈ actions)

theorem asks_warning {message : String} {error : KeychainError} {key : String}
    (known : message ∈ messages) : Asks actions (.log (keychainWarning message error key)) :=
  .log known

include builds

theorem asks_open? (store : KeychainStore) (key : String) :
    (store.open? key).Uses (Asks actions) := by
  unfold open?
  split
  · trivial
  · refine ⟨.keychain builds, ?_⟩
    intro built
    cases built <;> trivial

theorem asks_get (gets : .get ∈ actions) (store : KeychainStore) (key : String) :
    (store.get key).Uses (Asks actions) := by
  apply Program.uses_bind (asks_open? builds store key)
  intro opened
  cases opened with
  | error error => exact ⟨asks_warning (by decide), fun _ => trivial⟩
  | ok store =>
    refine ⟨.keychain gets, ?_⟩
    intro answer
    cases answer with
    | ok value => trivial
    | error error =>
      cases error <;> first | trivial | exact ⟨asks_warning (by decide), fun _ => trivial⟩

theorem asks_remove (deletes : .delete ∈ actions) (store : KeychainStore) (key : String) :
    (store.remove key).Uses (Asks actions) := by
  apply Program.uses_bind (asks_open? builds store key)
  intro opened
  cases opened with
  | error error => exact ⟨asks_warning (by decide), fun _ => trivial⟩
  | ok store =>
    refine ⟨.keychain deletes, ?_⟩
    intro answer
    cases answer with
    | ok done => trivial
    | error error =>
      cases error <;> first | trivial | exact ⟨asks_warning (by decide), fun _ => trivial⟩

theorem asks_removeMany (deletes : .delete ∈ actions) (keys : List String)
    (store : KeychainStore) : (removeMany keys store).Uses (Asks actions) := by
  induction keys generalizing store with
  | nil => trivial
  | cons key rest ih =>
    exact Program.uses_bind (asks_remove builds deletes store key) fun store => ih store

theorem asks_trySet (sets : .set ∈ actions) (store : KeychainStore) (key value : String) :
    (store.trySet key value).Uses (Asks actions) := by
  apply Program.uses_bind (asks_open? builds store key)
  intro opened
  cases opened with
  | error error => trivial
  | ok store => exact ⟨.keychain sets, fun _ => trivial⟩

theorem asks_set (sets : .set ∈ actions) (store : KeychainStore) (key value : String) :
    (store.set key value).Uses (Asks actions) := by
  apply Program.uses_bind (asks_trySet builds sets store key value)
  intro tried
  obtain ⟨result, store⟩ := tried
  cases result with
  | ok done => trivial
  | error error => exact ⟨asks_warning (by decide), fun _ => trivial⟩

theorem asks_setAfter (sets : .set ∈ actions) (deletes : .delete ∈ actions)
    (written : List String) (entries : List (String × String)) (store : KeychainStore) :
    (setAfter written entries store).Uses (Asks actions) := by
  induction entries generalizing written store with
  | nil => trivial
  | cons entry rest ih =>
    apply Program.uses_bind (asks_trySet builds sets store entry.1 entry.2)
    intro tried
    obtain ⟨result, store⟩ := tried
    cases result with
    | ok done => exact ih _ store
    | error error =>
      exact ⟨asks_warning (by decide), fun _ => asks_removeMany builds deletes _ store⟩

end

theorem asks_perform (call : StoreCall) (store : KeychainStore) :
    (perform call store).Uses (Asks [.build, .set, .get, .delete]) := by
  have answered {program : System KeychainStore}
      (asks : program.Uses (Asks [.build, .set, .get, .delete])) :
      (program.bind fun store => .done ((), store)).Uses (Asks [.build, .set, .get, .delete]) :=
    Program.uses_bind asks fun _ => trivial
  cases call with
  | get key => exact asks_get (by decide) (by decide) store key
  | set key value => exact answered (asks_set (by decide) (by decide) store key value)
  | remove key => exact answered (asks_remove (by decide) (by decide) store key)
  | setMany entries =>
    exact answered (asks_setAfter (by decide) (by decide) (by decide) [] entries store)
  | removeMany keys => exact answered (asks_removeMany (by decide) (by decide) keys store)

end KeychainStore

end PracticeClient
