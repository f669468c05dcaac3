import PracticeClient.Proofs.Storage.FileSteps
import PracticeClient.Storage.Store

namespace PracticeClient.FileStore

open FileSystem

/-- Two trees alike but for the file aside, which may be there in either and have any content. -/
structure Twins (path : Path) (place : Location) (files other : FileSystem) : Prop where
  here : other.here = files.here
  mishaps : other.mishaps = files.mishaps
  nodes : ∀ location, location ≠ place → other.node? location = files.node? location
  free : files.isDirectory place = false
  free' : other.isDirectory place = false
  aside : IsAside files path place

namespace Twins

variable {path : Path} {place : Location} {files other : FileSystem}

theorem keeps (twins : Twins path place files other) : Keeps files other := by
  refine ⟨twins.here, ?_⟩
  intro location directed
  have elsewhere : location ≠ place := ne_of_isDirectory twins.free directed
  rw [isDirectory, twins.nodes location elsewhere]
  exact directed

theorem symm (twins : Twins path place files other) : Twins path place other files := by
  refine ⟨twins.here.symm, twins.mishaps.symm, ?_, twins.free', twins.free,
    twins.aside.keeps twins.keeps⟩
  intro location elsewhere
  exact (twins.nodes location elsewhere).symm

theorem past (twins : Twins path place files other) : Twins path place files.past other.past := by
  have keeps := keeps_mishaps files files.mishaps.tail
  exact ⟨twins.here, congrArg List.tail twins.mishaps, twins.nodes, twins.free, twins.free',
    twins.aside.keeps keeps⟩

theorem due (twins : Twins path place files other) : other.due = files.due := by
  rw [FileSystem.due, FileSystem.due, twins.mishaps]

/-! ## Looking -/

theorem step (twins : Twins path place files other) {location next : Location} {piece : String}
    (stepped : files.step location piece = .ok next) (elsewhere : next ≠ place) :
    other.step location piece = .ok next := by
  have directed := isDirectory_of_step stepped
  rw [FileSystem.step] at stepped ⊢
  simp only [directed, twins.keeps.directories location directed, Bool.not_true,
    Bool.false_eq_true, if_false] at stepped ⊢
  split at stepped
  · next dot => rw [if_pos dot, stepped]
  next solid =>
  split at stepped
  · next up => rw [if_neg solid, if_pos up, stepped]
  next down =>
  split at stepped
  · cases stepped
  next short =>
  split at stepped
  · next there =>
    cases stepped
    rw [if_neg solid, if_neg down, if_neg short, twins.nodes _ elsewhere, if_pos there]
  · cases stepped

theorem walk (twins : Twins path place files other) {start location : Location}
    {pieces : List String} (walked : files.walk start pieces = .ok location)
    (elsewhere : location ≠ place) : other.walk start pieces = .ok location := by
  induction pieces generalizing start with
  | nil => exact walked
  | cons piece rest ih =>
    rw [FileSystem.walk] at walked ⊢
    cases stepped : files.step start piece with
    | error error => simp [stepped] at walked
    | ok next =>
      simp only [stepped] at walked
      -- On the way there are directories only, and the file aside is none.
      have between : next ≠ place := by
        cases rest with
        | nil =>
          cases walked
          exact elsewhere
        | cons piece' rest' =>
          rw [FileSystem.walk] at walked
          cases stepped' : files.step next piece' with
          | error error => simp [stepped'] at walked
          | ok next' => exact ne_of_isDirectory twins.free (isDirectory_of_step stepped')
      rw [twins.step stepped between]
      exact ih walked

theorem locate (twins : Twins path place files other) {location : Location}
    (located : files.locate path = .ok location) :
    location ≠ place ∧ other.locate path = .ok location := by
  have elsewhere := twins.aside.ne_of_locate located
  obtain ⟨zero, empty, walked⟩ := locate_eq_ok.1 located
  refine ⟨elsewhere, locate_eq_ok.2 ⟨zero, empty, ?_⟩⟩
  rw [twins.keeps.start]
  exact twins.walk walked elsewhere

theorem exists?_of_exists? (twins : Twins path place files other)
    (present : files.exists? path = true) : other.exists? path = true := by
  unfold FileSystem.exists? at present ⊢
  cases located : files.locate path with
  | error error => simp [located] at present
  | ok location => rw [(twins.locate located).2]

theorem exists?_eq (twins : Twins path place files other) :
    other.exists? path = files.exists? path := by
  rw [Bool.eq_iff_iff]
  exact ⟨twins.symm.exists?_of_exists?, twins.exists?_of_exists?⟩

theorem read (twins : Twins path place files other) {content : Bytes}
    (read : files.read path = .ok content) : other.read path = .ok content := by
  obtain ⟨location, located, node⟩ := read_eq_ok.1 read
  obtain ⟨elsewhere, located'⟩ := twins.locate located
  exact read_eq_ok.2 ⟨location, located', (twins.nodes location elsewhere).trans node⟩

theorem content? (twins : Twins path place files other) :
    other.content? path = files.content? path :=
  content?_congr fun _ => ⟨twins.symm.read, twins.read⟩

/-! ## Changing -/

theorem remove_of_ok (twins : Twins path place files other) {after : FileSystem}
    (removed : files.remove path = .ok after) :
    ∃ after', other.remove path = .ok after' ∧ Twins path place after after' := by
  obtain ⟨directory, name, content, names, file, rfl⟩ := remove_eq_ok removed
  have inner : directory ++ [name] ≠ [] := by simp
  have located : files.locate path = .ok (directory ++ [name]) := by
    rw [names.locate, file]
    rfl
  have file' := (twins.nodes _ (twins.locate located).1).trans file
  have names' := names.of_directories twins.keeps.directories twins.keeps.here
  have keeps := keeps_clear inner (isDirectory_of_file file)
  refine ⟨_, remove_of_names names' file', twins.here, twins.mishaps, ?_, ?_, ?_,
    twins.aside.keeps keeps⟩
  · intro location elsewhere
    rw [node?_clear inner, node?_clear inner, twins.nodes location elsewhere]
  · rw [← Bool.not_eq_true, isDirectory_clear inner, twins.free]
    simp
  · rw [← Bool.not_eq_true, isDirectory_clear inner, twins.free']
    simp

theorem settle_write (twins : Twins path place files other) (content : Bytes) :
    FileOp.settle files (files.write (asidePath path) content) =
        (.ok (), files.set place (.file content)) ∧
      Twins path place (files.set place (.file content)) (other.set place (.file content)) := by
  have inner := twins.aside.inner
  have keeps := keeps_set_file inner twins.free content
  have written : files.write (asidePath path) content = .ok (files.set place (.file content)) := by
    obtain ⟨directory, name, names, rfl⟩ := twins.aside
    exact write_of_names names twins.free content
  rw [written]
  refine ⟨rfl, twins.here, twins.mishaps, ?_, ?_, ?_, twins.aside.keeps keeps⟩
  · intro location elsewhere
    rw [node?_set inner, node?_set inner, twins.nodes location elsewhere]
  · rw [← Bool.not_eq_true, isDirectory_set_file inner]
    simp
  · rw [← Bool.not_eq_true, isDirectory_set_file inner]
    simp

theorem rename_of_ok (twins : Twins path place files other) {content : Bytes}
    (file : files.node? place = some (.file content))
    (file' : other.node? place = some (.file content)) {after : FileSystem}
    (renamed : files.rename (asidePath path) path = .ok after) :
    ∃ after', other.rename (asidePath path) path = .ok after' ∧ Twins path place after after' := by
  have inner := twins.aside.inner
  have keeps := (rename_alters renamed).keeps
  obtain ⟨directory, name, directory', name', content', names, names', node, free, rfl⟩ :=
    rename_eq_ok renamed
  obtain rfl := twins.aside.unique names
  obtain rfl : content' = content := by
    rw [file] at node
    cases node
    rfl
  -- The file aside is moved to somewhere else, as the path never leads to it.
  have differs : directory ++ [name] ≠ directory' ++ [name'] := by
    intro alike
    have located : files.locate path = .ok (directory' ++ [name']) := by
      rw [names'.locate, ← alike, file]
      rfl
    exact (twins.locate located).1 alike.symm
  have inner' : directory' ++ [name'] ≠ [] := by simp
  have free' : other.isDirectory (directory' ++ [name']) = false := by
    rw [isDirectory, twins.nodes _ differs.symm]
    exact free
  have known := names.of_directories twins.keeps.directories twins.keeps.here
  have known' := names'.of_directories twins.keeps.directories twins.keeps.here
  have renamed' := rename_of_names known known' file' free'
  rw [if_neg differs] at renamed' keeps ⊢
  refine ⟨_, renamed', twins.here, twins.mishaps, ?_, ?_, ?_, twins.aside.keeps keeps⟩
  · intro location elsewhere
    rw [node?_set inner', node?_set inner', node?_clear inner, node?_clear inner,
      twins.nodes location elsewhere]
  · rw [isDirectory, node?_set inner', if_neg differs, node?_clear inner, if_pos rfl]
    rfl
  · rw [isDirectory, node?_set inner', if_neg differs, node?_clear inner, if_pos rfl]
    rfl

theorem settle (twins : Twins path place files other) {result result' : Except FileError FileSystem}
    (forth : ∀ after, result = .ok after →
      ∃ after', result' = .ok after' ∧ Twins path place after after')
    (back : ∀ after', result' = .ok after' → ∃ after, result = .ok after) :
    Twins path place (FileOp.settle files result).2 (FileOp.settle other result').2 := by
  cases result with
  | ok after =>
    obtain ⟨after', rfl, twins'⟩ := forth after rfl
    exact twins'
  | error error =>
    cases result' with
    | error error' => exact twins
    | ok after' =>
      obtain ⟨after, impossible⟩ := back after' rfl
      cases impossible

theorem handle_remove (twins : Twins path place files other) :
    Twins path place (FileOp.handle (.remove path) files).2
      (FileOp.handle (.remove path) other).2 := by
  rw [FileOp.handle_eq rfl, FileOp.handle_eq rfl, twins.due]
  cases files.due with
  | none =>
    apply twins.past.settle
    · intro after removed
      exact twins.past.remove_of_ok removed
    · intro after' removed
      obtain ⟨after, removed', -⟩ := twins.past.symm.remove_of_ok removed
      exact ⟨after, removed'⟩
  | some mishap => exact twins.past

theorem handle_rename (twins : Twins path place files other) {content : Bytes}
    (file : files.node? place = some (.file content))
    (file' : other.node? place = some (.file content)) :
    Twins path place (FileOp.handle (.rename (asidePath path) path) files).2
      (FileOp.handle (.rename (asidePath path) path) other).2 := by
  rw [FileOp.handle_eq rfl, FileOp.handle_eq rfl, twins.due]
  cases files.due with
  | none =>
    apply twins.past.settle
    · intro after renamed
      exact twins.past.rename_of_ok file file' renamed
    · intro after' renamed
      obtain ⟨after, renamed', -⟩ := twins.past.symm.rename_of_ok file' file renamed
      exact ⟨after, renamed'⟩
  | some mishap => exact twins.past

theorem handle_write (twins : Twins path place files other) (content : Bytes) :
    (FileOp.handle (.write (asidePath path) content) other).1 =
        (FileOp.handle (.write (asidePath path) content) files).1 ∧
      Twins path place (FileOp.handle (.write (asidePath path) content) files).2
        (FileOp.handle (.write (asidePath path) content) other).2 ∧
      ((FileOp.handle (.write (asidePath path) content) files).1 = .ok () →
        (FileOp.handle (.write (asidePath path) content) files).2.node? place =
            some (.file content) ∧
          (FileOp.handle (.write (asidePath path) content) other).2.node? place =
            some (.file content)) := by
  have settled (content : Bytes) :
      FileOp.settle files.past (files.past.write (asidePath path) content) =
          (.ok (), files.past.set place (.file content)) ∧
        FileOp.settle other.past (other.past.write (asidePath path) content) =
          (.ok (), other.past.set place (.file content)) :=
    ⟨(twins.past.settle_write content).1, (twins.symm.past.settle_write content).1⟩
  rw [FileOp.handle_eq rfl, FileOp.handle_eq rfl, twins.due]
  cases files.due with
  | none =>
    obtain ⟨here, there⟩ := settled content
    simp only [FileOp.perform, here, there]
    refine ⟨trivial, (twins.past.settle_write content).2, fun _ => ?_⟩
    rw [node?_set twins.aside.inner, node?_set twins.aside.inner, if_pos rfl]
    exact ⟨rfl, if_pos rfl⟩
  | some mishap =>
    refine ⟨rfl, ?_, fun done => by cases done⟩
    simp only [FileOp.fail]
    cases mishap.written with
    | none => exact twins.past
    | some count =>
      obtain ⟨here, there⟩ := settled (content.take count)
      simp only [FileOp.halfWritten, here, there]
      exact (twins.past.settle_write (content.take count)).2

theorem handle_createDirectories (twins : Twins path place files other) {parent : Path}
    (above : path.parent? = some parent) :
    (FileOp.handle (.createDirectories parent) other).1 =
        (FileOp.handle (.createDirectories parent) files).1 ∧
      Twins path place (FileOp.handle (.createDirectories parent) files).2
        (FileOp.handle (.createDirectories parent) other).2 := by
  have room {files other : FileSystem} (twins : Twins path place files other) :
      FileOp.perform (.createDirectories parent) files = (.ok (), files) :=
    twins.aside.hasRoom.createDirectories above
  rw [FileOp.handle_eq rfl, FileOp.handle_eq rfl, twins.due]
  cases files.due with
  | none =>
    simp only [room twins.past, room twins.symm.past]
    exact ⟨trivial, twins.past⟩
  | some mishap => exact ⟨rfl, twins.past⟩

end Twins

/-! ## Calls -/

structure TwinMachines (path : Path) (place : Location) (machine other : Machine) : Prop where
  keychain : other.keychain = machine.keychain
  files : Twins path place machine.files other.files

namespace TwinMachines

variable {path : Path} {place : Location} {machine other : Machine}

theorem reading (twins : TwinMachines path place machine other) :
    (reading path other).1 = (reading path machine).1 ∧
      TwinMachines path place (reading path machine).2 (reading path other).2 := by
  rw [reading_eq, reading_eq, twins.files.due, twins.files.exists?_eq,
    contents_congr twins.files.content?]
  refine ⟨rfl, ?_⟩
  cases machine.files.exists? path with
  | true => exact ⟨twins.keychain, twins.files.past⟩
  | false => exact twins

theorem removeFile (twins : TwinMachines path place machine other) :
    TwinMachines path place ((removeFile path).run Machine.quiet machine).2
      ((FileStore.removeFile path).run Machine.quiet other).2 := by
  rw [removeFile_eq, removeFile_eq, twins.files.exists?_eq]
  cases machine.files.exists? path with
  | true => exact ⟨twins.keychain, twins.files.handle_remove⟩
  | false => exact twins

theorem createParent (twins : TwinMachines path place machine other) :
    ((createParent path).run Machine.quiet other).1 =
        ((createParent path).run Machine.quiet machine).1 ∧
      TwinMachines path place ((FileStore.createParent path).run Machine.quiet machine).2
        ((FileStore.createParent path).run Machine.quiet other).2 := by
  unfold FileStore.createParent
  cases above : path.parent? with
  | none => exact ⟨rfl, twins⟩
  | some parent =>
    obtain ⟨answer, left⟩ := twins.files.handle_createDirectories above
    exact ⟨answer, twins.keychain, left⟩

theorem replaceFile (twins : TwinMachines path place machine other) (content : Bytes) :
    TwinMachines path place ((replaceFile path content).run Machine.quiet machine).2
      ((FileStore.replaceFile path content).run Machine.quiet other).2 := by
  obtain ⟨answer, twins⟩ := twins.createParent
  unfold FileStore.replaceFile
  simp only [Program.bind_eq, Program.run_bind]
  rw [answer]
  cases ((FileStore.createParent path).run Machine.quiet machine).1 with
  | error error => exact twins
  | ok _ =>
    obtain ⟨answer, written, same⟩ := twins.files.handle_write content
    simp only [System.file, Program.run_bind, Program.run_ask, Machine.quiet]
    rw [answer]
    cases wrote : (FileOp.handle (.write (asidePath path) content)
      ((FileStore.createParent path).run Machine.quiet machine).2.files).1 with
    | error error => exact ⟨twins.keychain, written⟩
    | ok _ =>
      obtain ⟨file, file'⟩ := same wrote
      exact ⟨twins.keychain, written.handle_rename file file'⟩

theorem update (twins : TwinMachines path place machine other) (keys : List String)
    (change : Table String → Table String) :
    TwinMachines path place ((update path keys change).run Machine.quiet machine).2
      ((FileStore.update path keys change).run Machine.quiet other).2 := by
  obtain ⟨same, twins⟩ := twins.reading
  rw [run_update, run_update, run_attempt, run_attempt, same]
  unfold writeEntries
  split
  · exact twins.removeFile
  · exact twins.replaceFile _

theorem perform (twins : TwinMachines path place machine other) (call : StoreCall) :
    ((perform path call).run Machine.quiet other).1 =
        ((perform path call).run Machine.quiet machine).1 ∧
      TwinMachines path place ((FileStore.perform path call).run Machine.quiet machine).2
        ((FileStore.perform path call).run Machine.quiet other).2 := by
  cases call with
  | get key =>
    obtain ⟨same, read⟩ := twins.reading
    have ran (machine : Machine) : (FileStore.perform path (.get key)).run Machine.quiet machine =
        ((FileStore.reading path machine).1.get? key, (FileStore.reading path machine).2) :=
      run_get path key machine
    rw [ran, ran, same]
    exact ⟨rfl, read⟩
  | set key value => exact ⟨rfl, twins.update [key] (·.insertMany [(key, value)])⟩
  | remove key => exact ⟨rfl, twins.update [key] (·.eraseMany [key])⟩
  | setMany entries => exact ⟨rfl, twins.update (entries.map Prod.fst) (·.insertMany entries)⟩
  | removeMany keys => exact ⟨rfl, twins.update keys (·.eraseMany keys)⟩

end TwinMachines

theorem twins_of_remove {path : Path} {files without : FileSystem}
    (removed : files.remove (asidePath path) = .ok without) :
    ∃ place, Twins path place files without := by
  have keeps := (remove_alters removed).keeps
  obtain ⟨directory, name, content, names, file, rfl⟩ := remove_eq_ok removed
  have inner : directory ++ [name] ≠ [] := by simp
  refine ⟨directory ++ [name], rfl, rfl, ?_, isDirectory_of_file file, ?_,
    directory, name, names, rfl⟩
  · intro location elsewhere
    rw [node?_clear inner, if_neg elsewhere]
  · rw [← Bool.not_eq_true, isDirectory_clear inner]
    simp

end PracticeClient.FileStore
