import PracticeClient.Proofs.Json.Texts
import PracticeClient.Proofs.Storage.Machine
import PracticeClient.Proofs.Text.Utf8
import PracticeClient.Storage.FileStore

namespace PracticeClient.FileStore

open FileSystem

/-! ## The file aside -/

theorem child_pieces (path : Path) (name : String) :
    ∃ kept, path.child name = ⟨path.isAbsolute, kept ++ [name]⟩ ∧
      (path.pieces = kept ∨ path.pieces = kept ++ [""]) := by
  unfold Path.child Path.join
  rw [if_neg (by simp)]
  by_cases slashed : path.pieces.getLast? = some ""
  · obtain ⟨front, pieces⟩ := List.getLast?_eq_some_iff.1 slashed
    refine ⟨front, ?_, .inr pieces⟩
    simp [pieces]
  · refine ⟨path.pieces, ?_, .inl rfl⟩
    simp [slashed]

theorem names_child {fs : FileSystem} {isAbsolute : Bool} {kept : List String} {name : String}
    (solid : name ≠ "") {directory : Location} {name' : String} {slashed : Bool}
    (names : Names fs ⟨isAbsolute, kept ++ [name]⟩ directory name' slashed) :
    name' = name ∧ fs.walk (if isAbsolute then [] else fs.here) kept = .ok directory := by
  have whole : bare ⟨isAbsolute, kept ++ [name]⟩ = kept ++ [name] := by
    have stops : (name == "") = false := by simpa using solid
    simp [bare, stops]
  obtain ⟨-, -, last, walks, -⟩ := names
  rw [whole, List.getLast?_concat] at last
  rw [whole, List.dropLast_concat] at walks
  cases last
  exact ⟨rfl, walks⟩

theorem walk_dots {fs : FileSystem} {start location : Location} {pieces : List String}
    (dots : ∀ piece ∈ pieces, Path.isDot piece = true)
    (walked : fs.walk start pieces = .ok location) : location = start := by
  induction pieces with
  | nil =>
    cases walked
    rfl
  | cons piece rest ih =>
    have dot := dots piece List.mem_cons_self
    rw [walk, step] at walked
    cases directed : fs.isDirectory start with
    | false => simp [directed] at walked
    | true =>
      simp only [directed, dot, Bool.not_true, Bool.false_eq_true, if_true, if_false] at walked
      exact ih (fun other member => dots other (List.mem_cons_of_mem piece member)) walked

theorem pieces_of_fileName {path : Path} {name : String} (named : path.fileName? = some name) :
    ∃ front dots, path.pieces = front ++ [name] ++ dots ∧
      (∀ piece ∈ dots, Path.isDot piece = true) ∧ Path.isDot name = false ∧ name ≠ ".." := by
  have last : (Path.trimEnd path.pieces).getLast? = some name ∧ name ≠ ".." := by
    unfold Path.fileName? at named
    split at named
    · cases named
    · next up => exact ⟨named, fun dots => up (dots ▸ named)⟩
  obtain ⟨front, trimmed⟩ := List.getLast?_eq_some_iff.1 last.1
  have solid : Path.isDot name = false := by
    have ends := last.1
    rw [Path.trimEnd, List.getLast?_reverse] at ends
    have head := List.head?_dropWhile_not Path.isDot path.pieces.reverse
    rw [ends] at head
    simpa using head
  refine ⟨front, (path.pieces.reverse.takeWhile Path.isDot).reverse, ?_, ?_, solid, last.2⟩
  · rw [← trimmed, Path.trimEnd, ← List.reverse_append, List.takeWhile_append_dropWhile,
      List.reverse_reverse]
  · intro piece member
    exact List.all_eq_true.1 List.all_takeWhile piece (List.mem_reverse.1 member)

theorem location_of_fileName {fs : FileSystem} {path : Path} {name : String}
    (named : path.fileName? = some name) {location : Location}
    (located : fs.locate path = .ok location) : ∃ directory, location = directory ++ [name] := by
  obtain ⟨front, dots, pieces, dotted, solid, down⟩ := pieces_of_fileName named
  obtain ⟨-, -, walked⟩ := locate_eq_ok.1 located
  rw [pieces, walk_append, walk_append] at walked
  cases way : fs.walk (fs.start path) front with
  | error error => simp [way] at walked
  | ok directory =>
    simp only [way, walk] at walked
    cases stepped : fs.step directory name with
    | error error => simp [stepped] at walked
    | ok next =>
      simp only [stepped] at walked
      rw [walk_dots dotted walked]
      exact ⟨directory, (step_name solid down stepped).1⟩

theorem ne_append_tmp (name : String) : name ≠ name ++ ".tmp" := by
  intro same
  have lengths := congrArg String.length same
  rw [String.length_append] at lengths
  have four : ".tmp".length = 4 := by decide
  omega

theorem locate_ne_aside {fs : FileSystem} {path : Path} {directory : Location} {name : String}
    (names : Names fs (asidePath path) directory name false) :
    fs.locate path ≠ .ok (directory ++ [name]) := by
  intro located
  cases named : path.fileName? with
  | some last =>
    have aside : asidePath path = ((path.parent?).getD path).child (last ++ ".tmp") := by
      simp [asidePath, Path.withFileName, named]
    obtain ⟨kept, child, -⟩ := child_pieces ((path.parent?).getD path) (last ++ ".tmp")
    rw [aside, child] at names
    obtain ⟨rfl, -⟩ := names_child (by simp) names
    obtain ⟨directory', same⟩ := location_of_fileName named located
    obtain ⟨-, alike⟩ := List.append_inj' same rfl
    simp only [List.cons.injEq, and_true] at alike
    exact ne_append_tmp last alike.symm
  | none =>
    -- Without a name the path leads to the directory that the file aside is in.
    have aside : asidePath path = path.child ".tmp" := by
      simp [asidePath, Path.withFileName, named]
    obtain ⟨kept, child, pieces⟩ := child_pieces path ".tmp"
    rw [aside, child] at names
    obtain ⟨-, walks⟩ := names_child (by simp) names
    have directed := names.isDirectory
    obtain ⟨-, -, walked⟩ := locate_eq_ok.1 located
    have ends : fs.walk (fs.start path) path.pieces = .ok directory := by
      rcases pieces with pieces | pieces
      · rw [pieces]
        exact walks
      · have walks' : fs.walk (fs.start path) kept = .ok directory := walks
        rw [pieces, walk_append, walks']
        simp [walk, step, directed, Path.isDot]
    rw [ends] at walked
    simp at walked

theorem aside_apart (path : Path) : Apart (asidePath path) path :=
  fun names _ => locate_ne_aside names

/-! ## Tables written out -/

theorem decode_encode (table : Table String) : decode (encode table) = .ok table := by
  have written : encode table =
      Text.utf8 (Json.Value.object (Json.stringMembers table.entries)).pretty := rfl
  have solid : (Json.Value.object (Json.stringMembers table.entries)).pretty.toList.all
      Text.isBlank = false := by
    rw [Json.Value.pretty, String.toList_ofList]
    cases table.entries with
    | nil => rfl
    | cons entry rest => rfl
  rw [decode, written, Text.decode?_utf8]
  simp only [solid, Bool.false_eq_true, if_false, Json.decode_pretty]
  exact congrArg Except.ok (Table.ofList_entries table)

/-! ## Reading -/

def contents (files : FileSystem) (path : Path) : Table String :=
  match files.content? path with
  | none => .empty
  | some content => (decode content).toOption.getD .empty

theorem contents_congr {files after : FileSystem} {path : Path}
    (same : after.content? path = files.content? path) :
    contents after path = contents files path := by
  rw [contents, same, contents]

theorem run_probe {α : Type} (path : Path) (present absent : System α) (machine : Machine) :
    ((System.file (.probe path)).bind fun there => if there then present else absent).run
        Machine.quiet machine =
      if machine.files.exists? path then present.run Machine.quiet machine
      else absent.run Machine.quiet machine := by
  change (if machine.files.exists? path then present else absent).run Machine.quiet machine = _
  split <;> rfl

def valuesRead : Except FileError Bytes → Except StoreError (Table String)
  | .error error => .error (.file error)
  | .ok content => decode content

theorem run_readEntries (path : Path) (machine : Machine) :
    (readEntries path).run Machine.quiet machine =
      if machine.files.exists? path then
        (valuesRead (FileOp.handle (.read path) machine.files).1,
          { machine with files := (FileOp.handle (.read path) machine.files).2 })
      else (.ok .empty, machine) := by
  have read (next : Except FileError Bytes → System (Except StoreError (Table String))) :
      ((System.file (.read path)).bind next).run Machine.quiet machine =
        (next (FileOp.handle (.read path) machine.files).1).run Machine.quiet
          { machine with files := (FileOp.handle (.read path) machine.files).2 } := rfl
  unfold readEntries
  rw [Program.bind_eq, run_probe]
  split
  · rw [Program.bind_eq, read]
    cases (FileOp.handle (.read path) machine.files).1 with
    | error error => rfl
    | ok content => rfl
  · rfl

def reading (path : Path) (machine : Machine) : Table String × Machine :=
  let (result, after) := (readEntries path).run Machine.quiet machine
  (result.toOption.getD .empty, after)

theorem reading_eq (path : Path) (machine : Machine) :
    reading path machine =
      (if machine.files.due.isNone then contents machine.files path else .empty,
        if machine.files.exists? path then { machine with files := machine.files.past }
        else machine) := by
  rw [reading, run_readEntries, FileOp.handle_read]
  cases present : machine.files.exists? path with
  | false =>
    have missing := content?_eq_none_of_missing present
    simp only [Bool.false_eq_true, if_false, contents, missing, Prod.mk.injEq, and_true]
    cases machine.files.due <;> rfl
  | true =>
    simp only [if_true]
    cases machine.files.due with
    | some mishap => rfl
    | none =>
      simp only [contents, content?]
      cases machine.files.read path with
      | error error => rfl
      | ok content => rfl

theorem reading_content (path : Path) (machine : Machine) (other : Path) :
    (reading path machine).2.files.content? other = machine.files.content? other := by
  rw [reading_eq]
  cases machine.files.exists? path with
  | true => exact content?_past _ _
  | false => rfl

theorem due_of_found {path : Path} {machine : Machine} {key value : String}
    (found : (reading path machine).1.get? key = some value) : machine.files.due = none := by
  cases due : machine.files.due with
  | none => rfl
  | some mishap => simp [reading_eq, due] at found

theorem exists?_of_found {path : Path} {machine : Machine} {key value : String}
    (found : (reading path machine).1.get? key = some value) :
    machine.files.exists? path = true := by
  cases present : machine.files.exists? path with
  | true => rfl
  | false =>
    have missing := content?_eq_none_of_missing present
    simp [reading_eq, contents, missing] at found

theorem run_get (path : Path) (key : String) (machine : Machine) :
    (get path key).run Machine.quiet machine =
      ((reading path machine).1.get? key, (reading path machine).2) := by
  unfold get
  simp only [Program.bind_eq, Program.run_bind, reading]
  cases ((readEntries path).run Machine.quiet machine).1 with
  | ok table => rfl
  | error error => rfl

theorem run_readForUpdate (path : Path) (machine : Machine) :
    (readForUpdate path).run Machine.quiet machine = reading path machine := by
  unfold readForUpdate
  simp only [Program.bind_eq, Program.run_bind, reading]
  cases ((readEntries path).run Machine.quiet machine).1 with
  | ok table => rfl
  | error error => rfl

/-! ## Writing -/

theorem removeFile_eq (path : Path) (machine : Machine) :
    (removeFile path).run Machine.quiet machine =
      if machine.files.exists? path then
        ((FileOp.handle (.remove path) machine.files).1,
          { machine with files := (FileOp.handle (.remove path) machine.files).2 })
      else (.ok (), machine) := by
  unfold removeFile
  rw [Program.bind_eq, run_probe]
  rfl

theorem run_removeFile (path : Path) (machine : Machine) :
    (((removeFile path).run Machine.quiet machine).1 = .ok () →
        ((removeFile path).run Machine.quiet machine).2.files.exists? path = false) ∧
      ∀ error, ((removeFile path).run Machine.quiet machine).1 = .error error →
        ((removeFile path).run Machine.quiet machine).2.files.content? path =
          machine.files.content? path := by
  rw [removeFile_eq]
  cases present : machine.files.exists? path with
  | false =>
    refine ⟨fun _ => present, fun error failed => ?_⟩
    cases failed
  | true =>
    obtain ⟨done, failed⟩ := @FileOp.handle_remove machine.files path
    exact ⟨done, fun error result => failed error result path⟩

theorem createParent_content {path : Path} {machine : Machine} {content : Bytes}
    (there : machine.files.content? path = some content) :
    ((createParent path).run Machine.quiet machine).2.files.content? path = some content := by
  unfold createParent
  cases path.parent? with
  | none => exact there
  | some parent => exact FileOp.handle_createDirectories there

theorem run_replaceFile (path : Path) (content : Bytes) (machine : Machine) :
    (((replaceFile path content).run Machine.quiet machine).1 = .ok () →
        ((replaceFile path content).run Machine.quiet machine).2.files.content? path =
          some content) ∧
      ∀ error, ((replaceFile path content).run Machine.quiet machine).1 = .error error →
        ((replaceFile path content).run Machine.quiet machine).2.files.content? path =
          ((createParent path).run Machine.quiet machine).2.files.content? path := by
  unfold replaceFile
  simp only [Program.bind_eq, Program.run_bind]
  generalize (createParent path).run Machine.quiet machine = parent
  obtain ⟨made, machine⟩ := parent
  cases made with
  | error error => exact ⟨fun done => (by cases done), fun _ _ => rfl⟩
  | ok _ =>
    simp only [System.file, Program.run_bind, Program.run_ask, Machine.quiet]
    obtain ⟨written, elsewhere⟩ :=
      @FileOp.handle_write machine.files (asidePath path) content
    have kept := elsewhere (aside_apart path)
    cases wrote : (FileOp.handle (.write (asidePath path) content) machine.files).1 with
    | error error => exact ⟨fun done => (by cases done), fun _ _ => kept⟩
    | ok _ =>
      obtain ⟨moved, stayed⟩ := @FileOp.handle_rename
        (FileOp.handle (.write (asidePath path) content) machine.files).2 (asidePath path) path
      refine ⟨fun done => moved done content (written wrote), fun error failed => ?_⟩
      exact (stayed error failed path).trans kept

theorem eq_empty_of_isEmpty {table : Table String} (empty : table.isEmpty = true) :
    table = .empty := by
  obtain ⟨entries, sorted⟩ := table
  cases entries with
  | nil => rfl
  | cons entry rest => cases empty

theorem run_writeEntries {path : Path} {table : Table String} {machine : Machine}
    (done : ((writeEntries path table).run Machine.quiet machine).1 = .ok ()) :
    if table.isEmpty then
      ((writeEntries path table).run Machine.quiet machine).2.files.exists? path = false
    else
      ((writeEntries path table).run Machine.quiet machine).2.files.content? path =
        some (encode table) := by
  unfold writeEntries at done ⊢
  cases empty : table.isEmpty with
  | true =>
    simp only [empty, if_true] at done ⊢
    exact (run_removeFile path machine).1 done
  | false =>
    simp only [empty, Bool.false_eq_true, if_false] at done ⊢
    exact (run_replaceFile path (encode table) machine).1 done

theorem contents_of_writeEntries {path : Path} {table : Table String} {machine : Machine}
    (done : ((writeEntries path table).run Machine.quiet machine).1 = .ok ()) :
    contents ((writeEntries path table).run Machine.quiet machine).2.files path = table := by
  have written := run_writeEntries done
  cases empty : table.isEmpty with
  | true =>
    rw [empty, if_pos rfl] at written
    rw [contents, content?_eq_none_of_missing written, eq_empty_of_isEmpty empty]
  | false =>
    rw [empty, if_neg (by simp)] at written
    rw [contents, written]
    simp only [decode_encode]
    rfl

/-! ## Updates -/

def attempt (path : Path) (change : Table String → Table String) :
    System (Except FileError Unit) := do
  let table ← readForUpdate path
  writeEntries path (change table)

theorem run_attempt (path : Path) (change : Table String → Table String) (machine : Machine) :
    (attempt path change).run Machine.quiet machine =
      (writeEntries path (change (reading path machine).1)).run Machine.quiet
        (reading path machine).2 := by
  unfold attempt
  rw [Program.bind_eq, Program.run_bind, run_readForUpdate]

theorem run_update (path : Path) (keys : List String) (change : Table String → Table String)
    (machine : Machine) :
    (update path keys change).run Machine.quiet machine =
      ((), ((attempt path change).run Machine.quiet machine).2) := by
  rw [run_attempt]
  unfold update
  simp only [Program.bind_eq, Program.run_bind, run_readForUpdate]
  cases ((writeEntries path (change (reading path machine).1)).run Machine.quiet
    (reading path machine).2).1 with
  | ok _ => rfl
  | error error => rfl

theorem contents_of_attempt {path : Path} {change : Table String → Table String}
    {machine : Machine} (done : ((attempt path change).run Machine.quiet machine).1 = .ok ()) :
    contents ((attempt path change).run Machine.quiet machine).2.files path =
      change (reading path machine).1 := by
  rw [run_attempt] at done ⊢
  exact contents_of_writeEntries done

def prepared (path : Path) (machine : Machine) : Machine :=
  ((createParent path).run Machine.quiet (reading path machine).2).2

theorem contents_of_failed_attempt {path : Path} {change : Table String → Table String}
    {machine : Machine} {error : FileError}
    (failed : ((attempt path change).run Machine.quiet machine).1 = .error error) :
    contents ((attempt path change).run Machine.quiet machine).2.files path =
      if (change (reading path machine).1).isEmpty then contents machine.files path
      else contents (prepared path machine).files path := by
  rw [run_attempt] at failed ⊢
  unfold writeEntries at failed ⊢
  split at failed
  · next none =>
    rw [if_pos none, if_pos none]
    have same := (run_removeFile path (reading path machine).2).2 error failed
    rw [contents_congr same, contents_congr (reading_content path machine path)]
  · next some =>
    rw [if_neg some, if_neg some]
    exact contents_congr
      ((run_replaceFile path (encode (change (reading path machine).1)) _).2 error failed)

theorem contents_prepared {path : Path} {machine : Machine} {content : Bytes}
    (there : machine.files.content? path = some content) :
    contents (prepared path machine).files path = contents machine.files path := by
  rw [← reading_content path machine path] at there
  have same := (createParent_content there).trans there.symm
  exact (contents_congr same).trans (contents_congr (reading_content path machine path))

theorem eraseMany_empty (keys : List String) :
    (Table.empty : Table String).eraseMany keys = .empty := by
  induction keys with
  | nil => rfl
  | cons key rest ih => exact ih

theorem contents_of_failed_removal {path : Path} {keys : List String} {machine : Machine}
    {error : FileError}
    (failed : ((attempt path (·.eraseMany keys)).run Machine.quiet machine).1 = .error error) :
    contents ((attempt path (·.eraseMany keys)).run Machine.quiet machine).2.files path =
      contents machine.files path := by
  rw [contents_of_failed_attempt failed]
  cases there : machine.files.content? path with
  | some content => rw [contents_prepared there, ite_self]
  | none =>
    -- Nothing is read, so nothing is left to be written.
    have nothing : (reading path machine).1 = .empty := by
      simp only [reading_eq, contents, there, ite_self]
    rw [nothing, eraseMany_empty]
    rfl

theorem isEmpty_insert (table : Table String) (key value : String) :
    (table.insert key value).isEmpty = false := by
  have found := Table.get?_insert table key key value
  rw [if_pos rfl] at found
  cases empty : (table.insert key value).isEmpty with
  | false => rfl
  | true =>
    rw [Table.isEmpty, List.isEmpty_iff] at empty
    rw [Table.get?, empty] at found
    cases found

end PracticeClient.FileStore
