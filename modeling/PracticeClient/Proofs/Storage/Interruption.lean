import PracticeClient.Proofs.Storage.Leftovers
import PracticeClient.Proofs.Storage.PlainMap

namespace PracticeClient.FileStore

open FileSystem

/-! ## Looking -/

theorem content?_of_looking (path : Path) {op : SystemOp} (looks : Looks op) (machine : Machine) :
    (Machine.quiet op machine).2.files.content? path = machine.files.content? path := by
  cases looks with
  | probe probed => rfl
  | read found =>
    simp only [Machine.quiet, FileOp.handle_read]
    exact content?_past machine.files path
  | log entry => rfl

theorem through_looking {α : Type} {program : System α} (looks : program.Uses Looks)
    (path : Path) (machine : Machine) :
    program.Through (fun after => after.files.content? path = machine.files.content? path)
      Machine.quiet machine := by
  refine Program.through_of_uses ?_ looks rfl
  intro op state takes same
  exact (content?_of_looking path takes state).trans same

/-! ## Changing -/

/-- What may stand in the file when an update breaks off. -/
def Cut (path : Path) (machine : Machine) (completed : Table String) (after : Machine) : Prop :=
  after.files.content? path = machine.files.content? path ∨
    after.files.content? path = (prepared path machine).files.content? path ∨
    contents after.files path = completed

theorem through_file {good : Machine → Prop} {op : FileOp} {machine : Machine}
    (before : good machine)
    (after : good { machine with files := (FileOp.handle op machine.files).2 }) :
    (System.file op).Through good Machine.quiet machine :=
  ⟨before, after⟩

section

variable {path : Path} {machine : Machine} {table : Table String}

theorem cut_reading (path : Path) (machine : Machine) (table : Table String) :
    Cut path machine table (reading path machine).2 :=
  .inl (reading_content path machine path)

theorem through_removeFile (empty : table.isEmpty = true) :
    (removeFile path).Through (Cut path machine table) Machine.quiet (reading path machine).2 := by
  have start := cut_reading path machine table
  have removed : Cut path machine table { (reading path machine).2 with
      files := (FileOp.handle (.remove path) (reading path machine).2.files).2 } := by
    obtain ⟨done, failed⟩ := @FileOp.handle_remove (reading path machine).2.files path
    cases result : (FileOp.handle (.remove path) (reading path machine).2.files).1 with
    | ok _ =>
      have missing := content?_eq_none_of_missing (done result)
      right
      right
      rw [eq_empty_of_isEmpty empty, contents, missing]
    | error error =>
      exact .inl ((failed error result path).trans (reading_content path machine path))
  unfold removeFile
  refine Program.through_bind (through_file start start) ?_
  split
  · exact through_file start removed
  · exact start

theorem through_createParent :
    (createParent path).Through (Cut path machine table) Machine.quiet
      (reading path machine).2 := by
  have ready : Cut path machine table (prepared path machine) := .inr (.inl rfl)
  unfold prepared createParent at ready
  unfold createParent
  cases above : path.parent? with
  | none => exact cut_reading path machine table
  | some parent =>
    rw [above] at ready
    exact through_file (cut_reading path machine table) ready

theorem cut_rename {between : Machine}
    (kept : between.files.content? path = (prepared path machine).files.content? path)
    (aside : between.files.content? (asidePath path) = some (encode table)) :
    Cut path machine table { between with
      files := (FileOp.handle (.rename (asidePath path) path) between.files).2 } := by
  obtain ⟨moved, stayed⟩ := @FileOp.handle_rename between.files (asidePath path) path
  cases result : (FileOp.handle (.rename (asidePath path) path) between.files).1 with
  | ok _ =>
    have there := moved result (encode table) aside
    right
    right
    simp only [contents, there, decode_encode]
    rfl
  | error error => exact .inr (.inl ((stayed error result path).trans kept))

theorem through_replaceFile :
    (replaceFile path (encode table)).Through (Cut path machine table) Machine.quiet
      (reading path machine).2 := by
  have same : ((createParent path).run Machine.quiet (reading path machine).2).2 =
    prepared path machine := rfl
  unfold replaceFile
  apply Program.through_bind through_createParent
  generalize (createParent path).run Machine.quiet (reading path machine).2 = parent at same ⊢
  obtain ⟨made, between⟩ := parent
  obtain rfl : between = prepared path machine := same
  have ready : Cut path machine table (prepared path machine) := .inr (.inl rfl)
  cases made with
  | error error => exact ready
  | ok _ =>
    -- Until the last operation the file itself is out of reach.
    obtain ⟨written, elsewhere⟩ :=
      @FileOp.handle_write (prepared path machine).files (asidePath path) (encode table)
    have kept := elsewhere (aside_apart path)
    apply Program.through_bind (through_file ready (.inr (.inl kept)))
    simp only [System.file, Program.run_ask, Machine.quiet]
    cases wrote : (FileOp.handle (.write (asidePath path) (encode table))
      (prepared path machine).files).1 with
    | error error => exact .inr (.inl kept)
    | ok _ => exact through_file (.inr (.inl kept)) (cut_rename kept (written wrote))

theorem through_writeEntries :
    (writeEntries path table).Through (Cut path machine table) Machine.quiet
      (reading path machine).2 := by
  unfold writeEntries
  split
  · next empty => exact through_removeFile empty
  · exact through_replaceFile

end

theorem through_update (path : Path) (keys : List String) (change : Table String → Table String)
    (machine : Machine) :
    (update path keys change).Through (Cut path machine (change (reading path machine).1))
      Machine.quiet machine := by
  unfold update
  apply Program.through_bind
  · have looking := through_looking (looks_readForUpdate path) path machine
    exact Program.through_mono (fun _ => .inl) looking
  · rw [run_readForUpdate]
    apply Program.through_bind through_writeEntries
    have last := Program.through_end
      (@through_writeEntries path machine (change (reading path machine).1))
    cases ((writeEntries path (change (reading path machine).1)).run Machine.quiet
      (reading path machine).2).1 with
    | ok _ => exact last
    | error error => exact ⟨last, last⟩

theorem through_perform (path : Path) (call : StoreCall) (machine : Machine) :
    (perform path call).Through
      (Cut path machine (Store.onTable call (reading path machine).1).2) Machine.quiet machine := by
  have start (table : Table String) : Cut path machine table machine := .inl rfl
  cases call with
  | get key =>
    have looking := through_looking (looks_get path key) path machine
    exact Program.through_mono (fun _ => .inl) looking
  | set key value =>
    exact ⟨start _, through_update path [key] (·.insertMany [(key, value)]) machine⟩
  | remove key => exact ⟨start _, through_update path [key] (·.eraseMany [key]) machine⟩
  | setMany entries =>
    exact ⟨start _, through_update path (entries.map Prod.fst) (·.insertMany entries) machine⟩
  | removeMany keys => exact ⟨start _, through_update path keys (·.eraseMany keys) machine⟩

/-! ## What is in the file -/

theorem handle_createDirectories_cases (files : FileSystem) (parent : Path) :
    (FileOp.handle (.createDirectories parent) files).2 = (files.past.createDirectories parent).2 ∨
      (FileOp.handle (.createDirectories parent) files).2 = files.past := by
  rw [FileOp.handle_eq rfl]
  cases files.due with
  | none => exact .inl rfl
  | some mishap => exact .inr rfl

theorem reading_files (path : Path) (machine : Machine) :
    (reading path machine).2.files = machine.files ∨
      (reading path machine).2.files = machine.files.past := by
  rw [reading_eq]
  cases machine.files.exists? path with
  | true => exact .inr rfl
  | false => exact .inl rfl

theorem Steady.prepared {path : Path} {machine : Machine} (steady : Steady machine.files path) :
    (prepared path machine).files.content? path = machine.files.content? path := by
  rw [← reading_content path machine path]
  have steady' : Steady (reading path machine).2.files path := by
    rcases reading_files path machine with same | same
    · exact same ▸ steady
    · exact same ▸ (Confined.past path machine.files).steady steady
  unfold FileStore.prepared createParent
  cases above : path.parent? with
  | none => rfl
  | some parent =>
    change (FileOp.handle (.createDirectories parent) _).2.content? path = _
    rcases handle_createDirectories_cases (reading path machine).2.files parent with made | same
    · have unchanged := ((Confined.past path _).steady steady').createDirectories above
      rw [made, unchanged, content?_past]
    · rw [same, content?_past]

theorem prepared_sprouts {path parent : Path} (above : path.parent? = some parent)
    (machine : Machine) : Sprouts parent machine.files (prepared path machine).files := by
  have past (files : FileSystem) : Sprouts parent files files.past := ⟨rfl, fun _ => .inl rfl⟩
  have read : Sprouts parent machine.files (reading path machine).2.files := by
    rcases reading_files path machine with same | same
    · exact same ▸ .refl parent machine.files
    · exact same ▸ past machine.files
  unfold prepared createParent
  rw [above]
  change Sprouts parent _ (FileOp.handle (.createDirectories parent) _).2
  rcases handle_createDirectories_cases (reading path machine).2.files parent with made | same
  · rw [made]
    exact read.trans ((past _).trans (createDirectories_sprouts _ parent))
  · rw [same]
    exact read.trans (past _)

theorem comesIntoView {path : Path} {machine : Machine} (tree : machine.files.IsTree)
    {after : FileSystem}
    (cut : after.content? path = (prepared path machine).files.content? path) :
    after.content? path = machine.files.content? path ∨
      ComesIntoView path machine.files after := by
  by_cases steady : Steady machine.files path
  · exact .inl (cut.trans steady.prepared)
  obtain ⟨up, crowded⟩ := up_of_not_steady tree steady
  have unseen : machine.files.content? path = none := by
    cases there : machine.files.content? path with
    | none => rfl
    | some content => exact absurd (hasRoom_of_content there) crowded
  cases found : (prepared path machine).files.content? path with
  | none => exact .inl (cut.trans (found.trans unseen.symm))
  | some content =>
    obtain ⟨parent, above⟩ : ∃ parent, path.parent? = some parent := by
      by_contra none
      exact crowded fun parent above => absurd ⟨parent, above⟩ none
    have sprouts := prepared_sprouts above machine
    exact .inr ((comesIntoView_of_sprouts up crowded above sprouts found).congr cut)

def mapToChange (files : FileSystem) (path : Path) : PlainMap :=
  if files.due.isNone then map files path else fun _ => none

theorem get?_reading (path : Path) (machine : Machine) :
    (reading path machine).1.get? = mapToChange machine.files path := by
  rw [reading_eq, mapToChange]
  split
  · exact get?_contents machine.files path
  · rfl

theorem map_congr {files after : FileSystem} {path : Path}
    (same : after.content? path = files.content? path) : map after path = map files path := by
  unfold map
  rw [same]

theorem map_of_cut {path : Path} {call : StoreCall} {machine after : Machine}
    (tree : machine.files.IsTree)
    (cut : Cut path machine (Store.onTable call (reading path machine).1).2 after) :
    map after.files path = map machine.files path ∨
      map after.files path = PlainMap.after call (mapToChange machine.files path) ∨
      ComesIntoView path machine.files after.files := by
  rcases cut with same | ready | completed
  · exact .inl (map_congr same)
  · exact (comesIntoView tree ready).imp map_congr .inr
  · right
    left
    rw [← get?_contents, completed, (onTable_plain call _).2, get?_reading]

/-! ## Calls that break off -/

structure Left (path : Path) (call : StoreCall) (files after : FileSystem) : Prop where
  spelled : map after path = map files path ∨
    map after path = PlainMap.after call (mapToChange files path) ∨
    ComesIntoView path files after
  confined : Confined path files after

theorem runFor_confined (path : Path) (call : StoreCall) (machine : Machine) (count : Nat) :
    Confined path machine.files
      ((perform path call).runFor Machine.quiet count machine).files := by
  have steps : ∀ op (state : Machine), Takes path op → Confined path machine.files state.files →
      Confined path machine.files (Machine.quiet op state).2.files := by
    intro op state takes confined
    exact confined.trans (Confined.handle takes state)
  exact Program.runFor_of_through
    (Program.through_of_uses steps (uses_perform path call) (.refl path machine.files)) count

theorem follow_twins {path : Path} {place : Location} {machine other : Machine}
    (twins : TwinMachines path place machine other) (calls : List StoreCall)
    (events events' : List SystemEvent) :
    ∃ after after' more more',
      Turn.follow (calls.map .call) (.file path, machine, events) = (.file path, after, more) ∧
      Turn.follow (calls.map .call) (.file path, other, events') = (.file path, after', more') ∧
      TwinMachines path place after after' := by
  induction calls generalizing machine other events events' with
  | nil => exact ⟨machine, other, events, events', rfl, rfl, twins⟩
  | cons call rest ih =>
    have took (machine : Machine) (events : List SystemEvent) :
        ∃ more, (Turn.call call).take (.file path, machine, events) =
          (.file path, ((perform path call).run Machine.quiet machine).2, more) := by
      obtain ⟨kept, left⟩ := Turn.take_call call (.file path) machine events
      rw [Store.call_file] at kept left
      exact ⟨_, Prod.ext kept (Prod.ext left rfl)⟩
    obtain ⟨more, first⟩ := took machine events
    obtain ⟨more', first'⟩ := took other events'
    rw [List.map_cons, Turn.follow, Turn.follow, first, first']
    exact ih (twins.perform call).2 more more'

theorem map_of_smooth {path : Path} {call : StoreCall} {machine : Machine}
    {events : List SystemEvent}
    (smooth : (perform path call).Along (fun op world => Machine.Succeeds op world.1)
      Machine.handle (machine, events)) :
    map ((perform path call).run Machine.handle (machine, events)).2.1.files path =
      PlainMap.after call (map machine.files path) := by
  have smooth := (Machine.smooth_iff (perform path call) machine events).1 smooth
  obtain ⟨-, held, -⟩ := perform_of_smooth smooth
  rw [(Machine.run_quiet (perform path call) machine events).2, ← get?_contents, held,
    (onTable_plain call _).2, get?_contents]

theorem alike_without_aside {path : Path} {machine : Machine} {bare : FileSystem}
    (removed : machine.files.remove (asidePath path) = .ok bare) (calls : List StoreCall)
    (call : StoreCall) (events : List SystemEvent) :
    let state := Turn.follow (calls.map .call) (.file path, machine, events)
    let state' := Turn.follow (calls.map .call) (.file path, { machine with files := bare }, events)
    ((perform path call).run Machine.handle state.2).1 =
        ((perform path call).run Machine.handle state'.2).1 ∧
      state.2.1.files.content? path = state'.2.1.files.content? path ∧
      ∀ location, ¬Leads machine.files (asidePath path) location →
        state.2.1.files.node? location = state'.2.1.files.node? location := by
  obtain ⟨place, twins⟩ := twins_of_remove removed
  have leads := twins.aside.leads
  have twins : TwinMachines path place machine { machine with files := bare } := ⟨rfl, twins⟩
  obtain ⟨after, after', more, more', ran, ran', twins⟩ := follow_twins twins calls events events
  simp only [ran, ran']
  refine ⟨?_, twins.files.content?.symm, ?_⟩
  · rw [(Machine.run_quiet _ after more).1, (Machine.run_quiet _ after' more').1]
    exact (twins.perform call).1.symm
  · intro location elsewhere
    refine (twins.files.nodes location ?_).symm
    rintro rfl
    exact elsewhere leads

/-- Wherever a call breaks off, the map is the one before or the one after it, and nothing else is
touched; if nothing fails it is the one after it. What is left aside makes no difference to the
calls that follow. -/
theorem perform_left (path : Path) (machine : Machine) (tree : machine.files.IsTree) :
    (∀ (call : StoreCall) (events : List SystemEvent),
      (∀ count, Left path call machine.files
        ((perform path call).runFor Machine.handle count (machine, events)).1.files) ∧
      ((perform path call).Along (fun op world => Machine.Succeeds op world.1) Machine.handle
          (machine, events) →
        ∃ enough, ∀ count, enough ≤ count →
          map ((perform path call).runFor Machine.handle count (machine, events)).1.files path =
            PlainMap.after call (map machine.files path))) ∧
    ∀ bare, machine.files.remove (asidePath path) = .ok bare →
      ∀ (calls : List StoreCall) (call : StoreCall) (events : List SystemEvent),
      let state := Turn.follow (calls.map .call) (.file path, machine, events)
      let state' :=
        Turn.follow (calls.map .call) (.file path, { machine with files := bare }, events)
      ((perform path call).run Machine.handle state.2).1 =
          ((perform path call).run Machine.handle state'.2).1 ∧
        state.2.1.files.content? path = state'.2.1.files.content? path ∧
        ∀ location, ¬Leads machine.files (asidePath path) location →
          state.2.1.files.node? location = state'.2.1.files.node? location := by
  constructor
  · intro call events
    constructor
    · intro count
      rw [Machine.runFor_quiet]
      have cut := Program.runFor_of_through (through_perform path call machine) count
      exact ⟨map_of_cut tree cut, runFor_confined path call machine count⟩
    · intro smooth
      obtain ⟨enough, same⟩ :=
        Program.runFor_of_enough Machine.handle (perform path call) (machine, events)
      refine ⟨enough, ?_⟩
      intro count more
      rw [same count more]
      exact map_of_smooth smooth
  · intro bare removed calls call events
    exact alike_without_aside removed calls call events

def fullDisk : FileSystem :=
  ⟨[(["session.json"], .file (Text.utf8 "\x7b\"token\":\"t\"\x7d")),
    (["session.json.tmp"], .file (Text.utf8 "\x7b\"token\":"))], [],
    [none, none, some ⟨.denied, some 3⟩]⟩

theorem perform_left_full_disk :
    let path : Path := ⟨false, ["session.json"]⟩
    let call := StoreCall.set "theme" "dark"
    let after := ((perform path call).runFor Machine.handle 9 (⟨fullDisk, .empty⟩, [])).1.files
    fullDisk.IsTree ∧ Left path call fullDisk after ∧
      after.node? ["session.json.tmp"] = some (.file (Text.utf8 "\x7b\n ")) ∧
      ∃ bare, fullDisk.remove (asidePath path) = .ok bare ∧
        ((perform path (.get "token")).run Machine.handle (⟨fullDisk, .empty⟩, [])).1 =
          ((perform path (.get "token")).run Machine.handle (⟨bare, .empty⟩, [])).1 := by
  have tree : fullDisk.IsTree := isTree_of_nodes (by decide)
  obtain ⟨left, same⟩ := perform_left ⟨false, ["session.json"]⟩ ⟨fullDisk, .empty⟩ tree
  refine ⟨tree, (left (.set "theme" "dark") []).1 9, by decide +kernel, _, rfl, ?_⟩
  exact (same _ rfl [] (.get "token") []).1

def outOfView : FileSystem :=
  ⟨[(["session.json"], .file (Text.utf8 "\x7b\"token\":\"t\"\x7d")),
    (["session.json.tmp"], .directory)], [], []⟩

theorem set_reveals :
    outOfView.IsTree ∧
      let path : Path := ⟨false, ["missing", "..", "session.json"]⟩
      let call := StoreCall.set "theme" "dark"
      let after := ((perform path call).run Machine.handle (⟨outOfView, .empty⟩, [])).2.1.files
      map after path ≠ map outOfView path ∧
        map after path ≠ PlainMap.after call (map outOfView path) := by
  refine ⟨isTree_of_nodes (by decide), ?_, ?_⟩
  · intro same
    exact absurd (congrFun same "token") (by decide +kernel)
  · intro same
    exact absurd (congrFun same "token") (by decide +kernel)

end PracticeClient.FileStore
