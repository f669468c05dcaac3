import PracticeClient.Proofs.Client.Standing
import PracticeClient.Proofs.Json.ObjectsOfTexts
import PracticeClient.Proofs.Storage.Success
import PracticeClient.Proofs.Text.Order

namespace PracticeClient

/-! ## Plain maps -/

abbrev PlainMap : Type := String → Option String

namespace PlainMap

def answer : (call : StoreCall) → PlainMap → call.Answer
  | .get key, map => map key
  | .set _ _, _ => ()
  | .remove _, _ => ()
  | .setMany _, _ => ()
  | .removeMany _, _ => ()

def after : StoreCall → PlainMap → PlainMap
  | .get _, map => map
  | .set key value, map => fun other => if other = key then some value else map other
  | .remove key, map => fun other => if other = key then none else map other
  | .setMany entries, map => fun other => (entries.reverse.lookup other).or (map other)
  | .removeMany keys, map => fun other => if other ∈ keys then none else map other

end PlainMap

def StoreCall.keys : StoreCall → List String
  | .get _ => []
  | .set key _ => [key]
  | .remove key => [key]
  | .setMany entries => entries.map Prod.fst
  | .removeMany keys => keys

theorem PlainMap.after_elsewhere {call : StoreCall} {key : String} (free : key ∉ call.keys)
    (map : PlainMap) : map.after call key = map key := by
  cases call with
  | get other => rfl
  | set other value => exact if_neg fun same => free (List.mem_singleton.2 same)
  | remove other => exact if_neg fun same => free (List.mem_singleton.2 same)
  | setMany entries =>
    have absent : entries.reverse.lookup key = none := by
      rw [List.lookup_eq_none_iff]
      intro entry member
      rw [bne_iff_ne]
      rintro rfl
      exact free (List.mem_map.2 ⟨entry, List.mem_reverse.1 member, rfl⟩)
    simp only [after, absent, Option.none_or]
  | removeMany keys => exact if_neg free

theorem onTable_plain (call : StoreCall) (table : Table String) :
    (Store.onTable call table).1 = PlainMap.answer call table.get? ∧
      (Store.onTable call table).2.get? = PlainMap.after call table.get? := by
  cases call with
  | get key => exact ⟨rfl, rfl⟩
  | set key value =>
    refine ⟨rfl, funext fun other => ?_⟩
    exact Table.get?_insert table key other value
  | remove key =>
    refine ⟨rfl, funext fun other => ?_⟩
    exact Table.get?_erase table key other
  | setMany entries =>
    refine ⟨rfl, funext fun other => ?_⟩
    exact Table.get?_insertMany table entries other
  | removeMany keys =>
    refine ⟨rfl, funext fun other => ?_⟩
    exact Table.get?_eraseMany table keys other

/-! ## Files -/

namespace FileStore

open FileSystem

/-- The members of the object of strings that a file spells. Any other file has none. -/
def members (content : Bytes) : List (String × String) :=
  ((Text.decode? content).bind fun text => (Json.Document.ofText text).pairs?).getD []

theorem decode_members (content : Bytes) :
    (decode content).toOption.getD .empty = Table.ofList (members content) := by
  unfold decode members
  cases Text.decode? content with
  | none => rfl
  | some text =>
    simp only [Option.bind_some]
    by_cases blank : text.toList.all Text.isBlank = true
    · rw [if_pos blank, Json.pairs?_of_blank blank]
      rfl
    · rw [if_neg blank]
      have decoded := Json.decode_texts text
      cases read : Json.decode Json.Tree.texts text with
      | error fault =>
        rw [read] at decoded
        cases pairs : (Json.Document.ofText text).pairs? with
        | none => rfl
        | some pairs' => simp [pairs, Except.toOption] at decoded
      | ok table =>
        rw [read] at decoded
        cases pairs : (Json.Document.ofText text).pairs? with
        | none => simp [pairs, Except.toOption] at decoded
        | some pairs' =>
          rw [pairs] at decoded
          exact Option.some.inj decoded

def map (files : FileSystem) (path : Path) : PlainMap := fun key =>
  (((files.content? path).map members).getD []).reverse.lookup key

theorem get?_contents (files : FileSystem) (path : Path) :
    (contents files path).get? = map files path := by
  funext key
  unfold contents map
  cases files.content? path with
  | none => rfl
  | some content =>
    simp only [decode_members, Table.get?_ofList]
    rfl

/-- A table that has been written out, or has been left out for being empty. -/
def Written (table : Table String) (files : FileSystem) (path : Path) : Prop :=
  if table.isEmpty then files.exists? path = false else files.content? path = some (encode table)

/-- There is no file for an empty map, and for any other map it has one text only: its members in
the order of the bytes of their keys. -/
structure Canonical (map : PlainMap) (files : FileSystem) (path : Path) : Prop where
  absent : files.exists? path = false ↔ ∀ key, map key = none
  text : files.exists? path = true → ∃ entries : List (String × String),
    entries.Pairwise (fun first second => Text.utf8 first.1 < Text.utf8 second.1) ∧
      (∀ key, entries.lookup key = map key) ∧
      files.read path = .ok (Text.utf8 (Json.Value.object (Json.stringMembers entries)).pretty)

theorem exists?_of_content {files : FileSystem} {path : Path} {content : Bytes}
    (there : files.content? path = some content) : files.exists? path = true := by
  cases present : files.exists? path with
  | true => rfl
  | false =>
    rw [content?_eq_none_of_missing present] at there
    cases there

theorem canonical_of_written {table : Table String} {files : FileSystem} {path : Path}
    (written : Written table files path) : Canonical table.get? files path := by
  unfold Written at written
  cases empty : table.isEmpty with
  | true =>
    rw [empty, if_pos rfl] at written
    refine ⟨iff_of_true written ?_, fun present => absurd present (by simp [written])⟩
    intro key
    rw [eq_empty_of_isEmpty empty]
    rfl
  | false =>
    rw [empty, if_neg (by simp)] at written
    have present := exists?_of_content written
    refine ⟨iff_of_false (by simp [present]) ?_, fun _ => ?_⟩
    · intro none
      have same : table = .empty := Table.ext_get? none
      rw [same] at empty
      cases empty
    · refine ⟨table.entries, table.sorted.imp Text.utf8_lt_utf8, ?_, content?_eq_some.1 written⟩
      intro key
      rfl

theorem eq_of_written {table : Table String} {files files' : FileSystem} {path path' : Path}
    (written : Written table files path) (written' : Written table files' path') :
    files'.exists? path' = files.exists? path ∧ files'.content? path' = files.content? path := by
  unfold Written at written written'
  split at written
  · next empty =>
    rw [if_pos empty] at written'
    rw [written, written', content?_eq_none_of_missing written, content?_eq_none_of_missing written']
    exact ⟨rfl, rfl⟩
  · next some =>
    rw [if_neg some] at written'
    rw [written, written', exists?_of_content written, exists?_of_content written']
    exact ⟨rfl, rfl⟩

theorem update_of_smooth {path : Path} {keys : List String}
    {change : Table String → Table String} {machine : Machine}
    (smooth : Machine.Smooth (update path keys change) machine) :
    contents ((update path keys change).run Machine.quiet machine).2.files path =
        change (contents machine.files path) ∧
      Written (change (contents machine.files path))
        ((update path keys change).run Machine.quiet machine).2.files path := by
  obtain ⟨read, done⟩ := attempt_of_smooth smooth
  have held := contents_of_attempt done
  rw [run_update, ← read]
  refine ⟨held, ?_⟩
  rw [run_attempt] at done ⊢
  exact run_writeEntries done

theorem perform_of_smooth {path : Path} {call : StoreCall} {machine : Machine}
    (smooth : Machine.Smooth (perform path call) machine) :
    ((perform path call).run Machine.quiet machine).1 =
        (Store.onTable call (contents machine.files path)).1 ∧
      contents ((perform path call).run Machine.quiet machine).2.files path =
        (Store.onTable call (contents machine.files path)).2 ∧
      (call.isChange = true → Written (Store.onTable call (contents machine.files path)).2
        ((perform path call).run Machine.quiet machine).2.files path) := by
  cases call with
  | get key =>
    have read : (reading path machine).1 = contents machine.files path := by
      have smooth : Machine.Smooth (get path key) machine := smooth
      unfold get at smooth
      rw [Program.bind_eq, Machine.smooth_bind] at smooth
      exact reading_of_smooth smooth.1
    have ran : (perform path (.get key)).run Machine.quiet machine =
        ((reading path machine).1.get? key, (reading path machine).2) := run_get path key machine
    rw [ran, read]
    exact ⟨rfl, contents_congr (reading_content path machine path), fun changes => by cases changes⟩
  | set key value =>
    obtain ⟨held, written⟩ := update_of_smooth smooth.2
    exact ⟨rfl, held, fun _ => written⟩
  | remove key =>
    obtain ⟨held, written⟩ := update_of_smooth smooth.2
    exact ⟨rfl, held, fun _ => written⟩
  | setMany entries =>
    obtain ⟨held, written⟩ := update_of_smooth smooth.2
    exact ⟨rfl, held, fun _ => written⟩
  | removeMany keys =>
    obtain ⟨held, written⟩ := update_of_smooth smooth.2
    exact ⟨rfl, held, fun _ => written⟩

end FileStore

/-! ## Keychains -/

theorem PlainMap.eq_of_elsewhere {map changed : PlainMap} {key : String} {value : Option String}
    (here : changed key = value) (elsewhere : ∀ other, other ≠ key → changed other = map other) :
    changed = fun other => if other = key then value else map other := by
  funext other
  by_cases same : other = key
  · rw [if_pos same, same, here]
  · rw [if_neg same, elsewhere other same]

theorem KeychainStore.perform_of_smooth {store : KeychainStore} {call : StoreCall}
    {machine : Machine} (smooth : Machine.Smooth (perform call store) machine) :
    ∃ used keychain,
      (perform call store).run Machine.quiet machine =
        ((PlainMap.answer call (store.held machine.keychain), used),
          onKeychain machine keychain) ∧
      used.held keychain = PlainMap.after call (store.held machine.keychain) := by
  cases call with
  | get key =>
    obtain ⟨used, keychain, ran, values⟩ := get_of_smooth smooth
    exact ⟨used, keychain, ran, funext values⟩
  | set key value =>
    obtain ⟨first, -⟩ := (Machine.smooth_bind _ _ machine).1 smooth
    obtain ⟨used, keychain, ran, here, elsewhere⟩ := set_of_smooth first
    refine ⟨used, keychain, ?_, PlainMap.eq_of_elsewhere here elsewhere⟩
    rw [perform, Program.bind_eq, Program.run_bind, ran]
    rfl
  | remove key =>
    obtain ⟨first, -⟩ := (Machine.smooth_bind _ _ machine).1 smooth
    obtain ⟨used, keychain, ran, here, elsewhere⟩ := remove_of_smooth first
    refine ⟨used, keychain, ?_, PlainMap.eq_of_elsewhere here elsewhere⟩
    rw [perform, Program.bind_eq, Program.run_bind, ran]
    rfl
  | setMany entries =>
    obtain ⟨first, -⟩ := (Machine.smooth_bind _ _ machine).1 smooth
    obtain ⟨used, keychain, ran, values⟩ := setAfter_of_smooth first
    refine ⟨used, keychain, ?_, funext values⟩
    rw [perform, Program.bind_eq, Program.run_bind, setMany, ran]
    rfl
  | removeMany keys =>
    obtain ⟨first, -⟩ := (Machine.smooth_bind _ _ machine).1 smooth
    obtain ⟨used, keychain, ran, values⟩ := removeMany_of_smooth first
    refine ⟨used, keychain, ?_, funext values⟩
    rw [perform, Program.bind_eq, Program.run_bind, ran]
    rfl

/-! ## One call -/

theorem Machine.smooth_iff {α : Type} (program : System α) (machine : Machine)
    (events : List SystemEvent) :
    program.Along (fun op world => Succeeds op world.1) handle (machine, events) ↔
      Smooth program machine := by
  induction program generalizing machine events with
  | done value => exact Iff.rfl
  | step op next ih =>
    obtain ⟨answer, after⟩ := handle_quiet op machine events
    have rest := ih (handle op (machine, events)).1 (handle op (machine, events)).2.1
      (handle op (machine, events)).2.2
    rw [answer, after] at rest
    rw [Smooth, Program.along_step, Program.along_step, answer]
    have same : (handle op (machine, events)).2 =
        ((quiet op machine).2, (handle op (machine, events)).2.2) := Prod.ext after rfl
    rw [same]
    exact and_congr Iff.rfl rest

namespace Store

def path? : Store → Option Path
  | .file path => some path
  | _ => none

def map (machine : Machine) : Store → PlainMap
  | .file path => FileStore.map machine.files path
  | store => store.held machine

theorem held_eq_map (store : Store) (machine : Machine) : store.held machine = store.map machine := by
  cases store with
  | file path => exact FileStore.get?_contents machine.files path
  | _ => rfl

theorem call_of_smooth {call : StoreCall} {store : Store} {machine : Machine}
    (smooth : Machine.Smooth (store.perform call) machine) :
    (Store.call call store machine).1.1 = PlainMap.answer call (store.held machine) ∧
      (Store.call call store machine).1.2.held (Store.call call store machine).2 =
        PlainMap.after call (store.held machine) ∧
      (Store.call call store machine).1.2.path? = store.path? := by
  cases store with
  | memory table =>
    obtain ⟨answered, left⟩ := onTable_plain call table
    exact ⟨answered, left, rfl⟩
  | batching table =>
    obtain ⟨answered, left⟩ := onTable_plain call table
    exact ⟨answered, left, rfl⟩
  | plain table =>
    obtain ⟨answered, left⟩ := onTable_plain call table
    rw [call_plain]
    exact ⟨answered, left, rfl⟩
  | file path =>
    obtain ⟨smooth, -⟩ := (Machine.smooth_bind _ _ machine).1 smooth
    obtain ⟨answered, held, -⟩ := FileStore.perform_of_smooth smooth
    obtain ⟨answer, left⟩ := onTable_plain call (FileStore.contents machine.files path)
    rw [call_file]
    refine ⟨answered.trans answer, ?_, rfl⟩
    exact (congrArg Table.get? held).trans left
  | keychain store =>
    obtain ⟨smooth, -⟩ := (Machine.smooth_bind _ _ machine).1 smooth
    obtain ⟨used, keychain, ran, values⟩ := KeychainStore.perform_of_smooth smooth
    rw [call_keychain, ran]
    exact ⟨rfl, values, rfl⟩

end Store

/-! ## Any number of calls -/

inductive Turn where
  | call (call : StoreCall)
  | outside (files : FileSystem)

namespace Turn

abbrev State : Type := Store × Machine × List SystemEvent

def take : Turn → State → State
  | .call order, (store, world) =>
    let ((_, store), world) := (store.perform order).run Machine.handle world
    (store, world)
  | .outside files, (store, machine, events) => (store, { machine with files }, events)

def follow : List Turn → State → State
  | [], state => state
  | turn :: rest, state => follow rest (turn.take state)

def AllSmooth : List Turn → State → Prop
  | [], _ => True
  | .call order :: rest, (store, world) =>
    (store.perform order).Along (fun op world => Machine.Succeeds op world.1) Machine.handle world ∧
      AllSmooth rest ((Turn.call order).take (store, world))
  | .outside files :: rest, state => AllSmooth rest ((Turn.outside files).take state)

instance decidableAllSmooth :
    (turns : List Turn) → (state : State) → Decidable (AllSmooth turns state)
  | [], _ => inferInstanceAs (Decidable True)
  | .call order :: rest, (store, world) =>
    have : Decidable (AllSmooth rest ((call order).take (store, world))) :=
      decidableAllSmooth rest ((call order).take (store, world))
    inferInstanceAs (Decidable (_ ∧ _))
  | .outside files :: rest, state => decidableAllSmooth rest ((outside files).take state)

/-- What a turn makes of a plain map, which may stand for a file. -/
def takeOnMap (path? : Option Path) : Turn → PlainMap → PlainMap
  | .call order, map => map.after order
  | .outside files, map =>
    match path? with
    | some path => FileStore.map files path
    | none => map

def followOnMap (path? : Option Path) : List Turn → PlainMap → PlainMap
  | [], map => map
  | turn :: rest, map => followOnMap path? rest (turn.takeOnMap path? map)

theorem take_call (order : StoreCall) (store : Store) (machine : Machine)
    (events : List SystemEvent) :
    ((call order).take (store, machine, events)).1 = (Store.call order store machine).1.2 ∧
      ((call order).take (store, machine, events)).2.1 = (Store.call order store machine).2 := by
  obtain ⟨answered, left⟩ := Machine.run_quiet (store.perform order) machine events
  refine ⟨?_, left⟩
  rw [Store.call, ← answered]
  rfl

theorem smooth_of_append {turns : List Turn} {last : StoreCall} {state : State}
    (smooth : AllSmooth (turns ++ [.call last]) state) :
    AllSmooth turns state ∧
      Machine.Smooth ((follow turns state).1.perform last) (follow turns state).2.1 := by
  induction turns generalizing state with
  | nil =>
    obtain ⟨store, machine, events⟩ := state
    exact ⟨trivial, (Machine.smooth_iff _ machine events).1 smooth.1⟩
  | cons turn rest ih =>
    cases turn with
    | call first =>
      obtain ⟨now, later⟩ := smooth
      obtain ⟨before, last⟩ := ih later
      exact ⟨⟨now, before⟩, last⟩
    | outside files => exact ih smooth

theorem held_follow {turns : List Turn} {state : State} (smooth : AllSmooth turns state) :
    (follow turns state).1.held (follow turns state).2.1 =
        followOnMap state.1.path? turns (state.1.held state.2.1) ∧
      (follow turns state).1.path? = state.1.path? := by
  induction turns generalizing state with
  | nil => exact ⟨rfl, rfl⟩
  | cons turn rest ih =>
    obtain ⟨store, machine, events⟩ := state
    cases turn with
    | call order =>
      obtain ⟨now, later⟩ := smooth
      obtain ⟨-, held, path⟩ := Store.call_of_smooth ((Machine.smooth_iff _ machine events).1 now)
      obtain ⟨kept, left⟩ := take_call order store machine events
      rw [← kept] at path
      rw [← kept, ← left] at held
      obtain ⟨held', path'⟩ := ih later
      rw [path, held] at held'
      exact ⟨held', path'.trans path⟩
    | outside files =>
      obtain ⟨held, path⟩ := ih smooth
      refine ⟨held.trans (congrArg (followOnMap store.path? rest) ?_), path⟩
      cases store with
      | file there => exact FileStore.get?_contents files there
      | _ => rfl

end Turn

structure SmoothRun where
  store : Store
  machine : Machine
  events : List SystemEvent
  turns : List Turn
  last : StoreCall
  smooth : Turn.AllSmooth (turns ++ [.call last]) (store, machine, events)

namespace SmoothRun

def before (run : SmoothRun) : Turn.State :=
  Turn.follow run.turns (run.store, run.machine, run.events)

def result (run : SmoothRun) : (run.last.Answer × Store) × Machine × List SystemEvent :=
  (run.before.1.perform run.last).run Machine.handle run.before.2

def answer (run : SmoothRun) : run.last.Answer :=
  run.result.1.1

def filesBefore (run : SmoothRun) : FileSystem :=
  run.before.2.1.files

def files (run : SmoothRun) : FileSystem :=
  run.result.2.1.files

def mapBefore (run : SmoothRun) : PlainMap :=
  Turn.followOnMap run.store.path? run.turns (run.store.map run.machine)

def map (run : SmoothRun) : PlainMap :=
  run.mapBefore.after run.last

theorem held_before (run : SmoothRun) :
    run.before.1.held run.before.2.1 = run.mapBefore ∧ run.before.1.path? = run.store.path? := by
  obtain ⟨held, path⟩ := Turn.held_follow (Turn.smooth_of_append run.smooth).1
  refine ⟨held.trans ?_, path⟩
  exact congrArg (Turn.followOnMap run.store.path? run.turns) (run.store.held_eq_map run.machine)

theorem smooth_last (run : SmoothRun) :
    Machine.Smooth (run.before.1.perform run.last) run.before.2.1 :=
  (Turn.smooth_of_append run.smooth).2

theorem answer_eq (run : SmoothRun) : run.answer = run.mapBefore.answer run.last := by
  have answered := (Machine.run_quiet (run.before.1.perform run.last) run.before.2.1 run.before.2.2).1
  obtain ⟨answer, -, -⟩ := Store.call_of_smooth run.smooth_last
  rw [run.held_before.1] at answer
  exact (congrArg Prod.fst answered).trans answer

theorem file_before {run : SmoothRun} {path : Path} (file : run.store = .file path) :
    run.before.1 = .file path := by
  have same := run.held_before.2
  rw [file] at same
  cases store : run.before.1 with
  | file other =>
    rw [store] at same
    cases same
    rfl
  | _ =>
    rw [store] at same
    cases same

theorem file_after {run : SmoothRun} {path : Path} (file : run.store = .file path) :
    FileStore.map run.filesBefore path = run.mapBefore ∧
      ∃ table : Table String, table.get? = run.map ∧
        FileStore.contents run.files path = table ∧
        (run.last.isChange = true → FileStore.Written table run.files path) := by
  have store := file_before file
  have held := run.held_before.1
  have smooth := run.smooth_last
  rw [store] at held smooth
  have files : run.files =
      ((FileStore.perform path run.last).run Machine.quiet run.before.2.1).2.files := by
    unfold SmoothRun.files result
    rw [store]
    have left := (Machine.run_quiet ((Store.file path).perform run.last) run.before.2.1
      run.before.2.2).2
    have called := congrArg Prod.snd (Store.call_file run.last path run.before.2.1)
    exact congrArg Machine.files (left.trans called)
  obtain ⟨smooth, -⟩ := (Machine.smooth_bind _ _ run.before.2.1).1 smooth
  obtain ⟨-, after, written⟩ := FileStore.perform_of_smooth smooth
  have plain := (onTable_plain run.last (FileStore.contents run.before.2.1.files path)).2
  have held : (FileStore.contents run.before.2.1.files path).get? = run.mapBefore := held
  rw [held] at plain
  rw [← files] at after written
  exact ⟨(FileStore.get?_contents _ path).symm.trans held, _, plain, after, written⟩

/-- As long as nothing fails, a store answers as a plain map, a file store works on the map that
its file spells at the time and leaves it in the one way this map is written. -/
theorem as_plain_map (run : SmoothRun) :
    run.answer = run.mapBefore.answer run.last ∧
      ∀ path, run.store = .file path →
        FileStore.map run.filesBefore path = run.mapBefore ∧
        FileStore.map run.files path = run.map ∧
        (∀ key, key ∉ run.last.keys →
          FileStore.map run.files path key = FileStore.map run.filesBefore path key) ∧
        (run.last.isChange = true →
          FileStore.Canonical run.map run.files path ∧
            ∀ (other : SmoothRun) (path' : Path), other.store = .file path' →
              other.last.isChange = true → other.map = run.map →
              other.files.exists? path' = run.files.exists? path ∧
                other.files.content? path' = run.files.content? path) := by
  refine ⟨run.answer_eq, ?_⟩
  intro path file
  obtain ⟨before, table, plain, contents, written⟩ := file_after file
  have after : FileStore.map run.files path = run.map := by
    rw [← FileStore.get?_contents, contents, plain]
  refine ⟨before, after, ?_, ?_⟩
  · intro key free
    rw [after, before]
    exact PlainMap.after_elsewhere free run.mapBefore
  · intro changes
    refine ⟨plain ▸ FileStore.canonical_of_written (written changes), ?_⟩
    intro other path' file' changes' same
    obtain ⟨-, table', plain', -, written'⟩ := file_after file'
    have alike : table' = table := by
      apply Table.ext_get?
      intro key
      rw [plain', plain, same]
    exact FileStore.eq_of_written (written changes) (alike ▸ written' changes')

def crossing : SmoothRun where
  store := .file ⟨false, ["session.json"]⟩
  machine := ⟨.empty, .empty⟩
  events := []
  turns := [.call (.setMany [("b", "1"), ("a", "2"), ("b", "3")]),
    .outside ⟨[(["session.json"], .file (Text.utf8 "\x7b\"t\":\"1\",\"t\":\"2\"\x7d"))], [], []⟩]
  last := .set "a" "\n"
  smooth := by decide +kernel

theorem as_plain_map_crossing :
    crossing.map "t" = some "2" ∧ crossing.map "a" = some "\n" ∧ crossing.map "b" = none ∧
      FileStore.Canonical crossing.map crossing.files ⟨false, ["session.json"]⟩ := by
  obtain ⟨-, file⟩ := crossing.as_plain_map
  obtain ⟨-, -, -, canonical⟩ := file ⟨false, ["session.json"]⟩ rfl
  exact ⟨by decide +kernel, by decide +kernel, by decide +kernel, (canonical rfl).1⟩

end SmoothRun

end PracticeClient
