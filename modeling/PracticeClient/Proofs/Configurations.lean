import PracticeClient.Config.File
import PracticeClient.Proofs.ConfigurationTexts
import PracticeClient.Proofs.Storage.Success

namespace PracticeClient.Config

open Json Grammar

/-! ## Files -/

/-- What a configuration file says if nothing fails that is done to it. -/
def found (files : FileSystem) (path : Path) : Except ConfigError Config :=
  ((load path).run Machine.quiet ⟨{ files with mishaps := [] }, .empty⟩).1

theorem run_load (path : Path) (machine : Machine) :
    (load path).run Machine.quiet machine =
      if machine.files.exists? path then
        (match machine.files.due with
          | some mishap => .error (.unreadable path mishap.error)
          | none =>
            match machine.files.read path with
            | .error cause => .error (.unreadable path cause)
            | .ok content => decode content path,
          { machine with files := machine.files.past })
      else (.ok .standard, machine) := by
  unfold load
  rw [Program.bind_eq, FileStore.run_probe]
  split
  · rw [Program.bind_eq, Program.run_bind]
    simp only [System.file, Program.run_ask, Machine.quiet, FileOp.handle_read]
    cases machine.files.due with
    | some mishap => rfl
    | none => cases machine.files.read path <;> rfl
  · rfl

section

variable {files after : FileSystem} {path : Path} {config : Config}

theorem found_eq (files : FileSystem) (path : Path) :
    found files path =
      if files.exists? path then
        match files.read path with
        | .error cause => .error (.unreadable path cause)
        | .ok content => decode content path
      else .ok .standard := by
  rw [found, run_load]
  simp only [FileSystem.exists?_mishaps, FileSystem.read_mishaps]
  split <;> rfl

theorem found_of_content {content : Bytes} (there : files.content? path = some content) :
    found files path = decode content path := by
  have present : files.exists? path = true := by
    cases present : files.exists? path with
    | true => rfl
    | false =>
      rw [FileSystem.content?_eq_none_of_missing present] at there
      cases there
  rw [found_eq, if_pos present, FileSystem.content?_eq_some.1 there]

theorem content_of_found (accepted : found files path = .ok config) :
    (∃ content, files.content? path = some content ∧ decode content path = .ok config) ∨
      files.exists? path = false ∧ config = .standard := by
  rw [found_eq] at accepted
  cases present : files.exists? path with
  | false =>
    rw [present] at accepted
    cases accepted
    exact .inr ⟨rfl, rfl⟩
  | true =>
    rw [if_pos present] at accepted
    cases read : files.read path with
    | error error => simp [read] at accepted
    | ok content =>
      rw [read] at accepted
      exact .inl ⟨content, FileSystem.content?_eq_some.2 read, accepted⟩

theorem found_of_load {machine : Machine}
    (loaded : ((load path).run Machine.quiet machine).1 = .ok config) :
    found machine.files path = .ok config := by
  rw [run_load] at loaded
  rw [found_eq]
  split
  · next present =>
    rw [if_pos present] at loaded
    cases due : machine.files.due with
    | some mishap => simp [due] at loaded
    | none => simpa [due] using loaded
  · next missing => rwa [if_neg missing] at loaded

theorem found_of_grows (grows : FileSystem.Grows files after)
    (same : after.content? path = files.content? path)
    (accepted : found after path = .ok config) : found files path = .ok config := by
  obtain ⟨content, there, read⟩ | ⟨missing, rfl⟩ := content_of_found accepted
  · rw [found_of_content (same.symm.trans there), read]
  · have missing : files.exists? path = false := by
      cases present : files.exists? path with
      | false => rfl
      | true =>
        rw [grows.exists? present] at missing
        cases missing
    rw [found_eq, missing]
    rfl

theorem found_of_save {machine : Machine}
    (saved : ((config.save path).run Machine.quiet machine).1 = .ok ()) :
    found ((config.save path).run Machine.quiet machine).2.files path = .ok config := by
  have written : ((config.save path).run Machine.quiet machine).2.files.content? path =
      some (Text.utf8 config.text) := by
    unfold save at saved ⊢
    rw [Program.bind_eq, Program.run_bind] at saved ⊢
    cases made : ((FileStore.createParent path).run Machine.quiet machine).1 with
    | error error => simp [made] at saved
    | ok _ =>
      simp only [made, Program.bind_eq, Program.run_bind, System.file, Program.run_ask,
        Machine.quiet] at saved ⊢
      have write := (@FileOp.handle_write
        ((FileStore.createParent path).run Machine.quiet machine).2.files path
        (Text.utf8 config.text)).1
      cases wrote : (FileOp.handle (.write path (Text.utf8 config.text))
          ((FileStore.createParent path).run Machine.quiet machine).2.files).1 with
      | error error => simp [wrote] at saved
      | ok _ => exact write wrote
  rw [found_of_content written, decode, Text.decode?_utf8]
  simp only [ofText_text]

end

/-! ## Writing and reading -/

def madeRoom (files : FileSystem) (path : Path) : Except FileError Unit × FileSystem :=
  match path.parent? with
  | some parent => files.createDirectories parent
  | none => (.ok (), files)

/-- Nothing gets in the way of a file: the directories above it can be made, and no directory stands
where it is to stand. -/
structure Writable (files : FileSystem) (path : Path) : Prop where
  calm : files.mishaps = []
  free : ∃ after location, madeRoom files path = (.ok (), after) ∧
    after.writable path = .ok location

theorem handle_of_calm {files : FileSystem} (calm : files.mishaps = []) (op : FileOp) :
    FileOp.handle op files = FileOp.perform op files := by
  unfold FileOp.handle
  rw [calm, ite_self]

theorem mishaps_madeRoom (files : FileSystem) (path : Path) :
    (madeRoom files path).2.mishaps = files.mishaps := by
  unfold madeRoom
  split
  · exact FileSystem.mishaps_createDirectories files _
  · rfl

theorem run_save_of_calm {machine : Machine} (calm : machine.files.mishaps = []) (config : Config)
    (path : Path) :
    (config.save path).run Machine.quiet machine =
      match madeRoom machine.files path with
      | (.error cause, files) => (.error (.unwritable cause), { machine with files })
      | (.ok (), files) =>
        match files.writable path with
        | .error cause => (.error (.unwritable cause), { machine with files })
        | .ok location =>
          (.ok (), { machine with
            files := files.set location (.file (Text.utf8 config.text)) }) := by
  have made : (FileStore.createParent path).run Machine.quiet machine =
      ((madeRoom machine.files path).1,
        { machine with files := (madeRoom machine.files path).2 }) := by
    unfold FileStore.createParent madeRoom
    cases path.parent? with
    | none => rfl
    | some parent =>
      simp only [System.file, Program.run_ask, Machine.quiet, handle_of_calm calm]
      rfl
  have still := (mishaps_madeRoom machine.files path).trans calm
  unfold save
  rw [Program.bind_eq, Program.run_bind, made]
  generalize madeRoom machine.files path = room at still ⊢
  obtain ⟨answer, files⟩ := room
  cases answer with
  | error cause => rfl
  | ok _ =>
    simp only [Program.bind_eq, Program.run_bind, System.file, Program.run_ask, Machine.quiet,
      handle_of_calm still, FileOp.perform, FileSystem.write]
    cases files.writable path <;> rfl

theorem save_eq_ok_iff {machine : Machine} (calm : machine.files.mishaps = []) (config : Config)
    (path : Path) :
    ((config.save path).run Machine.quiet machine).1 = .ok () ↔ Writable machine.files path := by
  rw [run_save_of_calm calm]
  constructor
  · intro saved
    refine ⟨calm, ?_⟩
    split at saved
    · cases saved
    · next after made =>
      split at saved
      · cases saved
      · next location free => exact ⟨after, location, made, free⟩
  · rintro ⟨-, after, location, made, free⟩
    simp only [made, free]

theorem load_of_fine {machine : Machine} (fine : machine.files.due = none) (path : Path) :
    ((load path).run Machine.quiet machine).1 = found machine.files path := by
  rw [run_load, found_eq, fine]
  split <;> rfl

theorem load_after_save {machine : Machine} {path : Path} (config : Config)
    (writable : Writable machine.files path) :
    let saved := (config.save path).run Machine.quiet machine
    saved.1 = .ok () ∧ ((load path).run Machine.quiet saved.2).1 = .ok config := by
  have saved := (save_eq_ok_iff writable.calm config path).2 writable
  refine ⟨saved, ?_⟩
  have calm : ((config.save path).run Machine.quiet machine).2.files.mishaps = [] := by
    have still := (mishaps_madeRoom machine.files path).trans writable.calm
    obtain ⟨calm, after, location, made, free⟩ := writable
    rw [made] at still
    rw [run_save_of_calm calm]
    simp only [made, free]
    exact still
  rw [load_of_fine (by rw [FileSystem.due, calm]; rfl)]
  exact found_of_save saved

theorem load_described {machine : Machine} {path : Path} {text : String} {entries : List Entry}
    {members : List (String × List Char)} {draft : Draft} (fine : machine.files.due = none)
    (there : machine.files.content? path = some (Text.utf8 text))
    (object : IsObject text.toList entries) (named : Named entries members)
    (describes : Describes members draft) :
    ((load path).run Machine.quiet machine).1 = .ok draft.settle := by
  rw [load_of_fine fine, found_of_content there, decode, Text.decode?_utf8]
  simp only [ofText_described object named describes]

/-- What has been saved is loaded as it was. And however an object is spelled, it is loaded as the
standard configuration with what its members say in the place of that. -/
theorem load_faithful (path : Path) :
    (∀ (config : Config) (machine : Machine), Writable machine.files path →
      let saved := (config.save path).run Machine.quiet machine
      saved.1 = .ok () ∧ ((load path).run Machine.quiet saved.2).1 = .ok config) ∧
    ∀ (machine : Machine) (text : String) (entries : List Entry)
      (members : List (String × List Char)) (draft : Draft), machine.files.due = none →
      machine.files.content? path = some (Text.utf8 text) → IsObject text.toList entries →
      Named entries members → Describes members draft →
        ((load path).run Machine.quiet machine).1 = .ok draft.settle :=
  ⟨fun config _ writable => load_after_save config writable,
    fun _ _ _ _ _ fine there object named describes =>
      load_described fine there object named describes⟩

/-! ## Examples -/

def examplePath : Path := ⟨false, ["config.json"]⟩

def holding (text : String) : Machine :=
  ⟨{ FileSystem.empty with nodes := [(["config.json"], .file (Text.utf8 text))] }, .empty⟩

def variedText : String := "\x7b\"x\":[-1], \"\\u006cast_username\" : \"ana\"\x7d\n"

def variedEntries : List Entry :=
  [("x".toList, "[-1]".toList), ("\\u006cast_username".toList, "\"ana\"".toList)]

def variedMembers : List (String × List Char) :=
  [("x", "[-1]".toList), ("last_username", "\"ana\"".toList)]

theorem isWhole_one : IsWhole ['1'] :=
  .positive (by decide) (List.forall_mem_singleton.2 rfl)

theorem isObject_variedText : IsObject variedText.toList variedEntries := by
  have none : Blank [] := nofun
  have space : Blank [' '] := List.forall_mem_singleton.2 rfl
  have lineFeed : Blank ['\n'] := List.forall_mem_singleton.2 rfl
  have minusOne : Derives .value "-1".toList := .number (.negative (.parts isWhole_one .none .none))
  have list : Derives .value "[-1]".toList := .array (.lastItem (.item none minusOne none))
  have ana : Derives .value "\"ana\"".toList := .string (means_escaped "ana".toList).isQuoted
  have name : IsQuoted "\\u006cast_username".toList :=
    .unit (by decide : hexUnit? '0' '0' '6' 'c' = some 108)
      (means_escaped "ast_username".toList).isQuoted
  have first : Derives (.member ("x".toList, "[-1]".toList)) "\"x\":[-1]".toList :=
    .member none (means_escaped "x".toList).isQuoted none (.item none list none)
  have second : Derives (.member ("\\u006cast_username".toList, "\"ana\"".toList))
      " \"\\u006cast_username\" : \"ana\"".toList :=
    .member space name space (.item space ana none)
  exact .object none (.moreMembers first (.lastMember second)) lineFeed

theorem named_variedEntries : Named variedEntries variedMembers :=
  .cons (means_escaped "x".toList) (.cons
    (.unit (by decide : hexUnit? '0' '0' '6' 'c' = some 108) rfl rfl
      (means_escaped "ast_username".toList)) .nil)

theorem load_faithful_varied :
    let config : Config := ⟨"http://h/", 5, .keyring, none⟩
    let saved := (config.save examplePath).run Machine.quiet (holding "\x7b")
    saved.1 = .ok () ∧ ((load examplePath).run Machine.quiet saved.2).1 = .ok config ∧
      ((load examplePath).run Machine.quiet (holding variedText)).1 =
        .ok { standard with lastUsername := some "ana" } := by
  obtain ⟨kept, described⟩ := load_faithful examplePath
  obtain ⟨saved, loaded⟩ := kept ⟨"http://h/", 5, .keyring, none⟩ (holding "\x7b")
    ⟨rfl, (holding "\x7b").files, ["config.json"], rfl, rfl⟩
  have describes : Describes variedMembers ⟨none, none, none, some (some "ana")⟩ :=
    ⟨.nothing (by decide), .nothing (by decide), .nothing (by decide),
      .once (List.singleton_append).symm (by decide) nofun
        (.text (.text (means_escaped "ana".toList)))⟩
  exact ⟨saved, loaded,
    described _ variedText _ _ _ rfl rfl isObject_variedText named_variedEntries describes⟩

def unpairedText : String := "\x7b\"\\ud800\":1\x7d"

theorem load_unpaired :
    IsObject unpairedText.toList [("\\ud800".toList, "1".toList)] ∧
    (∀ text, ¬Means "\\ud800".toList text) ∧
    ((load examplePath).run Machine.quiet (holding unpairedText)).1.toOption = none := by
  have high : hexUnit? 'd' '8' '0' '0' = some 0xD800 := by decide
  refine ⟨?_, ?_, by decide +kernel⟩
  · have none : Blank [] := nofun
    have one : Derives .value "1".toList := .number (.positive (.parts isWhole_one .none .none))
    have member : Derives (.member ("\\ud800".toList, "1".toList)) "\"\\ud800\":1".toList :=
      .member none (.unit high .nil) none (.item none one none)
    exact .object none (.lastMember member) none
  · intro text means
    generalize content : "\\ud800".toList = spelled at means
    cases means with
    | nil => cases content
    | plain quote backslash =>
      cases content
      exact absurd rfl backslash
    | escape known =>
      cases content
      cases known
    | unit digits notLow notHigh =>
      cases content
      cases high.symm.trans digits
      cases notHigh
    | pair => cases content

end PracticeClient.Config
