import PracticeClient.Proofs.Files.NewDirectories
import PracticeClient.Proofs.Runs
import PracticeClient.Storage.System

namespace PracticeClient

namespace Machine

def quiet : Program.Handler SystemOp SystemOp.Answer Machine
  | .file op, machine =>
    let (answer, files) := FileOp.handle op machine.files
    (answer, { machine with files })
  | .keychain op, machine =>
    let (answer, keychain) := Keychain.handle op machine.keychain
    (answer, { machine with keychain })
  | .log _, machine => ((), machine)
  | .announce _, machine => ((), machine)

theorem handle_quiet (op : SystemOp) (machine : Machine) (events : List SystemEvent) :
    (handle op (machine, events)).1 = (quiet op machine).1 ∧
      (handle op (machine, events)).2.1 = (quiet op machine).2 := by
  cases op <;> exact ⟨rfl, rfl⟩

theorem run_quiet {α : Type} (program : System α) (machine : Machine)
    (events : List SystemEvent) :
    (program.run handle (machine, events)).1 = (program.run quiet machine).1 ∧
      (program.run handle (machine, events)).2.1 = (program.run quiet machine).2 := by
  induction program generalizing machine events with
  | done value => exact ⟨rfl, rfl⟩
  | step op next ih =>
    obtain ⟨answer, after⟩ := handle_quiet op machine events
    rw [Program.run_step, Program.run_step, answer, ← after]
    exact ih _ _ _

theorem runFor_quiet {α : Type} (program : System α) (count : Nat) (machine : Machine)
    (events : List SystemEvent) :
    (program.runFor handle count (machine, events)).1 = program.runFor quiet count machine := by
  induction count generalizing program machine events with
  | zero => rfl
  | succ count ih =>
    cases program with
    | done value => rfl
    | step op next =>
      obtain ⟨answer, after⟩ := handle_quiet op machine events
      rw [Program.runFor, Program.runFor, answer, ← after]
      exact ih _ _ _

end Machine

/-! ## Mishaps -/

namespace FileSystem

def due (fs : FileSystem) : Option Mishap :=
  fs.mishaps.head?.join

def past (fs : FileSystem) : FileSystem :=
  { fs with mishaps := fs.mishaps.tail }

def content? (fs : FileSystem) (path : Path) : Option Bytes :=
  (fs.read path).toOption

theorem content?_eq_some {fs : FileSystem} {path : Path} {content : Bytes} :
    fs.content? path = some content ↔ fs.read path = .ok content := by
  unfold content?
  cases fs.read path with
  | error error => simp [Except.toOption]
  | ok found => simp [Except.toOption]

theorem content?_congr {fs after : FileSystem} {path : Path}
    (same : ∀ content, after.read path = .ok content ↔ fs.read path = .ok content) :
    after.content? path = fs.content? path := by
  apply Option.ext
  intro content
  rw [content?_eq_some, content?_eq_some]
  exact same content

theorem content?_eq_none_of_missing {fs : FileSystem} {path : Path}
    (missing : fs.exists? path = false) : fs.content? path = none := by
  unfold exists? at missing
  unfold content? FileSystem.read
  cases located : fs.locate path with
  | error error => rfl
  | ok location => simp [located] at missing

theorem walk_mishaps (fs : FileSystem) (mishaps : List (Option Mishap)) (start : Location)
    (pieces : List String) :
    FileSystem.walk { fs with mishaps } start pieces = fs.walk start pieces := by
  induction pieces generalizing start with
  | nil => rfl
  | cons piece rest ih =>
    have stepped : FileSystem.step { fs with mishaps } start piece = fs.step start piece := rfl
    rw [walk, walk, stepped]
    cases fs.step start piece with
    | error error => rfl
    | ok next => exact ih next

theorem locate_mishaps (fs : FileSystem) (mishaps : List (Option Mishap)) (path : Path) :
    FileSystem.locate { fs with mishaps } path = fs.locate path := by
  unfold locate
  rw [walk_mishaps]
  rfl

theorem exists?_mishaps (fs : FileSystem) (mishaps : List (Option Mishap)) (path : Path) :
    FileSystem.exists? { fs with mishaps } path = fs.exists? path := by
  rw [exists?, locate_mishaps, exists?]

theorem read_mishaps (fs : FileSystem) (mishaps : List (Option Mishap)) (path : Path) :
    FileSystem.read { fs with mishaps } path = fs.read path := by
  unfold FileSystem.read
  rw [locate_mishaps]
  rfl

theorem content?_mishaps (fs : FileSystem) (mishaps : List (Option Mishap)) (path : Path) :
    FileSystem.content? { fs with mishaps } path = fs.content? path := by
  rw [content?, read_mishaps, content?]

theorem content?_past (fs : FileSystem) (path : Path) :
    fs.past.content? path = fs.content? path :=
  content?_mishaps fs fs.mishaps.tail path

end FileSystem

/-! ## Operations on files -/

namespace FileOp

open FileSystem

theorem handle_eq {op : FileOp} (real : op.isProbe = false) (fs : FileSystem) :
    handle op fs = match fs.due with
      | none => perform op fs.past
      | some mishap => fail mishap op fs.past := by
  obtain ⟨nodes, here, mishaps⟩ := fs
  unfold handle
  rw [if_neg (by simp [real])]
  cases mishaps with
  | nil => rfl
  | cons mishap rest => cases mishap <;> rfl

theorem handle_read (fs : FileSystem) (path : Path) :
    handle (.read path) fs = (match fs.due with
      | none => fs.read path
      | some mishap => .error mishap.error, fs.past) := by
  rw [handle_eq rfl]
  cases fs.due with
  | none =>
    have read : fs.past.read path = fs.read path := read_mishaps fs fs.mishaps.tail path
    simp only [perform, read]
  | some mishap => rfl

theorem settle_cases (fs : FileSystem) (result : Except FileError FileSystem) :
    (∃ after, result = .ok after ∧ settle fs result = (.ok (), after)) ∨
      ∃ error, result = .error error ∧ settle fs result = (.error error, fs) := by
  cases result with
  | error error => exact .inr ⟨error, rfl, rfl⟩
  | ok after => exact .inl ⟨after, rfl, rfl⟩

theorem settle_induction {motive : FileSystem → Prop} {fs : FileSystem}
    {result : Except FileError FileSystem} (start : motive fs)
    (done : ∀ after, result = .ok after → motive after) : motive (settle fs result).2 := by
  cases result with
  | error error => exact start
  | ok after => exact done after rfl

theorem handle_write {fs : FileSystem} {path : Path} {content : Bytes} :
    ((handle (.write path content) fs).1 = .ok () →
        (handle (.write path content) fs).2.content? path = some content) ∧
      ∀ {other : Path}, Apart path other →
        (handle (.write path content) fs).2.content? other = fs.content? other := by
  -- A write that breaks off is a write of less.
  have elsewhere {other : Path} (apart : Apart path other) (written : Bytes) :
      (settle fs.past (fs.past.write path written)).2.content? other = fs.content? other := by
    obtain ⟨after, done, settled⟩ | ⟨error, -, settled⟩ :=
      settle_cases fs.past (fs.past.write path written)
    · rw [settled, content?_congr (apart.read_of_write done), content?_past]
    · rw [settled, content?_past]
  rw [handle_eq rfl]
  cases fs.due with
  | none =>
    refine ⟨fun succeeded => ?_, fun apart => elsewhere apart content⟩
    obtain ⟨after, done, settled⟩ | ⟨error, -, settled⟩ :=
      settle_cases fs.past (fs.past.write path content)
    · simp only [perform, settled]
      exact content?_eq_some.2 (read_of_write done)
    · simp [perform, settled] at succeeded
  | some mishap =>
    refine ⟨fun succeeded => by simp [fail] at succeeded, fun apart => ?_⟩
    simp only [fail]
    cases mishap.written with
    | none => exact content?_past fs _
    | some written => exact elsewhere apart (content.take written)

theorem handle_rename {fs : FileSystem} {source destination : Path} :
    ((handle (.rename source destination) fs).1 = .ok () →
        ∀ content, fs.content? source = some content →
          (handle (.rename source destination) fs).2.content? destination = some content) ∧
      ∀ error, (handle (.rename source destination) fs).1 = .error error →
        ∀ path, (handle (.rename source destination) fs).2.content? path = fs.content? path := by
  rw [handle_eq rfl]
  cases fs.due with
  | none =>
    obtain ⟨after, done, settled⟩ | ⟨error, -, settled⟩ :=
      settle_cases fs.past (fs.past.rename source destination)
    · simp only [perform, settled]
      refine ⟨fun _ content there => ?_, fun error failed => by cases failed⟩
      rw [← content?_past, content?_eq_some] at there
      exact content?_eq_some.2 (read_of_rename done there)
    · refine ⟨fun succeeded => by simp [perform, settled] at succeeded, fun _ _ path => ?_⟩
      simp only [perform, settled]
      exact content?_past fs path
  | some mishap =>
    exact ⟨fun succeeded => by simp [fail] at succeeded, fun _ _ path => content?_past fs path⟩

theorem handle_remove {fs : FileSystem} {path : Path} :
    ((handle (.remove path) fs).1 = .ok () →
        (handle (.remove path) fs).2.exists? path = false) ∧
      ∀ error, (handle (.remove path) fs).1 = .error error →
        ∀ other, (handle (.remove path) fs).2.content? other = fs.content? other := by
  rw [handle_eq rfl]
  cases fs.due with
  | none =>
    obtain ⟨after, done, settled⟩ | ⟨error, -, settled⟩ :=
      settle_cases fs.past (fs.past.remove path)
    · simp only [perform, settled]
      refine ⟨fun _ => exists?_of_remove done, fun error failed => by cases failed⟩
    · refine ⟨fun succeeded => by simp [perform, settled] at succeeded, fun _ _ other => ?_⟩
      simp only [perform, settled]
      exact content?_past fs other
  | some mishap =>
    exact ⟨fun succeeded => by simp [fail] at succeeded, fun _ _ other => content?_past fs other⟩

theorem handle_createDirectories {fs : FileSystem} {directory path : Path} {content : Bytes}
    (there : fs.content? path = some content) :
    (handle (.createDirectories directory) fs).2.content? path = some content := by
  rw [← content?_past, content?_eq_some] at there
  rw [handle_eq rfl]
  cases fs.due with
  | none =>
    exact content?_eq_some.2 ((createDirectories_sprouts fs.past directory).grows.read there)
  | some mishap => exact content?_eq_some.2 there

end FileOp

end PracticeClient
