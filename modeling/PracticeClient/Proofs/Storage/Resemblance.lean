import PracticeClient.Proofs.Storage.KeptSession

/-!
# Machines that resemble each other

Two machines may have the same files and the same secrets but for what some files contain. A program
that never reads these files goes the same way on both, and leaves them resembling each other.
-/

namespace PracticeClient

namespace FileSystem

def blank : Node → Node
  | .directory => .directory
  | .file _ => .file []

/-- Two trees with everything in the same places, alike but for what files of some names contain. -/
structure Resembles (names : List String) (fs other : FileSystem) : Prop where
  here : other.here = fs.here
  mishaps : other.mishaps = fs.mishaps
  kinds : ∀ location, (other.node? location).map blank = (fs.node? location).map blank
  nodes : ∀ location, (∀ name ∈ names, location.getLast? ≠ some name) →
    other.node? location = fs.node? location

namespace Resembles

variable {names : List String} {fs other : FileSystem}

theorem node_cases (alike : Resembles names fs other) (location : Location) :
    (fs.node? location = none ∧ other.node? location = none) ∨
      (fs.node? location = some .directory ∧ other.node? location = some .directory) ∨
      ∃ content content', fs.node? location = some (.file content) ∧
        other.node? location = some (.file content') := by
  have same := alike.kinds location
  cases one : fs.node? location with
  | none =>
    rw [one] at same
    exact .inl ⟨rfl, Option.map_eq_none_iff.1 same⟩
  | some node =>
    rw [one] at same
    obtain ⟨node', two, alike⟩ := Option.map_eq_some_iff.1 same
    right
    cases node with
    | directory =>
      cases node' with
      | directory => exact .inl ⟨rfl, two⟩
      | file content' => cases alike
    | file content =>
      cases node' with
      | directory => cases alike
      | file content' => exact .inr ⟨content, content', rfl, two⟩

theorem isSome_node? (alike : Resembles names fs other) (location : Location) :
    (other.node? location).isSome = (fs.node? location).isSome := by
  obtain ⟨one, two⟩ | ⟨one, two⟩ | ⟨content, content', one, two⟩ := alike.node_cases location
  · rw [one, two]
  · rw [one, two]
  · rw [one, two]
    rfl

theorem isDirectory_eq (alike : Resembles names fs other) (location : Location) :
    other.isDirectory location = fs.isDirectory location := by
  unfold isDirectory
  obtain ⟨one, two⟩ | ⟨one, two⟩ | ⟨content, content', one, two⟩ := alike.node_cases location
  · rw [one, two]
  · rw [one, two]
  · rw [one, two]
    rfl

theorem past (alike : Resembles names fs other) : Resembles names fs.past other.past :=
  ⟨alike.here, congrArg List.tail alike.mishaps, alike.kinds, alike.nodes⟩

theorem due (alike : Resembles names fs other) : other.due = fs.due := by
  rw [FileSystem.due, FileSystem.due, alike.mishaps]

theorem set (alike : Resembles names fs other) {location : Location} (inner : location ≠ [])
    (node : Node) : Resembles names (fs.set location node) (other.set location node) := by
  refine ⟨alike.here, alike.mishaps, ?_, ?_⟩
  · intro place
    rw [node?_set inner, node?_set inner]
    split
    · rfl
    · exact alike.kinds place
  · intro place named
    rw [node?_set inner, node?_set inner]
    split
    · rfl
    · exact alike.nodes place named

theorem clear (alike : Resembles names fs other) {location : Location} (inner : location ≠ []) :
    Resembles names (fs.clear location) (other.clear location) := by
  refine ⟨alike.here, alike.mishaps, ?_, ?_⟩
  · intro place
    rw [node?_clear inner, node?_clear inner]
    split
    · rfl
    · exact alike.kinds place
  · intro place named
    rw [node?_clear inner, node?_clear inner]
    split
    · rfl
    · exact alike.nodes place named

/-! ## Where paths lead -/

theorem walk_eq (alike : Resembles names fs other) (start : Location) (pieces : List String) :
    other.walk start pieces = fs.walk start pieces := by
  induction pieces generalizing start with
  | nil => rfl
  | cons piece rest ih =>
    have stepped : other.step start piece = fs.step start piece := by
      rw [step, step, alike.isDirectory_eq, alike.isSome_node?]
    rw [walk, walk, stepped]
    cases fs.step start piece with
    | error error => rfl
    | ok next => exact ih next

theorem start_eq (alike : Resembles names fs other) (path : Path) :
    other.start path = fs.start path := by
  rw [start, start, alike.here]

theorem locate_eq (alike : Resembles names fs other) (path : Path) :
    other.locate path = fs.locate path := by
  rw [locate, locate, alike.start_eq, alike.walk_eq]

theorem target_eq (alike : Resembles names fs other) (path : Path) :
    other.target path = fs.target path := by
  simp only [target, alike.start_eq, alike.walk_eq, alike.isDirectory_eq]

theorem exists?_eq (alike : Resembles names fs other) (path : Path) :
    other.exists? path = fs.exists? path := by
  rw [FileSystem.exists?, FileSystem.exists?, alike.locate_eq]

theorem writable_eq (alike : Resembles names fs other) (path : Path) :
    other.writable path = fs.writable path := by
  simp only [writable, alike.target_eq, alike.isDirectory_eq]

theorem leadsToDirectory_eq (alike : Resembles names fs other) (path : Path) :
    other.leadsToDirectory path = fs.leadsToDirectory path := by
  simp only [leadsToDirectory, alike.locate_eq, alike.isDirectory_eq]

/-! ## What is read -/

theorem read_cases (alike : Resembles names fs other) (path : Path) :
    (∃ content content', fs.read path = .ok content ∧ other.read path = .ok content') ∨
      ∃ error, fs.read path = .error error ∧ other.read path = .error error := by
  unfold FileSystem.read
  rw [alike.locate_eq]
  cases fs.locate path with
  | error error => exact .inr ⟨error, rfl, rfl⟩
  | ok location =>
    dsimp only
    obtain ⟨one, two⟩ | ⟨one, two⟩ | ⟨content, content', one, two⟩ := alike.node_cases location
    · rw [one, two]
      exact .inr ⟨_, rfl, rfl⟩
    · rw [one, two]
      exact .inr ⟨_, rfl, rfl⟩
    · rw [one, two]
      exact .inl ⟨content, content', rfl, rfl⟩

theorem node?_of_locate (alike : Resembles names fs other) {path : Path} {name : String}
    (named : path.fileName? = some name) (strict : name ∉ names) {location : Location}
    (located : fs.locate path = .ok location) : other.node? location = fs.node? location := by
  obtain ⟨place, rfl⟩ := FileStore.location_of_fileName named located
  apply alike.nodes
  intro other member same
  rw [List.getLast?_concat, Option.some.injEq] at same
  exact strict (same ▸ member)

theorem read_eq (alike : Resembles names fs other) {path : Path} {name : String}
    (named : path.fileName? = some name) (strict : name ∉ names) :
    other.read path = fs.read path := by
  unfold FileSystem.read
  rw [alike.locate_eq]
  cases located : fs.locate path with
  | error error => rfl
  | ok location =>
    dsimp only
    rw [alike.node?_of_locate named strict located]

/-! ## As a relation -/

theorem refl (names : List String) (fs : FileSystem) : Resembles names fs fs :=
  ⟨rfl, rfl, fun _ => rfl, fun _ _ => rfl⟩

theorem symm (alike : Resembles names fs other) : Resembles names other fs :=
  ⟨alike.here.symm, alike.mishaps.symm, fun location => (alike.kinds location).symm,
    fun location named => (alike.nodes location named).symm⟩

theorem trans {third : FileSystem} (first : Resembles names fs other)
    (next : Resembles names other third) : Resembles names fs third where
  here := next.here.trans first.here
  mishaps := next.mishaps.trans first.mishaps
  kinds location := (next.kinds location).trans (first.kinds location)
  nodes location named := (next.nodes location named).trans (first.nodes location named)

theorem mono {more : List String} (alike : Resembles names fs other) (covers : names ⊆ more) :
    Resembles more fs other where
  here := alike.here
  mishaps := alike.mishaps
  kinds := alike.kinds
  nodes location named := alike.nodes location fun name member => named name (covers member)

theorem content?_eq (alike : Resembles names fs other) {path : Path} {name : String}
    (named : path.fileName? = some name) (strict : name ∉ names) :
    other.content? path = fs.content? path := by
  apply content?_congr
  intro content
  rw [alike.read_eq named strict]

end Resembles

/-! ## Files that grow -/

theorem append_cases (fs : FileSystem) (path : Path) (more : Bytes) :
    fs.append path more = fs ∨ ∃ location content, fs.locate path = .ok location ∧
      fs.node? location = some (.file content) ∧
        fs.append path more = fs.set location (.file (content ++ more)) := by
  unfold append
  cases located : fs.locate path with
  | error error => exact .inl rfl
  | ok location =>
    dsimp only
    split
    · next content there => exact .inr ⟨location, content, rfl, there, rfl⟩
    · exact .inl rfl

theorem resembles_append (fs : FileSystem) {path : Path} {name : String}
    (named : path.fileName? = some name) (more : Bytes) :
    Resembles [name] fs (fs.append path more) := by
  obtain same | ⟨location, content, located, there, set⟩ := fs.append_cases path more
  · rw [same]
    exact .refl _ _
  · obtain ⟨place, rfl⟩ := FileStore.location_of_fileName named located
    have inner : place ++ [name] ≠ [] := by simp
    rw [set]
    refine ⟨rfl, rfl, ?_, ?_⟩
    · intro other
      rw [node?_set inner]
      split
      · next here =>
        rw [here, there]
        rfl
      · rfl
    · intro other unlike
      rw [node?_set inner, if_neg]
      rintro rfl
      exact unlike name (by simp) List.getLast?_concat

def Agree {α : Type} (names : List String) (one two : α × FileSystem) : Prop :=
  two.1 = one.1 ∧ Resembles names one.2 two.2

namespace Resembles

variable {names : List String} {fs other : FileSystem}

/-! ## Changes -/

def SameChange (names : List String) (result result' : Except FileError FileSystem) : Prop :=
  (∃ error, result = .error error ∧ result' = .error error) ∨
    ∃ after after', result = .ok after ∧ result' = .ok after' ∧ Resembles names after after'

theorem settle_agree (alike : Resembles names fs other)
    {result result' : Except FileError FileSystem} (same : SameChange names result result') :
    Agree names (FileOp.settle fs result) (FileOp.settle other result') := by
  obtain ⟨error, rfl, rfl⟩ | ⟨after, after', rfl, rfl, resembles⟩ := same
  · exact ⟨rfl, alike⟩
  · exact ⟨rfl, resembles⟩

theorem write (alike : Resembles names fs other) (path : Path) (content : Bytes) :
    SameChange names (fs.write path content) (other.write path content) := by
  unfold FileSystem.write
  rw [alike.writable_eq]
  cases free : fs.writable path with
  | error error => exact .inl ⟨error, rfl, rfl⟩
  | ok location =>
    obtain ⟨directory, name, -, -, rfl⟩ := writable_eq_ok free
    exact .inr ⟨_, _, rfl, rfl, alike.set (by simp) _⟩

theorem touch (alike : Resembles names fs other) (path : Path) :
    SameChange names (fs.touch path) (other.touch path) := by
  unfold FileSystem.touch
  rw [alike.writable_eq]
  cases free : fs.writable path with
  | error error => exact .inl ⟨error, rfl, rfl⟩
  | ok location =>
    obtain ⟨directory, name, -, -, rfl⟩ := writable_eq_ok free
    refine .inr ⟨_, _, rfl, rfl, ?_⟩
    dsimp only
    rw [alike.isSome_node?]
    split
    · exact alike
    · exact alike.set (by simp) _

theorem makeDirectory (alike : Resembles names fs other) (path : Path) :
    SameChange names (fs.makeDirectory path) (other.makeDirectory path) := by
  unfold FileSystem.makeDirectory
  rw [alike.target_eq]
  cases fs.target path with
  | error error => exact .inl ⟨error, rfl, rfl⟩
  | ok target =>
    dsimp only
    cases named : target.location? with
    | none => exact .inl ⟨_, rfl, rfl⟩
    | some location =>
      dsimp only
      rw [alike.isSome_node?]
      split
      · exact .inl ⟨_, rfl, rfl⟩
      · refine .inr ⟨_, _, rfl, rfl, alike.set ?_ _⟩
        rintro rfl
        obtain ⟨name, -, empty⟩ := Option.map_eq_some_iff.1 named
        simp at empty

theorem settleDirectory (alike : Resembles names fs other) (path : Path) :
    SameChange names (fs.settleDirectory path) (other.settleDirectory path) := by
  unfold FileSystem.settleDirectory
  obtain ⟨error, one, two⟩ | ⟨after, after', one, two, resembles⟩ := alike.makeDirectory path
  · rw [one, two]
    dsimp only
    rw [alike.leadsToDirectory_eq]
    split
    · exact .inr ⟨fs, other, rfl, rfl, alike⟩
    · exact .inl ⟨error, rfl, rfl⟩
  · rw [one, two]
    exact .inr ⟨after, after', rfl, rfl, resembles⟩

theorem makeDirectories (alike : Resembles names fs other) (fuel : Nat) (path : Path) :
    Agree names (fs.makeDirectories fuel path) (other.makeDirectories fuel path) := by
  induction fuel generalizing path with
  | zero => exact ⟨rfl, alike⟩
  | succ fuel ih =>
    unfold FileSystem.makeDirectories
    split
    · exact ⟨rfl, alike⟩
    obtain ⟨error, one, two⟩ | ⟨after, after', one, two, resembles⟩ := alike.makeDirectory path
    · rw [one, two]
      by_cases missing : error = .notFound
      · subst missing
        dsimp only
        cases path.parent? with
        | none => exact ⟨rfl, alike⟩
        | some parent =>
          -- Both trees lack the directory above, and what is made of it is alike.
          dsimp only
          have above := ih parent
          generalize fs.makeDirectories fuel parent = made at above ⊢
          generalize other.makeDirectories fuel parent = made' at above ⊢
          obtain ⟨result, after⟩ := made
          obtain ⟨result', after'⟩ := made'
          obtain ⟨same, resembles⟩ := above
          dsimp only at same resembles
          subst same
          cases result' with
          | error error => exact ⟨rfl, resembles⟩
          | ok _ =>
            dsimp only
            obtain ⟨error, one, two⟩ | ⟨last, last', one, two, resembles'⟩ :=
              resembles.settleDirectory path
            · rw [one, two]
              exact ⟨rfl, resembles⟩
            · rw [one, two]
              exact ⟨rfl, resembles'⟩
      · have leads := alike.leadsToDirectory_eq path
        cases error with
        | notFound => exact absurd rfl missing
        | _ =>
          dsimp only
          rw [leads]
          split <;> exact ⟨rfl, alike⟩
    · rw [one, two]
      exact ⟨rfl, resembles⟩

theorem rename (alike : Resembles names fs other) {source : Path} {name : String}
    (named : source.fileName? = some name) (strict : name ∉ names) (destination : Path) :
    SameChange names (fs.rename source destination) (other.rename source destination) := by
  unfold FileSystem.rename
  rw [alike.target_eq, alike.target_eq]
  cases one : fs.target source with
  | error error => exact .inl ⟨error, rfl, rfl⟩
  | ok found =>
    cases fs.target destination with
    | error error => exact .inl ⟨error, rfl, rfl⟩
    | ok found' =>
      obtain ⟨directory, last?, slashed⟩ := found
      obtain ⟨directory', last'?, slashed'⟩ := found'
      cases last? with
      | none => exact .inl ⟨_, rfl, rfl⟩
      | some last =>
        cases last'? with
        | none => exact .inl ⟨_, rfl, rfl⟩
        | some last' =>
          simp only [Target.location?, Option.map_some]
          obtain ⟨two, three⟩ | ⟨two, three⟩ | ⟨content, content', two, three⟩ :=
            alike.node_cases (directory ++ [last])
          · rw [two, three]
            exact .inl ⟨_, rfl, rfl⟩
          · rw [two, three]
            exact .inl ⟨_, rfl, rfl⟩
          rw [two, three]
          dsimp only
          by_cases slashes : (slashed || slashed') = true
          · rw [if_pos slashes, if_pos slashes]
            exact .inl ⟨_, rfl, rfl⟩
          rw [if_neg slashes, if_neg slashes, alike.isDirectory_eq]
          -- The name is the one that the path ends with, so what is moved is the same.
          have same : content' = content := by
            obtain rfl : slashed = false := by
              cases slashed with
              | false => rfl
              | true => simp at slashes
            have located := (target_eq_iff.1 one).locate
            rw [two, if_pos (by rfl)] at located
            have same := alike.node?_of_locate named strict located
            rw [two, three] at same
            cases same
            rfl
          subst same
          split
          · exact .inl ⟨_, rfl, rfl⟩
          split
          · exact .inr ⟨fs, other, rfl, rfl, alike⟩
          · exact .inr ⟨_, _, rfl, rfl, (alike.clear (by simp)).set (by simp) _⟩

theorem remove (alike : Resembles names fs other) (path : Path) :
    SameChange names (fs.remove path) (other.remove path) := by
  unfold FileSystem.remove
  rw [alike.target_eq]
  cases fs.target path with
  | error error => exact .inl ⟨error, rfl, rfl⟩
  | ok found =>
    obtain ⟨directory, last?, slashed⟩ := found
    cases last? with
    | none => exact .inl ⟨_, rfl, rfl⟩
    | some last =>
      simp only [Target.location?, Option.map_some]
      obtain ⟨one, two⟩ | ⟨one, two⟩ | ⟨content, content', one, two⟩ :=
        alike.node_cases (directory ++ [last])
      · rw [one, two]
        exact .inl ⟨_, rfl, rfl⟩
      · rw [one, two]
        exact .inl ⟨_, rfl, rfl⟩
      · rw [one, two]
        dsimp only
        split
        · exact .inl ⟨_, rfl, rfl⟩
        · exact .inr ⟨_, _, rfl, rfl, alike.clear (by simp)⟩

end Resembles

end FileSystem

open FileSystem

namespace FileOp

/-- An operation that takes nothing from a file of certain names. -/
def Blind (names : List String) : FileOp → Prop
  | .read path => ∃ name, path.fileName? = some name ∧ name ∉ names
  | .rename source _ => ∃ name, source.fileName? = some name ∧ name ∉ names
  | _ => True

variable {names : List String} {fs other : FileSystem}

theorem perform_agree {op : FileOp} (blind : op.Blind names) (alike : Resembles names fs other) :
    Agree names (perform op fs) (perform op other) := by
  cases op with
  | probe path => exact ⟨alike.exists?_eq path, alike⟩
  | read path =>
    obtain ⟨name, named, strict⟩ := blind
    exact ⟨alike.read_eq named strict, alike⟩
  | write path content => exact alike.settle_agree (alike.write path content)
  | createDirectories path => exact alike.makeDirectories _ path
  | rename source destination =>
    obtain ⟨name, named, strict⟩ := blind
    exact alike.settle_agree (alike.rename named strict destination)
  | remove path => exact alike.settle_agree (alike.remove path)
  | touch path => exact alike.settle_agree (alike.touch path)

theorem fail_agree (op : FileOp) (mishap : Mishap) (alike : Resembles names fs other) :
    Agree names (fail mishap op fs) (fail mishap op other) := by
  cases op with
  | probe path => exact ⟨alike.exists?_eq path, alike⟩
  | write path content =>
    refine ⟨rfl, ?_⟩
    simp only [fail, halfWritten]
    cases mishap.written with
    | none => exact alike
    | some written => exact (alike.settle_agree (alike.write path (content.take written))).2
  | _ => exact ⟨rfl, alike⟩

theorem handle_agree {op : FileOp} (blind : op.Blind names) (alike : Resembles names fs other) :
    Agree names (handle op fs) (handle op other) := by
  cases real : op.isProbe with
  | true =>
    cases op with
    | probe path => exact ⟨alike.exists?_eq path, alike⟩
    | _ => cases real
  | false =>
    rw [handle_eq real, handle_eq real, alike.due]
    cases fs.due with
    | none => exact perform_agree blind alike.past
    | some mishap => exact fail_agree op mishap alike.past

end FileOp

namespace Machine

structure Resembles (names : List String) (machine other : Machine) : Prop where
  files : FileSystem.Resembles names machine.files other.files
  keychain : other.keychain = machine.keychain

def Blind (names : List String) : SystemOp → Prop
  | .file op => op.Blind names
  | _ => True

variable {names : List String} {machine other : Machine}

theorem quiet_agree {op : SystemOp} (blind : Blind names op)
    (alike : Resembles names machine other) :
    (quiet op other).1 = (quiet op machine).1 ∧
      Resembles names (quiet op machine).2 (quiet op other).2 := by
  cases op with
  | file op =>
    obtain ⟨answer, files⟩ := FileOp.handle_agree blind alike.files
    exact ⟨answer, files, alike.keychain⟩
  | keychain op =>
    simp only [quiet, alike.keychain]
    exact ⟨trivial, alike.files, rfl⟩
  | log entry => exact ⟨rfl, alike⟩
  | announce call => exact ⟨rfl, alike⟩

theorem run_of_blind {α : Type} {program : System α} (blind : program.Uses (Blind names))
    (alike : Resembles names machine other) :
    (program.run quiet other).1 = (program.run quiet machine).1 ∧
      Resembles names (program.run quiet machine).2 (program.run quiet other).2 := by
  induction program generalizing machine other with
  | done value => exact ⟨rfl, alike⟩
  | step op next ih =>
    obtain ⟨answer, after⟩ := quiet_agree blind.1 alike
    rw [Program.run_step, Program.run_step, answer]
    exact ih _ (blind.2 _) after

theorem Resembles.refl (names : List String) (machine : Machine) :
    Resembles names machine machine :=
  ⟨.refl names machine.files, rfl⟩

theorem Resembles.symm (alike : Resembles names machine other) : Resembles names other machine :=
  ⟨alike.files.symm, alike.keychain.symm⟩

theorem Resembles.trans {third : Machine} (first : Resembles names machine other)
    (next : Resembles names other third) : Resembles names machine third :=
  ⟨first.files.trans next.files, next.keychain.trans first.keychain⟩

theorem Resembles.mono {more : List String} (alike : Resembles names machine other)
    (covers : names ⊆ more) : Resembles more machine other :=
  ⟨alike.files.mono covers, alike.keychain⟩

end Machine

namespace FileStore

open FileSystem

variable {directory : Path} {name name' : String} {files : FileSystem} {content : Option Bytes}

theorem leadsToDirectory_of_locate (ends : EndsWithName directory) {location : Location}
    (located : files.locate (directory.child name) = .ok location) :
    files.leadsToDirectory directory = true := by
  obtain ⟨zero, -, walked⟩ := locate_eq_ok.1 located
  have child := child_of_endsWithName ends name
  have start : files.start (directory.child name) = files.start directory := by
    rw [start, FileSystem.start, child]
  rw [start, child, walk_append] at walked
  cases way : files.walk (files.start directory) directory.pieces with
  | error error => simp [way] at walked
  | ok place =>
    have zero : hasZero directory = false := by
      refine hasZero_of_starts ?_ zero
      rw [child]
      exact List.prefix_append _ _
    have above : files.locate directory = .ok place :=
      locate_eq_ok.2 ⟨zero, isEmpty_of_endsWithName ends, way⟩
    simp only [leadsToDirectory, above]
    simp only [way, walk] at walked
    cases stepped : files.step place name with
    | error error => simp [stepped] at walked
    | ok next =>
      unfold FileSystem.step at stepped
      split at stepped
      · cases stepped
      · next directed => simpa using directed

theorem Stands.append (ends : EndsWithName directory) (solid : Path.isDot name = false)
    (down : name ≠ "..") (solid' : Path.isDot name' = false) (down' : name' ≠ "..")
    (differ : name ≠ name') (stands : Stands files (directory.child name) content) (more : Bytes) :
    Stands (files.append (directory.child name') more) (directory.child name) content := by
  obtain same | ⟨location, old, located, there, set⟩ :=
    files.append_cases (directory.child name') more
  · rwa [same]
  · have alike := resembles_append files (fileName_child solid' down' directory) more
    have same := alike.content?_eq (fileName_child solid down directory) (by simpa using differ)
    have leads := leadsToDirectory_of_locate ends located
    have room : HasRoom (files.append (directory.child name') more) (directory.child name) := by
      intro parent above
      rw [parent_child ends solid] at above
      cases above
      exact .inr ((alike.leadsToDirectory_eq directory).trans leads)
    have stands' := room.stands ends solid
    rwa [same, stands.now] at stands'

end FileStore

end PracticeClient
