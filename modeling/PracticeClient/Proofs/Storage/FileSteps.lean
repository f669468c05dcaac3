import PracticeClient.Proofs.Storage.FileContents
import PracticeClient.Storage.Store

namespace PracticeClient

namespace FileSystem

variable {fs after : FileSystem}

/-! ## Directories stay -/

theorem keeps_set_file {location : Location} (inner : location ≠ [])
    (free : fs.isDirectory location = false) (content : Bytes) :
    Keeps fs (fs.set location (.file content)) := by
  refine ⟨rfl, ?_⟩
  intro other directed
  exact (isDirectory_set_file inner content other).2 ⟨ne_of_isDirectory free directed, directed⟩

theorem keeps_clear {location : Location} (inner : location ≠ [])
    (free : fs.isDirectory location = false) : Keeps fs (fs.clear location) := by
  refine ⟨rfl, ?_⟩
  intro other directed
  exact (isDirectory_clear inner other).2 ⟨ne_of_isDirectory free directed, directed⟩

theorem isDirectory_of_file {location : Location} {content : Bytes}
    (file : fs.node? location = some (.file content)) : fs.isDirectory location = false := by
  rw [isDirectory, file]
  rfl

/-- A change to what stands at some places, which leaves the directories alone. -/
structure Alters (places : Location → Prop) (fs after : FileSystem) : Prop where
  keeps : Keeps fs after
  nodes : ∀ location, ¬places location → after.node? location = fs.node? location

theorem write_alters {path : Path} {content : Bytes} (written : fs.write path content = .ok after) :
    Alters (Leads fs path) fs after := by
  obtain ⟨directory, name, names, free, rfl⟩ := write_eq_ok written
  have inner : directory ++ [name] ≠ [] := by simp
  refine ⟨keeps_set_file inner free content, ?_⟩
  intro location elsewhere
  rw [node?_set inner, if_neg]
  rintro rfl
  exact elsewhere ⟨directory, name, false, names, rfl⟩

theorem remove_alters {path : Path} (removed : fs.remove path = .ok after) :
    Alters (Leads fs path) fs after := by
  obtain ⟨directory, name, content, names, file, rfl⟩ := remove_eq_ok removed
  have inner : directory ++ [name] ≠ [] := by simp
  refine ⟨keeps_clear inner (isDirectory_of_file file), ?_⟩
  intro location elsewhere
  rw [node?_clear inner, if_neg]
  rintro rfl
  exact elsewhere ⟨directory, name, false, names, rfl⟩

theorem rename_alters {source destination : Path}
    (renamed : fs.rename source destination = .ok after) :
    Alters (fun location => Leads fs source location ∨ Leads fs destination location) fs after := by
  obtain ⟨directory, name, directory', name', content, names, names', file, free, rfl⟩ :=
    rename_eq_ok renamed
  have inner : directory ++ [name] ≠ [] := by simp
  have inner' : directory' ++ [name'] ≠ [] := by simp
  have clear := keeps_clear inner (isDirectory_of_file file)
  have free' : (fs.clear (directory ++ [name])).isDirectory (directory' ++ [name']) = false := by
    rw [← Bool.not_eq_true, isDirectory_clear inner, free]
    simp
  split
  · exact ⟨.refl fs, fun _ _ => rfl⟩
  · refine ⟨clear.trans (keeps_set_file inner' free' content), ?_⟩
    intro location elsewhere
    rw [node?_set inner', node?_clear inner, if_neg, if_neg]
    · rintro rfl
      exact elsewhere (.inl ⟨directory, name, false, names, rfl⟩)
    · rintro rfl
      exact elsewhere (.inr ⟨directory', name', false, names', rfl⟩)

theorem keeps_mishaps (fs : FileSystem) (mishaps : List (Option Mishap)) :
    Keeps fs { fs with mishaps } :=
  ⟨rfl, fun _ directed => directed⟩

end FileSystem

namespace FileStore

open FileSystem

/-! ## Room for a file -/

def HasRoom (files : FileSystem) (path : Path) : Prop :=
  ∀ parent, path.parent? = some parent →
    parent.isEmpty = true ∨ files.leadsToDirectory parent = true

theorem HasRoom.keeps {files after : FileSystem} {path : Path} (room : HasRoom files path)
    (keeps : Keeps files after) : HasRoom after path := by
  intro parent above
  exact (room parent above).imp_right keeps.leadsToDirectory

theorem HasRoom.createDirectories {files : FileSystem} {path parent : Path}
    (room : HasRoom files path) (above : path.parent? = some parent) :
    files.createDirectories parent = (.ok (), files) := by
  rcases room parent above with empty | leads
  · unfold FileSystem.createDirectories makeDirectories
    rw [if_pos empty]
  · exact createDirectories_of_leadsToDirectory leads

theorem parent_starts {path parent : Path} (above : path.parent? = some parent) :
    parent.isAbsolute = path.isAbsolute ∧ parent.pieces <+: path.pieces :=
  mem_ancestors.1 (ancestors_of_parent above parent (self_mem_ancestors parent))

theorem aside_pieces {path parent : Path} (above : path.parent? = some parent) :
    ∃ kept name, asidePath path = ⟨path.isAbsolute, kept ++ [name]⟩ ∧ name ≠ "" ∧
      parent.pieces <+: kept ++ [""] := by
  cases named : path.fileName? with
  | some last =>
    obtain ⟨kept, child, pieces⟩ := child_pieces parent (last ++ ".tmp")
    refine ⟨kept, last ++ ".tmp", ?_, by simp, ?_⟩
    · have aside : asidePath path = parent.child (last ++ ".tmp") := by
        simp [asidePath, Path.withFileName, named, above]
      rw [aside, child, (parent_starts above).1]
    · rcases pieces with pieces | pieces
      · rw [pieces]
        exact List.prefix_append kept [""]
      · exact pieces ▸ List.prefix_refl _
  | none =>
    obtain ⟨kept, child, pieces⟩ := child_pieces path ".tmp"
    refine ⟨kept, ".tmp", ?_, by decide, ?_⟩
    · have aside : asidePath path = path.child ".tmp" := by
        simp [asidePath, Path.withFileName, named]
      rw [aside, child]
    · apply (parent_starts above).2.trans
      rcases pieces with pieces | pieces
      · rw [pieces]
        exact List.prefix_append kept [""]
      · exact pieces ▸ List.prefix_refl _

theorem parent_shorter {path parent : Path} (above : path.parent? = some parent) :
    parent.pieces.length < path.pieces.length := by
  unfold Path.parent? at above
  split at above
  · cases above
  · next solid =>
    cases above
    have front := (trimEnd_starts (Path.trimEnd path.pieces).dropLast).length_le
    have whole := (trimEnd_starts path.pieces).length_le
    have some : 0 < (Path.trimEnd path.pieces).length := List.length_pos_iff.2 solid
    rw [List.length_dropLast] at front
    show (Path.trimEnd (Path.trimEnd path.pieces).dropLast).length < path.pieces.length
    omega

theorem walk_to_directory {files : FileSystem} {start location : Location}
    {pieces more : List String}
    (walked : files.walk start (pieces ++ more) = .ok location)
    (ends : more = [] → files.isDirectory location = true) :
    ∃ between, files.walk start pieces = .ok between ∧ files.isDirectory between = true := by
  rw [walk_append] at walked
  cases way : files.walk start pieces with
  | error error => simp [way] at walked
  | ok between =>
    refine ⟨between, rfl, ?_⟩
    simp only [way] at walked
    cases more with
    | nil =>
      cases walked
      exact ends rfl
    | cons piece rest =>
      rw [walk] at walked
      cases stepped : files.step between piece with
      | error error => simp [stepped] at walked
      | ok next => exact isDirectory_of_step stepped

theorem leadsToDirectory_of_walk {files : FileSystem} {path parent : Path} {more : List String}
    {location : Location} (above : path.parent? = some parent) (zero : hasZero parent = false)
    (walked : files.walk (files.start path) (parent.pieces ++ more) = .ok location)
    (ends : more = [] → files.isDirectory location = true) :
    parent.isEmpty = true ∨ files.leadsToDirectory parent = true := by
  by_cases empty : parent.isEmpty = true
  · exact .inl empty
  obtain ⟨between, walked, directed⟩ := walk_to_directory walked ends
  have start : files.start parent = files.start path := by
    rw [start, FileSystem.start, (parent_starts above).1]
  have located : files.locate parent = .ok between :=
    locate_eq_ok.2 ⟨zero, by simpa using empty, start ▸ walked⟩
  right
  simp only [leadsToDirectory, located, directed]

theorem hasZero_of_starts {path other : Path} (starts : other.pieces <+: path.pieces)
    (zero : hasZero path = false) : hasZero other = false := by
  rw [hasZero, List.any_eq_false] at zero ⊢
  intro piece member
  exact zero piece (starts.subset member)

theorem hasRoom_of_content {files : FileSystem} {path : Path} {content : Bytes}
    (there : files.content? path = some content) : HasRoom files path := by
  intro parent above
  obtain ⟨location, located, -⟩ := read_eq_ok.1 (content?_eq_some.1 there)
  obtain ⟨zero, -, walked⟩ := locate_eq_ok.1 located
  have starts := (parent_starts above).2
  have zero := hasZero_of_starts starts zero
  obtain ⟨more, whole⟩ := starts
  rw [← whole] at walked
  apply leadsToDirectory_of_walk above zero walked
  rintro rfl
  have shorter := parent_shorter above
  rw [← whole, List.append_nil] at shorter
  exact absurd shorter (Nat.lt_irrefl _)

theorem hasRoom_of_names {files : FileSystem} {path : Path} {directory : Location} {name : String}
    (names : Names files (asidePath path) directory name false) : HasRoom files path := by
  intro parent above
  obtain ⟨kept, last, aside, solid, starts⟩ := aside_pieces above
  have directed := names.isDirectory
  have zero := names.noZero
  rw [aside] at names zero
  obtain ⟨-, walks⟩ := names_child solid names
  -- An empty piece at the end leads nowhere else.
  have further : files.walk (files.start path) (kept ++ [""]) = .ok directory := by
    have walks' : files.walk (files.start path) kept = .ok directory := walks
    rw [walk_append, walks']
    simp [walk, step, directed, Path.isDot]
  have zero : hasZero ⟨path.isAbsolute, kept ++ [""]⟩ = false := by
    simp only [hasZero, List.any_append, Bool.or_eq_false_iff] at zero ⊢
    exact ⟨zero.1, by decide⟩
  have zero : hasZero parent = false := hasZero_of_starts starts zero
  obtain ⟨more, whole⟩ := starts
  rw [← whole] at further
  exact leadsToDirectory_of_walk above zero further fun _ => directed

def IsAside (files : FileSystem) (path : Path) (place : Location) : Prop :=
  ∃ directory name, Names files (asidePath path) directory name false ∧ place = directory ++ [name]

namespace IsAside

variable {files after : FileSystem} {path : Path} {place : Location}

theorem keeps (aside : IsAside files path place) (keeps : Keeps files after) :
    IsAside after path place := by
  obtain ⟨directory, name, names, same⟩ := aside
  exact ⟨directory, name, names.of_directories keeps.directories keeps.here, same⟩

theorem inner (aside : IsAside files path place) : place ≠ [] := by
  obtain ⟨directory, name, -, rfl⟩ := aside
  simp

theorem unique (aside : IsAside files path place) {directory : Location} {name : String}
    (names : Names files (asidePath path) directory name false) : directory ++ [name] = place := by
  obtain ⟨directory', name', names', rfl⟩ := aside
  exact names.unique names'

theorem leads (aside : IsAside files path place) : Leads files (asidePath path) place := by
  obtain ⟨directory, name, names, same⟩ := aside
  exact ⟨directory, name, false, names, same⟩

theorem ne_of_locate (aside : IsAside files path place) {location : Location}
    (located : files.locate path = .ok location) : location ≠ place := by
  obtain ⟨directory, name, names, rfl⟩ := aside
  rintro rfl
  exact locate_ne_aside names located

theorem hasRoom (aside : IsAside files path place) : HasRoom files path := by
  obtain ⟨directory, name, names, -⟩ := aside
  exact hasRoom_of_names names

end IsAside

/-! ## Operations -/

inductive Looks : SystemOp → Prop
  | probe (path : Path) : Looks (.file (.probe path))
  | read (path : Path) : Looks (.file (.read path))
  | log (entry : LogEntry) : Looks (.log entry)

def Takes (path : Path) : SystemOp → Prop
  | .file (.probe _) => True
  | .file (.read _) => True
  | .file (.write written _) => written = asidePath path
  | .file (.createDirectories made) => path.parent? = some made
  | .file (.rename source destination) => source = asidePath path ∧ destination = path
  | .file (.remove removed) => removed = path
  | .log _ => True
  | _ => False

/-- What is written aside is good, and nothing is moved into place before it has been written. -/
def Allows (path : Path) (good : Bytes → Prop) (wrote : Bool) (op : SystemOp) : Prop :=
  Takes path op ∧ match op with
    | .file (.write _ content) => good content
    | .file (.rename _ _) => wrote = true
    | _ => True

def hasWritten : (op : SystemOp) → op.Answer → Bool → Bool
  | .file (.write _ _), .ok _, _ => true
  | _, _, wrote => wrote

abbrev Obeys {α : Type} (path : Path) (good : Bytes → Prop) (ends : α → Bool → Prop)
    (wrote : Bool) (program : System α) : Prop :=
  program.Obeys (Allows path good) hasWritten ends wrote

theorem looks_readEntries (path : Path) : (readEntries path).Uses Looks := by
  refine ⟨.probe path, ?_⟩
  intro there
  cases there with
  | false => trivial
  | true =>
    refine ⟨.read path, ?_⟩
    intro answer
    cases answer <;> trivial

theorem looks_readForUpdate (path : Path) : (readForUpdate path).Uses Looks := by
  apply Program.uses_bind (looks_readEntries path)
  intro result
  cases result with
  | ok table => trivial
  | error error => exact ⟨.log _, fun _ => trivial⟩

theorem looks_get (path : Path) (key : String) : (get path key).Uses Looks := by
  apply Program.uses_bind (looks_readEntries path)
  intro result
  cases result with
  | ok table => trivial
  | error error => exact ⟨.log _, fun _ => trivial⟩

section

variable {path : Path} {good : Bytes → Prop} {wrote : Bool}

theorem obeys_of_looks {α : Type} {program : System α} (looks : program.Uses Looks) :
    Obeys path good (fun _ after => after = wrote) wrote program := by
  refine Program.obeys_of_uses ?_ ?_ looks
  · intro op looks
    cases looks <;> exact ⟨trivial, trivial⟩
  · intro op answer looks
    cases looks <;> rfl

theorem obeys_removeFile : Obeys path good (fun _ _ => True) wrote (removeFile path) := by
  unfold removeFile
  refine ⟨⟨trivial, trivial⟩, ?_⟩
  intro there
  cases there with
  | true => exact ⟨⟨rfl, trivial⟩, fun _ => trivial⟩
  | false => trivial

theorem obeys_replaceFile {content : Bytes} (fine : good content) :
    Obeys path good (fun _ _ => True) wrote (replaceFile path content) := by
  unfold replaceFile
  have made : Obeys path good (fun _ _ => True) wrote (createParent path) := by
    unfold createParent
    cases above : path.parent? with
    | none => trivial
    | some parent => exact ⟨⟨above, trivial⟩, fun _ => trivial⟩
  apply Program.obeys_bind made
  intro made wrote _
  cases made with
  | error error => trivial
  | ok _ =>
    refine ⟨⟨rfl, fine⟩, ?_⟩
    intro written
    cases written with
    | error error => trivial
    | ok _ => exact ⟨⟨⟨rfl, rfl⟩, rfl⟩, fun _ => trivial⟩

theorem obeys_writeEntries {table : Table String} (fine : good (encode table)) :
    Obeys path good (fun _ _ => True) wrote (writeEntries path table) := by
  unfold writeEntries
  split
  · exact obeys_removeFile
  · exact obeys_replaceFile fine

theorem obeys_update {keys : List String} {change : Table String → Table String}
    (fine : ∀ table, good (encode (change table))) :
    Obeys path good (fun _ _ => True) wrote (update path keys change) := by
  unfold update
  apply Program.obeys_bind (obeys_of_looks (looks_readForUpdate path))
  intro table _ _
  apply Program.obeys_bind (obeys_writeEntries (fine table))
  intro result _ _
  cases result with
  | ok _ => trivial
  | error error => exact ⟨⟨trivial, trivial⟩, fun _ => trivial⟩

theorem obeys_perform {call : StoreCall}
    (fine : ∀ table, good (encode (Store.onTable call table).2)) :
    Obeys path good (fun _ _ => True) wrote (perform path call) := by
  cases call with
  | get key =>
    exact Program.obeys_mono (fun _ _ => id) (fun _ _ _ => trivial)
      (obeys_of_looks (looks_get path key))
  | set key value => exact ⟨⟨trivial, trivial⟩, fun _ => obeys_update fine⟩
  | remove key => exact ⟨⟨trivial, trivial⟩, fun _ => obeys_update fine⟩
  | setMany entries => exact ⟨⟨trivial, trivial⟩, fun _ => obeys_update fine⟩
  | removeMany keys => exact ⟨⟨trivial, trivial⟩, fun _ => obeys_update fine⟩

end

theorem uses_perform (path : Path) (call : StoreCall) : (perform path call).Uses (Takes path) := by
  have obeys : Obeys path (fun _ => True) (fun _ _ => True) false (perform path call) :=
    obeys_perform fun _ => trivial
  exact Program.uses_of_obeys (fun _ _ allows => allows.1) obeys

/-! ## Places -/

def MadeAbove (path : Path) (files after : FileSystem) (location : Location) : Prop :=
  files.node? location = none ∧ after.node? location = some .directory ∧
    ∃ parent, path.parent? = some parent ∧
      ∃ beginning ∈ parent.ancestors, Leads after beginning location

/-- Nothing has changed but the file, the file aside and directories that were missing. -/
structure Confined (path : Path) (files after : FileSystem) : Prop where
  keeps : Keeps files after
  nodes : ∀ location, after.node? location = files.node? location ∨ Leads after path location ∨
    Leads after (asidePath path) location ∨ MadeAbove path files after location

namespace Confined

variable {path : Path} {files between after : FileSystem}

theorem refl (path : Path) (files : FileSystem) : Confined path files files :=
  ⟨.refl files, fun _ => .inl rfl⟩

theorem trans (first : Confined path files between) (next : Confined path between after) :
    Confined path files after := by
  refine ⟨first.keeps.trans next.keeps, ?_⟩
  intro location
  rcases next.nodes location with same | here | aside | ⟨missing, made, parent, above, leads⟩
  · rcases first.nodes location with same' | here | aside |
        ⟨missing, made, parent, above, beginning, member, leads⟩
    · exact .inl (same.trans same')
    · exact .inr (.inl (next.keeps.leads here))
    · exact .inr (.inr (.inl (next.keeps.leads aside)))
    · exact .inr (.inr (.inr ⟨missing, same.trans made, parent, above, beginning, member,
        next.keeps.leads leads⟩))
  · exact .inr (.inl here)
  · exact .inr (.inr (.inl aside))
  · rcases first.nodes location with same' | here | aside | ⟨-, made', -⟩
    · exact .inr (.inr (.inr ⟨same' ▸ missing, made, parent, above, leads⟩))
    · exact .inr (.inl (next.keeps.leads here))
    · exact .inr (.inr (.inl (next.keeps.leads aside)))
    · rw [missing] at made'
      cases made'

theorem of_alters {places : Location → Prop} (alters : Alters places files after)
    (inside : ∀ location, places location →
      Leads files path location ∨ Leads files (asidePath path) location) :
    Confined path files after := by
  refine ⟨alters.keeps, ?_⟩
  intro location
  by_cases place : places location
  · rcases inside location place with here | aside
    · exact .inr (.inl (alters.keeps.leads here))
    · exact .inr (.inr (.inl (alters.keeps.leads aside)))
  · exact .inl (alters.nodes location place)

theorem of_sprouts {parent : Path} (above : path.parent? = some parent)
    (sprouts : Sprouts parent files after) : Confined path files after := by
  refine ⟨sprouts.keeps, ?_⟩
  intro location
  rcases sprouts.nodes location with same | ⟨missing, made, leads⟩
  · exact .inl same
  · exact .inr (.inr (.inr ⟨missing, made, parent, above, leads⟩))

theorem mishaps (path : Path) (files : FileSystem) (mishaps : List (Option Mishap)) :
    Confined path files { files with mishaps } :=
  ⟨keeps_mishaps files mishaps, fun _ => .inl rfl⟩

theorem past (path : Path) (files : FileSystem) : Confined path files files.past :=
  mishaps path files files.mishaps.tail

theorem perform {op : FileOp} (takes : Takes path (.file op)) (files : FileSystem) :
    Confined path files (FileOp.perform op files).2 := by
  cases op with
  | probe probed => exact .refl path files
  | read found => exact .refl path files
  | write written content =>
    obtain rfl : written = asidePath path := takes
    apply FileOp.settle_induction (motive := Confined _ files) (.refl _ files)
    intro after done
    exact of_alters (write_alters done) fun _ => .inr
  | createDirectories made => exact of_sprouts takes (createDirectories_sprouts files made)
  | rename source destination =>
    obtain ⟨rfl, rfl⟩ := takes
    apply FileOp.settle_induction (motive := Confined _ files) (.refl _ files)
    intro after done
    exact of_alters (rename_alters done) fun _ => Or.symm
  | remove removed =>
    obtain rfl : removed = path := takes
    apply FileOp.settle_induction (motive := Confined _ files) (.refl _ files)
    intro after done
    exact of_alters (remove_alters done) fun _ => .inl
  | touch touched => exact takes.elim

theorem fail {op : FileOp} (takes : Takes path (.file op)) (mishap : Mishap)
    (files : FileSystem) : Confined path files (FileOp.fail mishap op files).2 := by
  cases op with
  | write written content =>
    obtain rfl : written = asidePath path := takes
    cases left : mishap.written with
    | none =>
      simp only [FileOp.fail, FileOp.halfWritten, left]
      exact .refl path files
    | some count =>
      simp only [FileOp.fail, FileOp.halfWritten, left]
      apply FileOp.settle_induction (motive := Confined _ files) (.refl _ files)
      intro after done
      exact of_alters (write_alters done) fun _ => .inr
  | _ => exact .refl path files

theorem handle {op : SystemOp} (takes : Takes path op) (machine : Machine) :
    Confined path machine.files (Machine.quiet op machine).2.files := by
  cases op with
  | file op =>
    cases real : op.isProbe with
    | true =>
      cases op with
      | probe probed => exact .refl path machine.files
      | _ => cases real
    | false =>
      have handled := FileOp.handle_eq real machine.files
      simp only [Machine.quiet, handled]
      cases machine.files.due with
      | none => exact (past path machine.files).trans (perform takes machine.files.past)
      | some mishap => exact (past path machine.files).trans (fail takes mishap machine.files.past)
  | _ => exact .refl path machine.files

end Confined

/-! ## New directories -/

theorem Confined.isTree {path : Path} {files after : FileSystem}
    (confined : Confined path files after) (tree : files.IsTree) : after.IsTree := by
  intro location name there
  rcases confined.nodes (location ++ [name]) with same | leads | leads | ⟨-, -, _, -, _, -, leads⟩
  · rw [same] at there
    exact confined.keeps.directories location (tree location name there)
  · exact leads.isDirectory
  · exact leads.isDirectory
  · exact leads.isDirectory

/-- New directories above the file bring no other file into view. -/
def Steady (files : FileSystem) (path : Path) : Prop :=
  (files.IsTree ∧ ".." ∉ path.pieces) ∨ HasRoom files path

theorem Confined.steady {path : Path} {files after : FileSystem}
    (confined : Confined path files after) (steady : Steady files path) : Steady after path := by
  rcases steady with ⟨tree, direct⟩ | room
  · exact .inl ⟨confined.isTree tree, direct⟩
  · exact .inr (room.keeps confined.keeps)

/-- Once directories above the file are made, the path goes up from one of them and leads to a file
that has been in the tree. -/
def ComesIntoView (path : Path) (files after : FileSystem) : Prop :=
  ".." ∈ path.pieces ∧ ¬HasRoom files path ∧
    ∃ parent grown location content, path.parent? = some parent ∧ Sprouts parent files grown ∧
      grown.locate path = .ok location ∧ files.node? location = some (.file content) ∧
      after.content? path = some content

theorem up_of_not_steady {files : FileSystem} {path : Path} (tree : files.IsTree)
    (unsteady : ¬Steady files path) : ".." ∈ path.pieces ∧ ¬HasRoom files path := by
  obtain ⟨indirect, crowded⟩ := not_or.1 unsteady
  by_cases up : ".." ∈ path.pieces
  · exact ⟨up, crowded⟩
  · exact absurd ⟨tree, up⟩ indirect

theorem comesIntoView_of_sprouts {path parent : Path} {files grown : FileSystem}
    (up : ".." ∈ path.pieces) (crowded : ¬HasRoom files path) (above : path.parent? = some parent)
    (sprouts : Sprouts parent files grown) {content : Bytes}
    (there : grown.content? path = some content) : ComesIntoView path files grown := by
  obtain ⟨location, located, node⟩ := read_eq_ok.1 (content?_eq_some.1 there)
  -- Nothing has been made but directories, so the file was there before.
  have old : files.node? location = some (.file content) := by
    rcases sprouts.nodes location with same | ⟨-, made, -⟩
    · exact same.symm.trans node
    · rw [made] at node
      cases node
  exact ⟨up, crowded, parent, grown, location, content, above, sprouts, located, old, there⟩

theorem ComesIntoView.congr {path : Path} {files between after : FileSystem}
    (comes : ComesIntoView path files between)
    (same : after.content? path = between.content? path) : ComesIntoView path files after := by
  obtain ⟨up, crowded, parent, grown, location, content, above, sprouts, located, old, there⟩ :=
    comes
  exact ⟨up, crowded, parent, grown, location, content, above, sprouts, located, old,
    same.trans there⟩

theorem Steady.createDirectories {path parent : Path} {files : FileSystem}
    (steady : Steady files path) (above : path.parent? = some parent) :
    (files.createDirectories parent).2.content? path = files.content? path := by
  rcases steady with ⟨tree, direct⟩ | room
  · exact content?_congr ((createDirectories_sprouts files parent).read_iff tree direct)
  · rw [room.createDirectories above]

end FileStore

end PracticeClient
