import PracticeClient.Proofs.Storage.FileSteps

namespace PracticeClient

namespace FileSystem

variable {fs after : FileSystem}

theorem touch_eq_ok {path : Path} (touched : fs.touch path = .ok after) :
    ∃ directory name, Names fs path directory name false ∧
      (after = fs ∨ (fs.node? (directory ++ [name]) = none ∧ fs.write path [] = .ok after)) := by
  unfold touch at touched
  cases free : fs.writable path with
  | error error =>
    rw [free] at touched
    cases touched
  | ok location =>
    obtain ⟨directory, name, names, -, rfl⟩ := writable_eq_ok free
    refine ⟨directory, name, names, ?_⟩
    rw [free] at touched
    cases there : fs.node? (directory ++ [name]) with
    | some node =>
      left
      simpa [Except.map, there] using touched.symm
    | none =>
      right
      refine ⟨rfl, ?_⟩
      rw [write, free]
      simpa [Except.map, there] using touched

end FileSystem

namespace FileStore

open FileSystem

/-! ## Files in a directory -/

def EndsWithName (directory : Path) : Prop :=
  ∃ front last, directory.pieces = front ++ [last] ∧ Path.isDot last = false

section

variable {directory : Path} {name : String}

theorem child_of_endsWithName (ends : EndsWithName directory) (name : String) :
    directory.child name = ⟨directory.isAbsolute, directory.pieces ++ [name]⟩ := by
  obtain ⟨front, last, pieces, solid⟩ := ends
  obtain ⟨kept, child, same | slashed⟩ := child_pieces directory name
  · rw [child, same]
  · -- No slash follows the name.
    rw [pieces] at slashed
    obtain ⟨-, alike⟩ := List.append_inj' slashed rfl
    cases alike
    cases solid

theorem trimEnd_concat (front : List String) {last : String} (solid : Path.isDot last = false) :
    Path.trimEnd (front ++ [last]) = front ++ [last] := by
  simp [Path.trimEnd, solid]

theorem parent_child (ends : EndsWithName directory) (solid : Path.isDot name = false) :
    (directory.child name).parent? = some directory := by
  have child := child_of_endsWithName ends name
  obtain ⟨front, last, pieces, solid'⟩ := ends
  have trimmed := trimEnd_concat directory.pieces solid
  have above : Path.trimEnd directory.pieces = directory.pieces := by
    rw [pieces, trimEnd_concat front solid']
  rw [child, Path.parent?, trimmed]
  simp [above]

theorem fileName_child (solid : Path.isDot name = false) (down : name ≠ "..") (directory : Path) :
    (directory.child name).fileName? = some name := by
  obtain ⟨kept, child, -⟩ := child_pieces directory name
  rw [child, Path.fileName?, trimEnd_concat kept solid, List.getLast?_concat]
  split
  · next up => exact absurd (Option.some.inj up) down
  · rfl

theorem children_apart {other : Path} {name' : String} (solid : name ≠ "")
    (solid' : Path.isDot name' = false) (down : name' ≠ "..") (differ : name ≠ name') :
    Apart (directory.child name) (other.child name') := by
  intro fs place found content names _ located
  obtain ⟨kept, child, -⟩ := child_pieces directory name
  rw [child] at names
  obtain ⟨rfl, -⟩ := names_child solid names
  obtain ⟨place', same⟩ := location_of_fileName (fileName_child solid' down other) located
  obtain ⟨-, alike⟩ := List.append_inj' same rfl
  simp only [List.cons.injEq, and_true] at alike
  exact differ alike

end

/-! ## What stands at a path -/

/-- What is read at a path, and would be read if directories above it were made first. -/
structure Stands (files : FileSystem) (path : Path) (content : Option Bytes) : Prop where
  now : files.content? path = content
  later : ∀ {parent grown}, path.parent? = some parent → Sprouts parent files grown →
    grown.content? path = content

namespace Stands

variable {files grown : FileSystem} {path parent : Path} {content : Option Bytes}

theorem of_content {bytes : Bytes} (there : files.content? path = some bytes) :
    Stands files path (some bytes) := by
  refine ⟨there, ?_⟩
  intro parent grown _ sprouts
  exact content?_eq_some.2 (sprouts.grows.read (content?_eq_some.1 there))

theorem of_tree (tree : files.IsTree) (direct : ".." ∉ path.pieces) :
    Stands files path (files.content? path) := by
  refine ⟨rfl, ?_⟩
  intro parent grown _ sprouts
  exact content?_congr (sprouts.read_iff tree direct)

theorem mishaps (stands : Stands files path content) (mishaps : List (Option Mishap)) :
    Stands { files with mishaps } path content := by
  refine ⟨(content?_mishaps files mishaps path).trans stands.now, ?_⟩
  intro parent grown above sprouts
  exact stands.later above ⟨sprouts.here, sprouts.nodes⟩

theorem sprouts (stands : Stands files path content) (above : path.parent? = some parent)
    (sprouts : Sprouts parent files grown) : Stands grown path content := by
  refine ⟨stands.later above sprouts, ?_⟩
  intro parent' grown' above' sprouts'
  obtain rfl : parent = parent' := Option.some.inj (above.symm.trans above')
  exact stands.later above (sprouts.trans sprouts')

end Stands

/-! ## Files in a directory that is there -/

section

variable {files after grown : FileSystem} {directory : Path} {name : String}
  {content : Option Bytes}

theorem isEmpty_of_endsWithName (ends : EndsWithName directory) : directory.isEmpty = false := by
  obtain ⟨front, last, pieces, solid⟩ := ends
  have named : last ≠ "" := by
    rintro rfl
    cases solid
  simp [Path.isEmpty, pieces, named]

theorem locate_of_grows (ends : EndsWithName directory)
    (leads : files.leadsToDirectory directory = true) (grows : Grows files grown)
    {location : Location} (located : grown.locate (directory.child name) = .ok location)
    (there : (files.node? location).isSome = true) :
    files.locate (directory.child name) = .ok location := by
  have child := child_of_endsWithName ends name
  unfold leadsToDirectory at leads
  split at leads
  · next place found =>
    obtain ⟨-, -, walked⟩ := locate_eq_ok.1 found
    obtain ⟨zero, empty, walked'⟩ := locate_eq_ok.1 located
    refine locate_eq_ok.2 ⟨zero, empty, ?_⟩
    have start : files.start (directory.child name) = files.start directory := by
      rw [start, FileSystem.start, child]
    have further := walk_of_directories grows.keeps.directories walked
      (isSome_of_isDirectory (grows.keeps.directories place leads))
    rw [grows.keeps.start, start, child, walk_append, further] at walked'
    rw [start, child, walk_append, walked]
    dsimp only at walked' ⊢
    rw [walk] at walked' ⊢
    cases stepped : grown.step place name with
    | error error => simp [stepped] at walked'
    | ok next =>
      rw [stepped] at walked'
      cases walked'
      rw [step_of_directories stepped leads there]
      rfl
  · cases leads

theorem read_of_sprouts {parent : Path} (ends : EndsWithName directory)
    (leads : files.leadsToDirectory directory = true) (sprouts : Sprouts parent files grown)
    {bytes : Bytes} (read : grown.read (directory.child name) = .ok bytes) :
    files.read (directory.child name) = .ok bytes := by
  obtain ⟨location, located, node⟩ := read_eq_ok.1 read
  have file : files.node? location = some (.file bytes) := by
    rcases sprouts.nodes location with same | ⟨-, made, -⟩
    · exact same.symm.trans node
    · rw [made] at node
      cases node
  have there : (files.node? location).isSome = true := by
    rw [file]
    rfl
  exact read_eq_ok.2 ⟨location, locate_of_grows ends leads sprouts.grows located there, file⟩

theorem HasRoom.stands (ends : EndsWithName directory) (solid : Path.isDot name = false)
    (room : HasRoom files (directory.child name)) :
    Stands files (directory.child name) (files.content? (directory.child name)) := by
  refine ⟨rfl, ?_⟩
  intro parent grown _ sprouts
  rcases room directory (parent_child ends solid) with empty | leads
  · rw [isEmpty_of_endsWithName ends] at empty
    cases empty
  · apply content?_congr
    intro bytes
    exact ⟨read_of_sprouts ends leads sprouts, sprouts.grows.read⟩

theorem hasRoom_of_sibling {name' : String} (ends : EndsWithName directory)
    (solid : Path.isDot name = false) (solid' : name' ≠ "") {place : Location} {found : String}
    (names : Names files (directory.child name') place found false) :
    HasRoom files (directory.child name) := by
  intro parent above
  rw [parent_child ends solid] at above
  obtain rfl := Option.some.inj above
  right
  have zero := names.noZero
  have directed := names.isDirectory
  rw [child_of_endsWithName ends] at names zero
  obtain ⟨-, walked⟩ := names_child solid' names
  have zero : hasZero directory = false := by
    refine hasZero_of_starts ?_ zero
    exact List.prefix_append _ _
  have located : files.locate directory = .ok place :=
    locate_eq_ok.2 ⟨zero, isEmpty_of_endsWithName ends, walked⟩
  simp only [leadsToDirectory, located, directed]

end

/-! ## What leaves a file alone -/

section

variable {directory : Path} {name name' : String} {files : FileSystem} {content : Option Bytes}

theorem Stands.touch (ends : EndsWithName directory) (solid : Path.isDot name = false)
    (down : name ≠ "..") (solid' : name' ≠ "") (differ : name' ≠ name)
    (stands : Stands files (directory.child name) content) :
    Stands (FileOp.handle (.touch (directory.child name')) files).2 (directory.child name)
      content := by
  have past : Stands files.past (directory.child name) content := stands.mishaps _
  rw [FileOp.handle_eq rfl]
  cases files.due with
  | some mishap => exact past
  | none =>
    apply FileOp.settle_induction (motive := (Stands · (directory.child name) content)) past
    intro after touched
    obtain ⟨place, found, names, rfl | ⟨-, written⟩⟩ := touch_eq_ok touched
    · exact past
    · -- The directory is there already.
      have room := (hasRoom_of_sibling ends solid solid' names).keeps (write_alters written).keeps
      have apart : Apart (directory.child name') (directory.child name) :=
        children_apart solid' solid down differ
      have same := content?_congr (apart.read_of_write written)
      have stands' := room.stands ends solid
      rwa [same, past.now] at stands'

theorem Stands.createDirectories {path parent : Path} (above : path.parent? = some parent)
    (stands : Stands files path content) :
    Stands (FileOp.handle (.createDirectories parent) files).2 path content := by
  have past : Stands files.past path content := stands.mishaps _
  rw [FileOp.handle_eq rfl]
  cases files.due with
  | some mishap => exact past
  | none => exact past.sprouts above (createDirectories_sprouts files.past parent)

theorem Stands.look {α : Type} {program : System α} (looks : program.Uses Looks) {path : Path}
    {machine : Machine} (stands : Stands machine.files path content) :
    Stands (program.run Machine.quiet machine).2.files path content := by
  have through : program.Through (fun machine => Stands machine.files path content)
      Machine.quiet machine := by
    refine Program.through_of_uses ?_ looks stands
    intro op machine looks stands
    cases looks with
    | probe probed => exact stands
    | read found =>
      simp only [Machine.quiet, FileOp.handle_read]
      exact stands.mishaps _
    | log entry => exact stands
  exact Program.through_end through

end

end FileStore

end PracticeClient
