import PracticeClient.Proofs.Storage.Presence

namespace PracticeClient

namespace FileSystem

variable {fs between after : FileSystem} {new : Location → Node → Prop}

/-- Whatever was there is as it was, and what was not there is new in a certain way. -/
structure Adds (new : Location → Node → Prop) (fs after : FileSystem) : Prop where
  grows : Grows fs after
  news : ∀ {location node}, fs.node? location = none → after.node? location = some node →
    new location node

namespace Adds

theorem of_nodes (here : after.here = fs.here)
    (same : ∀ location, after.node? location = fs.node? location) : Adds new fs after := by
  refine ⟨⟨here, fun there => (same _).trans there⟩, ?_⟩
  intro location node missing there
  rw [same, missing] at there
  cases there

theorem trans (first : Adds new fs between) (next : Adds new between after) :
    Adds new fs after := by
  refine ⟨first.grows.trans next.grows, ?_⟩
  intro location node missing there
  cases found : between.node? location with
  | none => exact next.news found there
  | some node' =>
    rw [next.grows.nodes found] at there
    cases there
    exact first.news missing found

theorem mono {more : Location → Node → Prop} (adds : Adds new fs after)
    (implies : ∀ location node, new location node → more location node) : Adds more fs after :=
  ⟨adds.grows, fun missing there => implies _ _ (adds.news missing there)⟩

theorem node?_eq (adds : Adds (fun _ _ => False) fs after) (location : Location) :
    after.node? location = fs.node? location := by
  cases there : after.node? location with
  | none =>
    cases missing : fs.node? location with
    | none => rfl
    | some node =>
      rw [adds.grows.nodes missing] at there
      cases there
  | some node =>
    cases found : fs.node? location with
    | none => exact (adds.news found there).elim
    | some node' =>
      rw [adds.grows.nodes found] at there
      exact there.symm

theorem of_sprouts {path : Path} (directories : ∀ location, new location .directory)
    (sprouts : Sprouts path fs after) : Adds new fs after := by
  refine ⟨sprouts.grows, ?_⟩
  intro location node missing there
  rcases sprouts.nodes location with same | ⟨-, made, -⟩
  · rw [same, missing] at there
    cases there
  · rw [made] at there
    cases there
    exact directories location

end Adds

theorem grows_set {location : Location} (missing : fs.node? location = none) (node : Node) :
    Grows fs (fs.set location node) := by
  have inner : location ≠ [] := by
    rintro rfl
    cases missing
  refine ⟨rfl, ?_⟩
  intro other found there
  rw [node?_set inner, if_neg]
  · exact there
  · rintro rfl
    rw [missing] at there
    cases there

theorem adds_touch {path : Path} (touched : fs.touch path = .ok after)
    (file : ∀ {directory name}, Names fs path directory name false →
      new (directory ++ [name]) (.file [])) : Adds new fs after := by
  obtain ⟨directory, name, names, rfl | ⟨missing, written⟩⟩ := touch_eq_ok touched
  · exact .of_nodes rfl fun _ => rfl
  · obtain ⟨directory', name', names', -, rfl⟩ := write_eq_ok written
    rw [names.unique names'] at missing
    have inner : directory' ++ [name'] ≠ [] := by simp
    refine ⟨grows_set missing _, ?_⟩
    intro location node absent there
    rw [node?_set inner] at there
    split at there
    · next same =>
      cases there
      exact same ▸ file names'
    · rw [absent] at there
      cases there

end FileSystem

open FileSystem FileStore

theorem FileSystem.Adds.content? {fs after : FileSystem} {new : Location → Node → Prop}
    {directory : Path} {name : String} (adds : Adds new fs after) (ends : EndsWithName directory)
    (solid : Path.isDot name = false) (down : name ≠ "..")
    (unlike : ∀ location content, new location (.file content) →
      location.getLast? ≠ some name)
    (steady : Steady fs (directory.child name)) :
    after.content? (directory.child name) = fs.content? (directory.child name) := by
  apply content?_congr
  intro content
  refine ⟨fun read => ?_, adds.grows.read⟩
  obtain ⟨location, located, node⟩ := read_eq_ok.1 read
  obtain ⟨place, rfl⟩ := location_of_fileName (fileName_child solid down directory) located
  have file : fs.node? (place ++ [name]) = some (.file content) := by
    cases found : fs.node? (place ++ [name]) with
    | none => exact absurd List.getLast?_concat (unlike _ content (adds.news found node))
    | some node' =>
      rw [adds.grows.nodes found] at node
      exact node
  refine read_eq_ok.2 ⟨place ++ [name], ?_, file⟩
  rcases steady with ⟨tree, direct⟩ | room
  · obtain ⟨zero, empty, walked⟩ := locate_eq_ok.1 located
    rw [adds.grows.keeps.start] at walked
    exact locate_eq_ok.2 ⟨zero, empty, adds.grows.walk_back tree direct file walked⟩
  · rcases room directory (parent_child ends solid) with empty | leads
    · rw [isEmpty_of_endsWithName ends] at empty
      cases empty
    · have there : (fs.node? (place ++ [name])).isSome = true := by
        rw [file]
        rfl
      exact locate_of_grows ends leads adds.grows located there

/-! ## Machines -/

namespace Machine

/-- Nothing has happened to the files but that something was added, and the secrets are the same. -/
structure Spares (new : Location → Node → Prop) (machine after : Machine) : Prop where
  files : Adds new machine.files after.files
  secrets : after.keychain.entries = machine.keychain.entries

variable {machine between after : Machine} {new : Location → Node → Prop}

namespace Spares

theorem refl (new : Location → Node → Prop) (machine : Machine) : Spares new machine machine :=
  ⟨.of_nodes rfl fun _ => rfl, rfl⟩

theorem trans (first : Spares new machine between) (next : Spares new between after) :
    Spares new machine after :=
  ⟨first.files.trans next.files, next.secrets.trans first.secrets⟩

theorem mono {more : Location → Node → Prop} (spares : Spares new machine after)
    (implies : ∀ location node, new location node → more location node) :
    Spares more machine after :=
  ⟨spares.files.mono implies, spares.secrets⟩

theorem of_files {files : FileSystem} (adds : Adds new machine.files files) :
    Spares new machine { machine with files } :=
  ⟨adds, rfl⟩

end Spares

inductive Consults : SystemOp → Prop
  | probe (path : Path) : Consults (.file (.probe path))
  | read (path : Path) : Consults (.file (.read path))
  | build (service key : String) : Consults (.keychain (.build service key))
  | get (service key : String) : Consults (.keychain (.get service key))
  | log (entry : LogEntry) : Consults (.log entry)
  | announce (call : StoreCall) : Consults (.announce call)

theorem consults_of_looks {op : SystemOp} (looks : Looks op) : Consults op := by
  cases looks with
  | probe path => exact .probe path
  | read path => exact .read path
  | log entry => exact .log entry

theorem entries_meetFault (keychain : Keychain) (op : KeychainOp) :
    (keychain.meetFault op).2.entries = keychain.entries := by
  unfold Keychain.meetFault
  split <;> rfl

theorem spares_quiet {op : SystemOp} (consults : Consults op) (machine : Machine) :
    Spares new machine (quiet op machine).2 := by
  cases consults with
  | probe path => exact .refl new machine
  | read path =>
    simp only [quiet, FileOp.handle_read]
    exact .of_files (.of_nodes rfl fun _ => rfl)
  | build service key =>
    refine ⟨.of_nodes rfl fun _ => rfl, ?_⟩
    have met := entries_meetFault machine.keychain (.build service key)
    simp only [quiet, Keychain.handle]
    split
    · next found => rwa [found] at met
    · next found => rwa [found] at met
  | get service key =>
    refine ⟨.of_nodes rfl fun _ => rfl, ?_⟩
    have met := entries_meetFault machine.keychain (.get service key)
    simp only [quiet, Keychain.handle]
    split
    · next found => rwa [found] at met
    · next keychain found =>
      rw [found] at met
      rw [Keychain.perform]
      split
      · exact met
      · split <;> exact met
  | log entry => exact .refl new machine
  | announce call => exact .refl new machine

theorem spares_of_consults {α : Type} {program : System α} (consults : program.Uses Consults)
    (machine : Machine) : Spares new machine (program.run quiet machine).2 := by
  apply Program.through_end
  refine Program.through_of_uses (fun op between consults spares => ?_) consults
    (Spares.refl new machine)
  exact spares.trans (spares_quiet consults between)

theorem spares_past (machine : Machine) :
    Adds new machine.files machine.files.past :=
  .of_nodes rfl fun _ => rfl

theorem spares_touch {directory : Path} {name : String} (solid : name ≠ "")
    (file : ∀ location, new (location ++ [name]) (.file [])) (machine : Machine) :
    Spares new machine (quiet (.file (.touch (directory.child name))) machine).2 := by
  have handled := FileOp.handle_eq (rfl : FileOp.isProbe (.touch (directory.child name)) = false)
    machine.files
  simp only [quiet, handled]
  cases machine.files.due with
  | some mishap => exact .of_files (spares_past machine)
  | none =>
    apply FileOp.settle_induction (motive := fun files => Spares new machine { machine with files })
    · exact .of_files (spares_past machine)
    · intro after touched
      refine .of_files ((spares_past machine).trans (adds_touch touched ?_))
      intro place found names
      obtain ⟨kept, child, -⟩ := child_pieces directory name
      rw [child] at names
      obtain ⟨rfl, -⟩ := names_child solid names
      exact file place

theorem spares_createDirectories (directories : ∀ location, new location .directory)
    (path : Path) (machine : Machine) :
    Spares new machine (quiet (.file (.createDirectories path)) machine).2 := by
  have handled := FileOp.handle_eq (rfl : FileOp.isProbe (.createDirectories path) = false)
    machine.files
  simp only [quiet, handled]
  cases machine.files.due with
  | some mishap => exact .of_files (spares_past machine)
  | none =>
    have sprouts := createDirectories_sprouts machine.files.past path
    exact .of_files ((spares_past machine).trans (.of_sprouts directories sprouts))

end Machine

end PracticeClient
