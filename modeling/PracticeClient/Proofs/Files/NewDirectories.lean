import PracticeClient.Proofs.Files.Following

namespace PracticeClient.FileSystem

/-! ## Trees that keep their directories -/

def IsTree (fs : FileSystem) : Prop :=
  ∀ location name, (fs.node? (location ++ [name])).isSome = true → fs.isDirectory location = true

theorem isTree_of_nodes {fs : FileSystem}
    (within : ∀ entry ∈ fs.nodes, fs.isDirectory entry.1.dropLast = true) : fs.IsTree := by
  intro location name there
  have inner : location ++ [name] ≠ [] := by simp
  rw [node?, if_neg inner, Option.isSome_iff_exists] at there
  obtain ⟨node, found⟩ := there
  obtain ⟨before, after, nodes, -⟩ := List.lookup_eq_some_iff.1 found
  have directed := within (location ++ [name], node) (by simp [nodes])
  rwa [List.dropLast_concat] at directed

structure Keeps (fs after : FileSystem) : Prop where
  here : after.here = fs.here
  directories : ∀ location, fs.isDirectory location = true → after.isDirectory location = true

variable {fs between after : FileSystem}

theorem Keeps.refl (fs : FileSystem) : Keeps fs fs := ⟨rfl, fun _ directed => directed⟩

theorem Keeps.trans (first : Keeps fs between) (next : Keeps between after) : Keeps fs after := by
  refine ⟨next.here.trans first.here, ?_⟩
  intro location directed
  exact next.directories location (first.directories location directed)

theorem Keeps.start (keeps : Keeps fs after) (path : Path) : after.start path = fs.start path := by
  rw [FileSystem.start, FileSystem.start, keeps.here]

theorem Keeps.leadsToDirectory (keeps : Keeps fs after) {path : Path}
    (leads : fs.leadsToDirectory path = true) : after.leadsToDirectory path = true := by
  unfold FileSystem.leadsToDirectory locate at leads ⊢
  rw [keeps.start]
  split at leads
  · next location located =>
    split at located
    · cases located
    next zero =>
    split at located
    · cases located
    next empty =>
    have directed := keeps.directories location leads
    have walked := walk_of_directories keeps.directories located (isSome_of_isDirectory directed)
    rw [if_neg zero, if_neg empty, walked]
    exact directed
  · cases leads

theorem Grows.keeps (grows : Grows fs after) : Keeps fs after :=
  ⟨grows.here, fun _ => grows.isDirectory⟩

def Leads (fs : FileSystem) (path : Path) (location : Location) : Prop :=
  ∃ directory name slashed, Names fs path directory name slashed ∧ location = directory ++ [name]

theorem Keeps.leads (keeps : Keeps fs after) {path : Path} {location : Location}
    (leads : Leads fs path location) : Leads after path location := by
  obtain ⟨directory, name, slashed, names, same⟩ := leads
  exact ⟨directory, name, slashed, names.of_directories keeps.directories keeps.here, same⟩

theorem Leads.isDirectory {path : Path} {location : Location} {name : String}
    (leads : Leads fs path (location ++ [name])) : fs.isDirectory location = true := by
  obtain ⟨directory, name', slashed, names, same⟩ := leads
  obtain ⟨rfl, -⟩ := List.append_inj' same rfl
  exact names.isDirectory

/-! ## What is made -/

/-- Where nothing was there may be a directory now, if a beginning of the path leads there. -/
structure Sprouts (path : Path) (fs after : FileSystem) : Prop where
  here : after.here = fs.here
  nodes : ∀ location, after.node? location = fs.node? location ∨
    (fs.node? location = none ∧ after.node? location = some .directory ∧
      ∃ beginning ∈ path.ancestors, Leads after beginning location)

namespace Sprouts

variable {path : Path}

theorem refl (path : Path) (fs : FileSystem) : Sprouts path fs fs :=
  ⟨rfl, fun _ => .inl rfl⟩

theorem grows (sprouts : Sprouts path fs after) : Grows fs after := by
  refine ⟨sprouts.here, ?_⟩
  intro location node there
  rcases sprouts.nodes location with same | ⟨missing, -⟩
  · exact same.trans there
  · rw [missing] at there
    cases there

theorem keeps (sprouts : Sprouts path fs after) : Keeps fs after :=
  sprouts.grows.keeps

theorem trans (first : Sprouts path fs between) (next : Sprouts path between after) :
    Sprouts path fs after := by
  refine ⟨next.here.trans first.here, ?_⟩
  intro location
  rcases next.nodes location with same | ⟨missing, made⟩
  · rw [same]
    rcases first.nodes location with same' | ⟨missing, made, beginning, above, leads⟩
    · exact .inl same'
    · exact .inr ⟨missing, made, beginning, above, next.keeps.leads leads⟩
  · rcases first.nodes location with same' | ⟨-, made', -⟩
    · exact .inr ⟨same' ▸ missing, made⟩
    · rw [missing] at made'
      cases made'

theorem mono {parent : Path} (sprouts : Sprouts parent fs after)
    (above : ∀ beginning ∈ parent.ancestors, beginning ∈ path.ancestors) :
    Sprouts path fs after := by
  refine ⟨sprouts.here, ?_⟩
  intro location
  apply (sprouts.nodes location).imp_right
  rintro ⟨missing, made, beginning, member, leads⟩
  exact ⟨missing, made, beginning, above beginning member, leads⟩

theorem isTree (sprouts : Sprouts path fs after) (tree : fs.IsTree) : after.IsTree := by
  intro location name there
  rcases sprouts.nodes (location ++ [name]) with same | ⟨-, -, beginning, -, leads⟩
  · rw [same] at there
    exact sprouts.keeps.directories location (tree location name there)
  · exact leads.isDirectory

end Sprouts

theorem mem_ancestors {path beginning : Path} :
    beginning ∈ path.ancestors ↔
      beginning.isAbsolute = path.isAbsolute ∧ beginning.pieces <+: path.pieces := by
  simp only [Path.ancestors, List.mem_reverse, List.mem_map, List.mem_range]
  constructor
  · rintro ⟨count, -, rfl⟩
    exact ⟨rfl, List.take_prefix count path.pieces⟩
  · rintro ⟨same, starts⟩
    refine ⟨beginning.pieces.length, Nat.lt_succ_of_le starts.length_le, ?_⟩
    rw [← List.prefix_iff_eq_take.1 starts, ← same]

theorem self_mem_ancestors (path : Path) : path ∈ path.ancestors :=
  mem_ancestors.2 ⟨rfl, List.prefix_refl path.pieces⟩

theorem trimEnd_starts (pieces : List String) : Path.trimEnd pieces <+: pieces := by
  rw [Path.trimEnd, ← List.reverse_suffix, List.reverse_reverse]
  exact List.dropWhile_suffix Path.isDot

theorem ancestors_of_parent {path parent : Path} (above : path.parent? = some parent) :
    ∀ beginning ∈ parent.ancestors, beginning ∈ path.ancestors := by
  intro beginning member
  obtain ⟨same, starts⟩ := mem_ancestors.1 member
  unfold Path.parent? at above
  split at above
  · cases above
  · cases above
    have front := List.dropLast_prefix (Path.trimEnd path.pieces)
    refine mem_ancestors.2 ⟨same, starts.trans ?_⟩
    exact (trimEnd_starts _).trans (front.trans (trimEnd_starts path.pieces))

theorem makeDirectory_eq_ok {path : Path} (made : fs.makeDirectory path = .ok after) :
    ∃ directory name slashed, Names fs path directory name slashed ∧
      fs.node? (directory ++ [name]) = none ∧ after = fs.set (directory ++ [name]) .directory := by
  unfold makeDirectory at made
  cases target : fs.target path with
  | error error => simp [target] at made
  | ok found =>
    obtain ⟨directory, name?, slashed⟩ := found
    cases name? with
    | none => simp [target, Target.location?] at made
    | some name =>
      simp only [target, Target.location?, Option.map_some] at made
      split at made
      · cases made
      · next free =>
        cases made
        exact ⟨directory, name, slashed, target_eq_iff.1 target, by simpa using free, rfl⟩

theorem makeDirectory_sprouts {path : Path} (made : fs.makeDirectory path = .ok after) :
    Sprouts path fs after := by
  obtain ⟨directory, name, slashed, names, free, rfl⟩ := makeDirectory_eq_ok made
  have inner : directory ++ [name] ≠ [] := by simp
  have keep (location : Location) (directed : fs.isDirectory location = true) :
      (fs.set (directory ++ [name]) .directory).isDirectory location = true := by
    rw [isDirectory, node?_set inner]
    split
    · rfl
    · exact directed
  refine ⟨rfl, ?_⟩
  intro location
  rw [node?_set inner]
  by_cases here : location = directory ++ [name]
  · rw [if_pos here]
    refine .inr ⟨here ▸ free, rfl, path, self_mem_ancestors path, ?_⟩
    exact ⟨directory, name, slashed, names.of_directories keep rfl, here⟩
  · rw [if_neg here]
    exact .inl rfl

theorem settleDirectory_sprouts {path : Path} (settled : fs.settleDirectory path = .ok after) :
    Sprouts path fs after := by
  unfold settleDirectory at settled
  split at settled
  · next made =>
    cases settled
    exact makeDirectory_sprouts made
  · split at settled
    · cases settled
      exact .refl path fs
    · cases settled

theorem makeDirectories_sprouts (fs : FileSystem) (fuel : Nat) (path : Path) :
    Sprouts path fs (fs.makeDirectories fuel path).2 := by
  induction fuel generalizing path with
  | zero => exact .refl path fs
  | succ fuel ih =>
    unfold makeDirectories
    split
    · exact .refl path fs
    split
    · next made => exact makeDirectory_sprouts made
    · split
      · exact .refl path fs
      next parent above =>
      have sprouts := (ih parent).mono (ancestors_of_parent above)
      split
      · next error after made =>
        rw [made] at sprouts
        exact sprouts
      · next after made =>
        rw [made] at sprouts
        split
        · next settled => exact sprouts.trans (settleDirectory_sprouts settled)
        · exact sprouts
    · split <;> exact .refl path fs

theorem createDirectories_sprouts (fs : FileSystem) (path : Path) :
    Sprouts path fs (fs.createDirectories path).2 :=
  makeDirectories_sprouts fs _ path

/-! ## What is still to come -/

theorem mishaps_makeDirectory {path : Path} (made : fs.makeDirectory path = .ok after) :
    after.mishaps = fs.mishaps := by
  obtain ⟨directory, name, slashed, -, -, rfl⟩ := makeDirectory_eq_ok made
  rfl

theorem mishaps_settleDirectory {path : Path} (settled : fs.settleDirectory path = .ok after) :
    after.mishaps = fs.mishaps := by
  unfold settleDirectory at settled
  split at settled
  · next made =>
    cases settled
    exact mishaps_makeDirectory made
  · split at settled
    · cases settled
      rfl
    · cases settled

theorem mishaps_makeDirectories (fs : FileSystem) (fuel : Nat) (path : Path) :
    (fs.makeDirectories fuel path).2.mishaps = fs.mishaps := by
  induction fuel generalizing path with
  | zero => rfl
  | succ fuel ih =>
    unfold makeDirectories
    split
    · rfl
    split
    · next made => exact mishaps_makeDirectory made
    · split
      · rfl
      next parent above =>
      have same := ih parent
      split
      · next made => rwa [made] at same
      · next made =>
        rw [made] at same
        split
        · next settled => exact (mishaps_settleDirectory settled).trans same
        · exact same
    · split <;> rfl

theorem mishaps_createDirectories (fs : FileSystem) (path : Path) :
    (fs.createDirectories path).2.mishaps = fs.mishaps :=
  mishaps_makeDirectories fs _ path

/-! ## What is in view -/

theorem locate_eq_ok {path : Path} {location : Location} :
    fs.locate path = .ok location ↔
      hasZero path = false ∧ path.isEmpty = false ∧
        fs.walk (fs.start path) path.pieces = .ok location := by
  unfold locate
  cases hasZero path <;> cases path.isEmpty <;> simp

theorem read_eq_ok {path : Path} {content : Bytes} :
    fs.read path = .ok content ↔
      ∃ location, fs.locate path = .ok location ∧ fs.node? location = some (.file content) := by
  unfold FileSystem.read
  cases fs.locate path with
  | error error => simp
  | ok location =>
    cases node : fs.node? location with
    | none => simp [node]
    | some found => cases found <;> simp [node]

theorem step_forward {location next : Location} {piece : String} (down : piece ≠ "..")
    (stepped : fs.step location piece = .ok next) : location <+: next := by
  rw [step] at stepped
  cases directed : fs.isDirectory location with
  | false => simp [directed] at stepped
  | true =>
    simp only [directed, down, Bool.not_true, Bool.false_eq_true, if_false] at stepped
    split at stepped
    · cases stepped
      exact List.prefix_refl location
    split at stepped
    · cases stepped
    split at stepped
    · cases stepped
      exact List.prefix_append location [piece]
    · cases stepped

theorem walk_forward {start location : Location} {pieces : List String}
    (direct : ".." ∉ pieces) (walked : fs.walk start pieces = .ok location) :
    start <+: location := by
  induction pieces generalizing start with
  | nil =>
    cases walked
    exact List.prefix_refl location
  | cons piece rest ih =>
    rw [List.mem_cons, not_or] at direct
    rw [walk] at walked
    cases stepped : fs.step start piece with
    | error error => simp [stepped] at walked
    | ok next =>
      rw [stepped] at walked
      exact (step_forward (Ne.symm direct.1) stepped).trans (ih direct.2 walked)

theorem IsTree.isDirectory (tree : fs.IsTree) {outer inner : Location} (starts : outer <+: inner)
    (differs : outer ≠ inner) (there : (fs.node? inner).isSome = true) :
    fs.isDirectory outer = true := by
  obtain ⟨rest, rfl⟩ := starts
  induction rest generalizing outer with
  | nil => exact absurd (List.append_nil outer).symm differs
  | cons name more ih =>
    apply tree outer name
    cases more with
    | nil => exact there
    | cons next more =>
      have inside : outer ++ name :: next :: more = (outer ++ [name]) ++ next :: more := by simp
      rw [inside] at there
      exact isSome_of_isDirectory (ih (by simp) there)

theorem Grows.walk_back (grows : Grows fs after) (tree : fs.IsTree) {start location : Location}
    {pieces : List String} {content : Bytes}
    (direct : ".." ∉ pieces) (file : fs.node? location = some (.file content))
    (walked : after.walk start pieces = .ok location) : fs.walk start pieces = .ok location := by
  have there : (fs.node? location).isSome = true := by
    rw [file]
    rfl
  induction pieces generalizing start with
  | nil => exact walked
  | cons piece rest ih =>
    rw [FileSystem.walk] at walked ⊢
    cases stepped : after.step start piece with
    | error error => simp [stepped] at walked
    | ok next =>
      rw [stepped] at walked
      rw [List.mem_cons, not_or] at direct
      have further := walk_forward direct.2 walked
      have starts := (step_forward (Ne.symm direct.1) stepped).trans further
      have differs : start ≠ location := by
        rintro rfl
        have directed := isDirectory_of_step stepped
        rw [FileSystem.isDirectory, grows.nodes file] at directed
        cases directed
      have between : (fs.node? next).isSome = true := by
        by_cases last : next = location
        · exact last ▸ there
        · exact isSome_of_isDirectory (tree.isDirectory further last there)
      rw [step_of_directories stepped (tree.isDirectory starts differs there) between]
      exact ih direct.2 walked

theorem Sprouts.read_iff {path other : Path} (sprouts : Sprouts path fs after) (tree : fs.IsTree)
    (direct : ".." ∉ other.pieces) (content : Bytes) :
    after.read other = .ok content ↔ fs.read other = .ok content := by
  constructor
  · intro read
    obtain ⟨location, located, node⟩ := read_eq_ok.1 read
    obtain ⟨zero, empty, walked⟩ := locate_eq_ok.1 located
    have file : fs.node? location = some (.file content) := by
      rcases sprouts.nodes location with same | ⟨-, made, -⟩
      · exact same.symm.trans node
      · rw [made] at node
        cases node
    refine read_eq_ok.2 ⟨location, locate_eq_ok.2 ⟨zero, empty, ?_⟩, file⟩
    rw [sprouts.keeps.start] at walked
    exact sprouts.grows.walk_back tree direct file walked
  · exact sprouts.grows.read

/-! ## Directories that are there already -/

theorem makeDirectory_of_leadsToDirectory {path : Path} (leads : fs.leadsToDirectory path = true) :
    fs.makeDirectory path = .error .alreadyExists := by
  unfold leadsToDirectory at leads
  cases located : fs.locate path with
  | error error => simp [located] at leads
  | ok location =>
    obtain ⟨zero, empty, walked⟩ := locate_eq_ok.1 located
    cases last : (bare path).getLast? with
    | none =>
      have last' : (path.pieces.reverse.dropWhile (· == "")).reverse.getLast? = none := last
      simp [makeDirectory, target, zero, empty, last', Target.location?]
    | some name =>
      obtain ⟨front, whole⟩ := List.getLast?_eq_some_iff.1 last
      obtain ⟨slashes, pieces⟩ := exists_slashes path
      rw [pieces, whole, walk_append, walk_append] at walked
      cases way : fs.walk (fs.start path) front with
      | error error => simp [way] at walked
      | ok directory =>
        cases stepped : fs.step directory name with
        | error error => simp [way, walk, stepped] at walked
        | ok next =>
          have directed := isDirectory_of_step stepped
          have walks : fs.walk (fs.start path) (bare path).dropLast = .ok directory := by
            rw [whole, List.dropLast_concat, way]
          -- Dots lead to a directory without naming one, so there is no name to be made.
          by_cases dots : name = "." ∨ name = ".."
          · have last' : (path.pieces.reverse.dropWhile (· == "")).reverse.getLast? =
              some name := last
            have walks' : fs.walk (fs.start path)
                (path.pieces.reverse.dropWhile (· == "")).reverse.dropLast = .ok directory := walks
            unfold makeDirectory target
            simp only [zero, empty, last', walks', directed, dots, Bool.not_true,
              Bool.false_eq_true, if_false, if_true, Target.location?, Option.map_none]
          · obtain ⟨one, two⟩ := not_or.1 dots
            have solid : Path.isDot name = false := by simp [Path.isDot, last_solid last, one]
            obtain ⟨-, short, there⟩ := step_name solid two stepped
            have names : Names fs path directory name _ :=
              ⟨zero, empty, last, walks, directed, dots, short, rfl⟩
            rw [makeDirectory, target_eq_iff.2 names]
            simp [Target.location?, there]

theorem createDirectories_of_leadsToDirectory {path : Path}
    (leads : fs.leadsToDirectory path = true) : fs.createDirectories path = (.ok (), fs) := by
  unfold createDirectories makeDirectories
  rw [makeDirectory_of_leadsToDirectory leads]
  simp only [leads, if_true, ite_self]

end PracticeClient.FileSystem
