import PracticeClient.Files.Operation

namespace PracticeClient.FileSystem

/-! ## Steps -/

theorem isDirectory_of_step {fs : FileSystem} {location next : Location} {piece : String}
    (stepped : fs.step location piece = .ok next) : fs.isDirectory location = true := by
  unfold step at stepped
  cases directory : fs.isDirectory location with
  | true => rfl
  | false => simp [directory] at stepped

theorem isSome_of_isDirectory {fs : FileSystem} {location : Location}
    (directory : fs.isDirectory location = true) : (fs.node? location).isSome = true := by
  rw [isDirectory, beq_iff_eq] at directory
  rw [directory]
  rfl

theorem step_of_directories {fs after : FileSystem} {location next : Location} {piece : String}
    (stepped : fs.step location piece = .ok next) (here : after.isDirectory location = true)
    (there : (after.node? next).isSome = true) : after.step location piece = .ok next := by
  have before := isDirectory_of_step stepped
  unfold step at stepped ⊢
  simp only [before, here, Bool.not_true, Bool.false_eq_true, if_false] at stepped ⊢
  cases dot : Path.isDot piece with
  | true => simpa only [dot, if_true] using stepped
  | false =>
  rw [if_neg (by simp [dot])] at stepped ⊢
  by_cases up : piece = ".."
  · rw [if_pos up] at stepped ⊢
    exact stepped
  by_cases long : longestName < piece.utf8ByteSize
  · simp [up, long] at stepped
  rw [if_neg up, if_neg long] at stepped ⊢
  by_cases present : (fs.node? (location ++ [piece])).isSome = true
  · rw [if_pos present] at stepped
    cases stepped
    rw [if_pos there]
  · rw [if_neg present] at stepped
    cases stepped

theorem step_name {fs : FileSystem} {location next : Location} {name : String}
    (solid : Path.isDot name = false) (down : name ≠ "..")
    (stepped : fs.step location name = .ok next) :
    next = location ++ [name] ∧ ¬longestName < name.utf8ByteSize ∧
      (fs.node? (location ++ [name])).isSome = true := by
  have directed := isDirectory_of_step stepped
  rw [step] at stepped
  simp only [directed, solid, down, Bool.not_true, Bool.false_eq_true, if_false] at stepped
  split at stepped
  · cases stepped
  next short =>
  split at stepped
  · next there =>
    cases stepped
    exact ⟨rfl, short, there⟩
  · cases stepped

/-! ## Walks -/

theorem walk_append (fs : FileSystem) (start : Location) (pieces more : List String) :
    fs.walk start (pieces ++ more) =
      match fs.walk start pieces with
      | .ok location => fs.walk location more
      | .error error => .error error := by
  induction pieces generalizing start with
  | nil => rfl
  | cons piece rest ih =>
    rw [List.cons_append, walk, walk]
    cases fs.step start piece with
    | error error => rfl
    | ok next => exact ih next

theorem walk_of_directories {fs after : FileSystem}
    (keep : ∀ location, fs.isDirectory location = true → after.isDirectory location = true)
    {start location : Location} {pieces : List String}
    (walked : fs.walk start pieces = .ok location)
    (there : (after.node? location).isSome = true) :
    after.walk start pieces = .ok location := by
  induction pieces generalizing start with
  | nil => exact walked
  | cons piece rest ih =>
    rw [walk] at walked ⊢
    cases stepped : fs.step start piece with
    | error error => simp [stepped] at walked
    | ok next =>
      simp only [stepped] at walked
      -- Only the last step may end at a file: another one starts at a directory.
      have between : (after.node? next).isSome = true := by
        cases rest with
        | nil =>
          cases walked
          exact there
        | cons piece' rest' =>
          rw [walk] at walked
          cases stepped' : fs.step next piece' with
          | error error => simp [stepped'] at walked
          | ok next' => exact isSome_of_isDirectory (keep next (isDirectory_of_step stepped'))
      rw [step_of_directories stepped (keep start (isDirectory_of_step stepped)) between]
      exact ih walked

theorem read_of_directories {fs after : FileSystem} (same : after.here = fs.here)
    (keep : ∀ location, fs.isDirectory location = true → after.isDirectory location = true)
    {path : Path} {content : Bytes} (read : fs.read path = .ok content)
    (stays : ∀ location, fs.locate path = .ok location →
      after.node? location = fs.node? location) :
    after.read path = .ok content := by
  unfold FileSystem.read at read
  cases located : fs.locate path with
  | error error => simp [located] at read
  | ok location =>
    simp only [located] at read
    have there := stays location located
    have present : (fs.node? location).isSome = true := by
      cases node : fs.node? location with
      | none => simp [node] at read
      | some node => rfl
    have found : after.locate path = .ok location := by
      unfold locate at located ⊢
      split at located
      · cases located
      next zero =>
      split at located
      · cases located
      next empty =>
      rw [if_neg zero, if_neg empty]
      have start : after.start path = fs.start path := by
        rw [FileSystem.start, FileSystem.start, same]
      rw [start]
      exact walk_of_directories keep located (by rw [there]; exact present)
    unfold FileSystem.read
    rw [found]
    simp only [there]
    exact read

/-! ## Names at the end of paths -/

def bare (path : Path) : List String :=
  (path.pieces.reverse.dropWhile (· == "")).reverse

theorem exists_slashes (path : Path) : ∃ slashes, path.pieces = bare path ++ slashes := by
  refine ⟨(path.pieces.reverse.takeWhile (· == "")).reverse, ?_⟩
  rw [bare, ← List.reverse_append, List.takeWhile_append_dropWhile, List.reverse_reverse]

theorem last_solid {path : Path} {name : String} (last : (bare path).getLast? = some name) :
    name ≠ "" := by
  rintro rfl
  rw [bare, List.getLast?_reverse] at last
  have := List.head?_dropWhile_not (· == "") path.pieces.reverse
  rw [last] at this
  simp at this

structure Names (fs : FileSystem) (path : Path) (directory : Location) (name : String)
    (slashed : Bool) : Prop where
  noZero : hasZero path = false
  notEmpty : path.isEmpty = false
  last : (bare path).getLast? = some name
  walks : fs.walk (fs.start path) (bare path).dropLast = .ok directory
  isDirectory : fs.isDirectory directory = true
  notDot : ¬(name = "." ∨ name = "..")
  short : ¬longestName < name.utf8ByteSize
  slashes : slashed = decide ((bare path).length < path.pieces.length)

theorem target_eq_iff {fs : FileSystem} {path : Path} {directory : Location} {name : String}
    {slashed : Bool} :
    fs.target path = .ok ⟨directory, some name, slashed⟩ ↔
      Names fs path directory name slashed := by
  unfold target
  constructor
  · intro found
    split at found
    · cases found
    next zero =>
    split at found
    · cases found
    next empty =>
    dsimp only at found
    split at found
    · simp at found
    next last here =>
    split at found
    · cases found
    next there walked =>
    by_cases directed : fs.isDirectory there = true
    · rw [if_neg (by simp [directed])] at found
      by_cases dot : last = "." ∨ last = ".."
      · rw [if_pos dot] at found
        simp at found
      rw [if_neg dot] at found
      by_cases long : longestName < last.utf8ByteSize
      · rw [if_pos long] at found
        cases found
      · rw [if_neg long] at found
        cases found
        exact ⟨by simpa using zero, by simpa using empty, here, walked, directed, dot, long, rfl⟩
    · rw [if_pos (by simp [directed])] at found
      cases found
  · rintro ⟨zero, empty, last, walks, directed, dot, long, rfl⟩
    unfold bare at last walks
    rw [if_neg (by simp [zero]), if_neg (by simp [empty])]
    simp only [last, walks, directed, Bool.not_true, Bool.false_eq_true, if_false, dot, long]
    rfl

theorem Names.unique {fs : FileSystem} {path : Path} {directory directory' : Location}
    {name name' : String} {slashed slashed' : Bool} (names : Names fs path directory name slashed)
    (names' : Names fs path directory' name' slashed') :
    directory ++ [name] = directory' ++ [name'] := by
  have same := target_eq_iff.2 names
  rw [target_eq_iff.2 names'] at same
  cases same
  rfl

theorem Names.of_directories {fs after : FileSystem}
    (keep : ∀ location, fs.isDirectory location = true → after.isDirectory location = true)
    (same : after.here = fs.here) {path : Path} {directory : Location} {name : String}
    {slashed : Bool} (names : Names fs path directory name slashed) :
    Names after path directory name slashed := by
  obtain ⟨zero, empty, last, walks, directed, dot, long, slashes⟩ := names
  have start : after.start path = fs.start path := by rw [start, FileSystem.start, same]
  have there := isSome_of_isDirectory (keep _ directed)
  exact ⟨zero, empty, last, start ▸ walk_of_directories keep walks there, keep _ directed, dot,
    long, slashes⟩

theorem Names.locate {fs : FileSystem} {path : Path} {directory : Location} {name : String}
    (names : Names fs path directory name false) :
    fs.locate path =
      if (fs.node? (directory ++ [name])).isSome then .ok (directory ++ [name])
      else .error .notFound := by
  obtain ⟨zero, empty, last, walks, directed, dot, long, slashes⟩ := names
  -- Without slashes behind it the name is the last piece.
  have whole : bare path = path.pieces := by
    have few : ¬(bare path).length < path.pieces.length := by simpa using slashes.symm
    have suffix : path.pieces.reverse.dropWhile (· == "") <:+ path.pieces.reverse :=
      List.dropWhile_suffix _
    have equal : path.pieces.reverse.dropWhile (· == "") = path.pieces.reverse := by
      refine suffix.eq_of_length_le ?_
      rw [bare, List.length_reverse] at few
      rw [List.length_reverse]
      omega
    rw [bare, equal, List.reverse_reverse]
  have solid : name ≠ "" := last_solid last
  have split : path.pieces = (bare path).dropLast ++ [name] := by
    obtain ⟨front, whole'⟩ := List.getLast?_eq_some_iff.1 last
    rw [← whole, whole', List.dropLast_concat]
  have piece : Path.isDot name = false := by
    simp only [Path.isDot, Bool.or_eq_false_iff, beq_eq_false_iff_ne]
    exact ⟨solid, fun one => dot (.inl one)⟩
  have up : ¬name = ".." := fun two => dot (.inr two)
  unfold FileSystem.locate
  rw [if_neg (by simp [zero]), if_neg (by simp [empty]), split, walk_append]
  have walks' : fs.walk (fs.start path) (bare path).dropLast = .ok directory := walks
  simp only [walks', walk, step, directed, piece, up, long, Bool.not_true, Bool.false_eq_true,
    if_false]
  cases (fs.node? (directory ++ [name])).isSome with
  | true => rfl
  | false => rfl

theorem Names.read {fs : FileSystem} {path : Path} {directory : Location} {name : String}
    (names : Names fs path directory name false) {content : Bytes} :
    fs.read path = .ok content ↔ fs.node? (directory ++ [name]) = some (.file content) := by
  unfold FileSystem.read
  rw [names.locate]
  cases node : fs.node? (directory ++ [name]) with
  | none => simp
  | some node' => cases node' <;> simp [node]

/-! ## Changes to files -/

theorem isDirectory_set_file {fs : FileSystem} {location : Location} (inner : location ≠ [])
    (content : Bytes) (other : Location) :
    (fs.set location (.file content)).isDirectory other = true ↔
      other ≠ location ∧ fs.isDirectory other = true := by
  rw [isDirectory, node?_set inner]
  by_cases same : other = location
  · simp [same]
  · rw [if_neg same]
    exact ⟨fun directory => ⟨same, directory⟩, fun both => both.2⟩

theorem isDirectory_clear {fs : FileSystem} {location : Location} (inner : location ≠ [])
    (other : Location) :
    (fs.clear location).isDirectory other = true ↔
      other ≠ location ∧ fs.isDirectory other = true := by
  rw [isDirectory, node?_clear inner]
  by_cases same : other = location
  · simp [same]
  · rw [if_neg same]
    exact ⟨fun directory => ⟨same, directory⟩, fun both => both.2⟩

theorem ne_of_isDirectory {fs : FileSystem} {location other : Location}
    (file : fs.isDirectory location = false) (directory : fs.isDirectory other = true) :
    other ≠ location := by
  rintro rfl
  rw [file] at directory
  cases directory

theorem writable_eq_ok {fs : FileSystem} {path : Path} {location : Location}
    (free : fs.writable path = .ok location) :
    ∃ directory name, Names fs path directory name false ∧ fs.isDirectory location = false ∧
      location = directory ++ [name] := by
  unfold writable at free
  cases target : fs.target path with
  | error error => simp [target] at free
  | ok found =>
    obtain ⟨directory, name?, slashed⟩ := found
    cases name? with
    | none => simp [target, Target.location?] at free
    | some name =>
      simp only [target, Target.location?, Option.map_some] at free
      by_cases blocked : (slashed || fs.isDirectory (directory ++ [name])) = true
      · simp [blocked] at free
      · rw [if_neg blocked] at free
        simp only [Bool.or_eq_true, not_or, Bool.not_eq_true] at blocked
        obtain ⟨rfl, vacant⟩ := blocked
        cases free
        exact ⟨directory, name, target_eq_iff.1 target, vacant, rfl⟩

theorem write_eq_ok {fs after : FileSystem} {path : Path} {content : Bytes}
    (written : fs.write path content = .ok after) :
    ∃ directory name, Names fs path directory name false ∧
      fs.isDirectory (directory ++ [name]) = false ∧
      after = fs.set (directory ++ [name]) (.file content) := by
  unfold write at written
  cases free : fs.writable path with
  | error error => simp [free, Except.map] at written
  | ok location =>
    obtain ⟨directory, name, names, vacant, rfl⟩ := writable_eq_ok free
    rw [free] at written
    cases written
    exact ⟨directory, name, names, vacant, rfl⟩

theorem write_of_names {fs : FileSystem} {path : Path} {directory : Location} {name : String}
    (names : Names fs path directory name false)
    (free : fs.isDirectory (directory ++ [name]) = false) (content : Bytes) :
    fs.write path content = .ok (fs.set (directory ++ [name]) (.file content)) := by
  simp [write, writable, target_eq_iff.2 names, Target.location?, free, Except.map]

theorem read_of_write {fs after : FileSystem} {path : Path} {content : Bytes}
    (written : fs.write path content = .ok after) : after.read path = .ok content := by
  obtain ⟨directory, name, names, free, rfl⟩ := write_eq_ok written
  have inner : directory ++ [name] ≠ [] := by simp
  have keep (other : Location) (directed : fs.isDirectory other = true) :
      (fs.set (directory ++ [name]) (.file content)).isDirectory other = true :=
    (isDirectory_set_file inner content other).2 ⟨ne_of_isDirectory free directed, directed⟩
  have names' := names.of_directories keep rfl
  rw [names'.read, node?_set inner, if_pos rfl]

def Apart (path other : Path) : Prop :=
  ∀ {fs : FileSystem} {directory : Location} {name : String} {content : Bytes},
    Names fs path directory name false → fs.read other = .ok content →
    fs.locate other ≠ .ok (directory ++ [name])

theorem Apart.read_of_write {fs after : FileSystem} {path other : Path} (apart : Apart path other)
    {content : Bytes} (written : fs.write path content = .ok after) (content' : Bytes) :
    after.read other = .ok content' ↔ fs.read other = .ok content' := by
  obtain ⟨directory, name, names, free, rfl⟩ := write_eq_ok written
  have inner : directory ++ [name] ≠ [] := by simp
  have keep (location : Location) (directed : fs.isDirectory location = true) :
      (fs.set (directory ++ [name]) (.file content)).isDirectory location = true :=
    (isDirectory_set_file inner content location).2 ⟨ne_of_isDirectory free directed, directed⟩
  -- Both ways the directories are the same ones, so what is read cannot differ.
  have back (location : Location)
      (directed : (fs.set (directory ++ [name]) (.file content)).isDirectory location = true) :
      fs.isDirectory location = true :=
    ((isDirectory_set_file inner content location).1 directed).2
  have same {location : Location} (differs : location ≠ directory ++ [name]) :
      (fs.set (directory ++ [name]) (.file content)).node? location = fs.node? location := by
    rw [node?_set inner, if_neg differs]
  constructor
  · intro read
    refine read_of_directories (by rfl) back read fun location located => (same ?_).symm
    rintro rfl
    exact apart (names.of_directories keep rfl) read located
  · intro read
    refine read_of_directories (by rfl) keep read fun location located => same ?_
    rintro rfl
    exact apart names read located

theorem rename_eq_ok {fs after : FileSystem} {source destination : Path}
    (renamed : fs.rename source destination = .ok after) :
    ∃ directory name directory' name' content, Names fs source directory name false ∧
      Names fs destination directory' name' false ∧
      fs.node? (directory ++ [name]) = some (.file content) ∧
      fs.isDirectory (directory' ++ [name']) = false ∧
      after = if directory ++ [name] = directory' ++ [name'] then fs
        else (fs.clear (directory ++ [name])).set (directory' ++ [name']) (.file content) := by
  unfold rename at renamed
  -- Each condition of a renaming is an error otherwise, in the order in which they are checked.
  cases old : fs.target source with
  | error error => simp [old] at renamed
  | ok found =>
    cases new : fs.target destination with
    | error error => simp [old, new] at renamed
    | ok found' =>
      obtain ⟨directory, name?, slashed⟩ := found
      obtain ⟨directory', name'?, slashed'⟩ := found'
      cases name? with
      | none => simp [old, new, Target.location?] at renamed
      | some name =>
        cases name'? with
        | none => simp [old, new, Target.location?] at renamed
        | some name' =>
          simp only [old, new, Target.location?, Option.map_some] at renamed
          cases node : fs.node? (directory ++ [name]) with
          | none => simp [node] at renamed
          | some node' =>
            cases node' with
            | directory => simp [node] at renamed
            | file content =>
              simp only [node] at renamed
              by_cases slashes : (slashed || slashed') = true
              · simp [slashes] at renamed
              rw [if_neg slashes] at renamed
              simp only [Bool.or_eq_true, not_or, Bool.not_eq_true] at slashes
              obtain ⟨rfl, rfl⟩ := slashes
              by_cases blocked : fs.isDirectory (directory' ++ [name']) = true
              · simp [blocked] at renamed
              rw [if_neg blocked] at renamed
              refine ⟨directory, name, directory', name', content, target_eq_iff.1 old,
                target_eq_iff.1 new, node, by simpa using blocked, ?_⟩
              split at renamed
              · next same =>
                cases renamed
                rw [if_pos same]
              · next differs =>
                cases renamed
                rw [if_neg differs]

theorem rename_of_names {fs : FileSystem} {source destination : Path}
    {directory directory' : Location} {name name' : String} {content : Bytes}
    (names : Names fs source directory name false)
    (names' : Names fs destination directory' name' false)
    (file : fs.node? (directory ++ [name]) = some (.file content))
    (free : fs.isDirectory (directory' ++ [name']) = false) :
    fs.rename source destination = .ok (if directory ++ [name] = directory' ++ [name'] then fs
      else (fs.clear (directory ++ [name])).set (directory' ++ [name']) (.file content)) := by
  simp only [rename, target_eq_iff.2 names, target_eq_iff.2 names', Target.location?,
    Option.map_some, file, free, Bool.or_self, Bool.false_eq_true, if_false]
  split <;> rfl

theorem read_of_rename {fs after : FileSystem} {source destination : Path} {content : Bytes}
    (renamed : fs.rename source destination = .ok after) (read : fs.read source = .ok content) :
    after.read destination = .ok content := by
  obtain ⟨directory, name, directory', name', content', names, names', node, free, rfl⟩ :=
    rename_eq_ok renamed
  have same : content' = content := by
    rw [names.read, node] at read
    cases read
    rfl
  subst same
  have inner : directory ++ [name] ≠ [] := by simp
  have inner' : directory' ++ [name'] ≠ [] := by simp
  by_cases alike : directory ++ [name] = directory' ++ [name']
  · rw [if_pos alike, names'.read, ← alike]
    exact node
  · rw [if_neg alike]
    have file : fs.isDirectory (directory ++ [name]) = false := by
      rw [isDirectory, node]
      rfl
    have keep (other : Location) (directed : fs.isDirectory other = true) :
        ((fs.clear (directory ++ [name])).set (directory' ++ [name']) (.file content')).isDirectory
          other = true := by
      rw [isDirectory_set_file inner', isDirectory_clear inner]
      exact ⟨ne_of_isDirectory free directed, ne_of_isDirectory file directed, directed⟩
    have moved := names'.of_directories keep rfl
    rw [moved.read, node?_set inner', if_pos rfl]

theorem remove_eq_ok {fs after : FileSystem} {path : Path} (removed : fs.remove path = .ok after) :
    ∃ directory name content, Names fs path directory name false ∧
      fs.node? (directory ++ [name]) = some (.file content) ∧
      after = fs.clear (directory ++ [name]) := by
  unfold remove at removed
  cases target : fs.target path with
  | error error => simp [target] at removed
  | ok found =>
    obtain ⟨directory, name?, slashed⟩ := found
    cases name? with
    | none => simp [target, Target.location?] at removed
    | some name =>
      simp only [target, Target.location?, Option.map_some] at removed
      cases node : fs.node? (directory ++ [name]) with
      | none => simp [node] at removed
      | some node' =>
        cases node' with
        | directory => simp [node] at removed
        | file content =>
          simp only [node] at removed
          cases slashed with
          | true => simp at removed
          | false =>
            cases removed
            exact ⟨directory, name, content, target_eq_iff.1 target, node, rfl⟩

theorem remove_of_names {fs : FileSystem} {path : Path} {directory : Location} {name : String}
    {content : Bytes} (names : Names fs path directory name false)
    (file : fs.node? (directory ++ [name]) = some (.file content)) :
    fs.remove path = .ok (fs.clear (directory ++ [name])) := by
  simp [remove, target_eq_iff.2 names, Target.location?, file]

theorem exists?_of_remove {fs after : FileSystem} {path : Path}
    (removed : fs.remove path = .ok after) : after.exists? path = false := by
  obtain ⟨directory, name, content, names, node, rfl⟩ := remove_eq_ok removed
  have inner : directory ++ [name] ≠ [] := by simp
  have file : fs.isDirectory (directory ++ [name]) = false := by
    rw [isDirectory, node]
    rfl
  have keep (other : Location) (directed : fs.isDirectory other = true) :
      (fs.clear (directory ++ [name])).isDirectory other = true :=
    (isDirectory_clear inner other).2 ⟨ne_of_isDirectory file directed, directed⟩
  have left := names.of_directories keep rfl
  rw [exists?, left.locate, node?_clear inner, if_pos rfl]
  rfl

/-! ## Additions -/

structure Grows (fs after : FileSystem) : Prop where
  here : after.here = fs.here
  nodes : ∀ {location node}, fs.node? location = some node → after.node? location = some node

theorem Grows.refl (fs : FileSystem) : Grows fs fs := ⟨rfl, id⟩

theorem Grows.trans {fs between after : FileSystem} (first : Grows fs between)
    (next : Grows between after) : Grows fs after :=
  ⟨next.here.trans first.here, fun there => next.nodes (first.nodes there)⟩

section

variable {fs after : FileSystem}

theorem Grows.isDirectory (grows : Grows fs after) {location : Location}
    (directed : fs.isDirectory location = true) : after.isDirectory location = true := by
  rw [FileSystem.isDirectory, beq_iff_eq] at directed ⊢
  exact grows.nodes directed

theorem Grows.step (grows : Grows fs after) {location next : Location} {piece : String}
    (stepped : fs.step location piece = .ok next) : after.step location piece = .ok next := by
  unfold FileSystem.step at stepped ⊢
  cases directed : fs.isDirectory location with
  | false => simp [directed] at stepped
  | true =>
    rw [directed] at stepped
    rw [grows.isDirectory directed]
    cases there : fs.node? (location ++ [piece]) with
    | none =>
      rw [there] at stepped
      simp only [Option.isSome_none, Bool.false_eq_true, if_false] at stepped
      split at stepped
      · cases stepped
      split at stepped
      · next dot => rwa [if_neg (by decide), if_pos dot]
      split at stepped
      · next other up => rwa [if_neg (by decide), if_neg other, if_pos up]
      split at stepped <;> cases stepped
    | some node =>
      rw [there] at stepped
      rwa [grows.nodes there]

theorem Grows.walk (grows : Grows fs after) {start location : Location} {pieces : List String}
    (walked : fs.walk start pieces = .ok location) : after.walk start pieces = .ok location := by
  induction pieces generalizing start with
  | nil => exact walked
  | cons piece rest ih =>
    rw [FileSystem.walk] at walked ⊢
    cases stepped : fs.step start piece with
    | error error => simp [stepped] at walked
    | ok next =>
      rw [stepped] at walked
      rw [grows.step stepped]
      exact ih walked

theorem Grows.locate (grows : Grows fs after) {path : Path} {location : Location}
    (located : fs.locate path = .ok location) : after.locate path = .ok location := by
  unfold FileSystem.locate at located ⊢
  split at located
  · cases located
  next zero =>
  split at located
  · cases located
  next empty =>
  have start : after.start path = fs.start path := by
    rw [FileSystem.start, FileSystem.start, grows.here]
  rw [if_neg zero, if_neg empty, start]
  exact grows.walk located

theorem Grows.exists? (grows : Grows fs after) {path : Path} (there : fs.exists? path = true) :
    after.exists? path = true := by
  unfold FileSystem.exists? at there ⊢
  cases located : fs.locate path with
  | error error => simp [located] at there
  | ok location => rw [grows.locate located]

theorem Grows.read (grows : Grows fs after) {path : Path} {content : Bytes}
    (read : fs.read path = .ok content) : after.read path = .ok content := by
  unfold FileSystem.read at read ⊢
  cases located : fs.locate path with
  | error error => simp [located] at read
  | ok location =>
    simp only [located] at read
    simp only [grows.locate located]
    cases node : fs.node? location with
    | none => simp [node] at read
    | some found =>
      rw [node] at read
      rwa [grows.nodes node]

end

end PracticeClient.FileSystem
