import PracticeClient.Files.Path
import PracticeClient.Text.Utf8

/-!
# File systems

A tree of directories and files, each known by its location: the names on the way from the root.
Every operation follows a path, and either changes at most what stands where the path leads, or
tells why it cannot be done and changes nothing.
-/

namespace PracticeClient

inductive FileError where
  | notFound
  | notDirectory
  | alreadyExists
  | isDirectory
  | busy
  | nameTooLong
  | zeroInName
  | notText
  | noParent
  | denied
  deriving DecidableEq, Repr

def FileError.message : FileError → String
  | notFound => "No such file or directory (os error 2)"
  | notDirectory => "Not a directory (os error 20)"
  | alreadyExists => "File exists (os error 17)"
  | isDirectory => "Is a directory (os error 21)"
  | busy => "Device or resource busy (os error 16)"
  | nameTooLong => "File name too long (os error 36)"
  | zeroInName => "file name contained an unexpected NUL byte"
  | notText => "stream did not contain valid UTF-8"
  | noParent => "failed to create whole tree"
  | denied => "Permission denied (os error 13)"

abbrev Location := List String

inductive Node where
  | directory
  | file (content : Bytes)
  deriving DecidableEq, Repr

/-- A failure that nothing in the tree explains. -/
structure Mishap where
  error : FileError
  written : Option Nat
  deriving DecidableEq, Repr

structure FileSystem where
  nodes : List (Location × Node)
  here : Location
  /-- What the operations to come will meet, one after the other; afterwards all is well. -/
  mishaps : List (Option Mishap)
  deriving Repr

namespace FileSystem

def empty : FileSystem := ⟨[], [], []⟩

def node? (fs : FileSystem) (location : Location) : Option Node :=
  if location = [] then some .directory else fs.nodes.lookup location

def isDirectory (fs : FileSystem) (location : Location) : Bool :=
  fs.node? location == some .directory

def set (fs : FileSystem) (location : Location) (node : Node) : FileSystem :=
  { fs with nodes := (location, node) :: fs.nodes.filter (·.1 != location) }

def clear (fs : FileSystem) (location : Location) : FileSystem :=
  { fs with nodes := fs.nodes.filter (·.1 != location) }

theorem lookup_filter_ne {α β : Type} [BEq α] [LawfulBEq α] [DecidableEq α]
    (entries : List (α × β)) (a b : α) :
    (entries.filter (·.1 != a)).lookup b = if b = a then none else entries.lookup b := by
  induction entries with
  | nil => simp
  | cons entry rest ih =>
    obtain ⟨c, value⟩ := entry
    by_cases hc : c = a
    · subst hc
      by_cases hb : b = c
      · subst hb
        simpa using ih
      · simp [ih, hb, List.lookup_cons, beq_eq_false_iff_ne.2 hb]
    · by_cases hb : b = c
      · subst hb
        simp [hc]
      · simp [hc, ih, List.lookup_cons, beq_eq_false_iff_ne.2 hb]

theorem node?_set {fs : FileSystem} {location : Location} (h : location ≠ []) (node : Node)
    (other : Location) :
    (fs.set location node).node? other = if other = location then some node else fs.node? other := by
  by_cases hother : other = location
  · subst hother
    simp [node?, set, h]
  · have hne : (other == location) = false := beq_eq_false_iff_ne.2 hother
    simp [node?, set, List.lookup_cons, hne, lookup_filter_ne, hother]

theorem node?_clear {fs : FileSystem} {location : Location} (h : location ≠ [])
    (other : Location) :
    (fs.clear location).node? other = if other = location then none else fs.node? other := by
  by_cases hother : other = location
  · subst hother
    simp [node?, clear, lookup_filter_ne, h]
  · simp [node?, clear, lookup_filter_ne, hother]

/-! ## Following paths -/

def longestName : Nat := 255

def step (fs : FileSystem) (location : Location) (piece : String) : Except FileError Location :=
  if !fs.isDirectory location then .error .notDirectory
  else if Path.isDot piece then .ok location
  else if piece = ".." then .ok location.dropLast
  else if longestName < piece.utf8ByteSize then .error .nameTooLong
  else if (fs.node? (location ++ [piece])).isSome then .ok (location ++ [piece])
  else .error .notFound

def walk (fs : FileSystem) : Location → List String → Except FileError Location
  | location, [] => .ok location
  | location, piece :: rest =>
    match fs.step location piece with
    | .ok next => fs.walk next rest
    | .error error => .error error

def start (fs : FileSystem) (path : Path) : Location :=
  if path.isAbsolute then [] else fs.here

def hasZero (path : Path) : Bool :=
  path.pieces.any fun piece => piece.toList.contains '\x00'

def locate (fs : FileSystem) (path : Path) : Except FileError Location :=
  if hasZero path then .error .zeroInName
  else if path.isEmpty then .error .notFound
  else fs.walk (fs.start path) path.pieces

/-- The last name on a path, which may still be missing: the directory that holds it, and whether
slashes follow. Without a name there, the path leads to a directory in other words. -/
structure Target where
  directory : Location
  name : Option String
  slashed : Bool
  deriving DecidableEq, Repr

def Target.location? (target : Target) : Option Location :=
  target.name.map fun name => target.directory ++ [name]

def target (fs : FileSystem) (path : Path) : Except FileError Target :=
  if hasZero path then .error .zeroInName
  else if path.isEmpty then .error .notFound
  else
    let pieces := (path.pieces.reverse.dropWhile (· == "")).reverse
    let slashed := pieces.length < path.pieces.length
    match pieces.getLast? with
    | none => .ok ⟨fs.start path, none, slashed⟩
    | some last =>
      match fs.walk (fs.start path) pieces.dropLast with
      | .error error => .error error
      | .ok directory =>
        if !fs.isDirectory directory then .error .notDirectory
        else if last = "." ∨ last = ".." then .ok ⟨directory, none, slashed⟩
        else if longestName < last.utf8ByteSize then .error .nameTooLong
        else .ok ⟨directory, some last, slashed⟩

/-! ## Operations -/

def exists? (fs : FileSystem) (path : Path) : Bool :=
  match fs.locate path with
  | .ok _ => true
  | .error _ => false

def read (fs : FileSystem) (path : Path) : Except FileError Bytes :=
  match fs.locate path with
  | .error error => .error error
  | .ok location =>
    match fs.node? location with
    | some (.file content) => .ok content
    | _ => .error .isDirectory

def writable (fs : FileSystem) (path : Path) : Except FileError Location :=
  match fs.target path with
  | .error error => .error error
  | .ok target =>
    match target.location? with
    | none => .error .isDirectory
    | some location =>
      if target.slashed || fs.isDirectory location then .error .isDirectory else .ok location

def write (fs : FileSystem) (path : Path) (content : Bytes) : Except FileError FileSystem :=
  (fs.writable path).map fun location => fs.set location (.file content)

def touch (fs : FileSystem) (path : Path) : Except FileError FileSystem :=
  (fs.writable path).map fun location =>
    if (fs.node? location).isSome then fs else fs.set location (.file [])

def append (fs : FileSystem) (path : Path) (more : Bytes) : FileSystem :=
  match fs.locate path with
  | .error _ => fs
  | .ok location =>
    match fs.node? location with
    | some (.file content) => fs.set location (.file (content ++ more))
    | _ => fs

def makeDirectory (fs : FileSystem) (path : Path) : Except FileError FileSystem :=
  match fs.target path with
  | .error error => .error error
  | .ok target =>
    match target.location? with
    | none => .error .alreadyExists
    | some location =>
      if (fs.node? location).isSome then .error .alreadyExists
      else .ok (fs.set location .directory)

def leadsToDirectory (fs : FileSystem) (path : Path) : Bool :=
  match fs.locate path with
  | .ok location => fs.isDirectory location
  | .error _ => false

def settleDirectory (fs : FileSystem) (path : Path) : Except FileError FileSystem :=
  match fs.makeDirectory path with
  | .ok fs => .ok fs
  | .error error => if fs.leadsToDirectory path then .ok fs else .error error

/-- Makes a directory and, where they are missing, the ones above it. What has been made stays even
if the rest fails. -/
def makeDirectories (fs : FileSystem) : (fuel : Nat) → Path → Except FileError Unit × FileSystem
  | 0, _ => (.error .noParent, fs)
  | fuel + 1, path =>
    if path.isEmpty then (.ok (), fs)
    else match fs.makeDirectory path with
      | .ok fs => (.ok (), fs)
      | .error .notFound =>
        match path.parent? with
        | none => (.error .noParent, fs)
        | some parent =>
          match fs.makeDirectories fuel parent with
          | (.error error, fs) => (.error error, fs)
          | (.ok (), fs) =>
            match fs.settleDirectory path with
            | .ok fs => (.ok (), fs)
            | .error error => (.error error, fs)
      | .error error => if fs.leadsToDirectory path then (.ok (), fs) else (.error error, fs)

def createDirectories (fs : FileSystem) (path : Path) : Except FileError Unit × FileSystem :=
  fs.makeDirectories (path.pieces.length + 1) path

def rename (fs : FileSystem) (source destination : Path) : Except FileError FileSystem :=
  match fs.target source, fs.target destination with
  | .error error, _ => .error error
  | _, .error error => .error error
  | .ok source, .ok destination =>
    match source.location?, destination.location? with
    | some old, some new =>
      match fs.node? old with
      | none => .error .notFound
      | some .directory => .error .isDirectory
      | some (.file content) =>
        if source.slashed || destination.slashed then .error .notDirectory
        else if fs.isDirectory new then .error .isDirectory
        else if old = new then .ok fs
        else .ok ((fs.clear old).set new (.file content))
    | _, _ => .error .busy

def remove (fs : FileSystem) (path : Path) : Except FileError FileSystem :=
  match fs.target path with
  | .error error => .error error
  | .ok target =>
    match target.location? with
    | none => .error .isDirectory
    | some location =>
      match fs.node? location with
      | none => .error .notFound
      | some .directory => .error .isDirectory
      | some (.file _) =>
        if target.slashed then .error .notDirectory else .ok (fs.clear location)

def removeTree (fs : FileSystem) (path : Path) : Except FileError FileSystem :=
  match fs.locate path with
  | .error error => .error error
  | .ok location => .ok { fs with nodes := fs.nodes.filter fun entry => !location.isPrefixOf entry.1 }

end FileSystem

end PracticeClient
