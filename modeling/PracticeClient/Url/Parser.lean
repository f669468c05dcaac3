import PracticeClient.Url.Basic

/-!
# Reading URLs

A text is read on its own or against a base, whose parts stand in for what the text leaves out.
Control characters and spaces at the ends do not count, nor do tabs and line breaks anywhere.
-/

namespace PracticeClient.Url

variable [Idna]

/-! ## Small pieces -/

def isIgnored (c : Char) : Bool :=
  c == '\t' || c == '\n' || c == '\r'

def clean (text : List Char) : List Char :=
  let isEdge (c : Char) : Bool := c ≤ ' '
  (((text.dropWhile isEdge).reverse.dropWhile isEdge).reverse).filter (!isIgnored ·)

def isSlash (family : Family) (c : Char) : Bool :=
  c == '/' || (family.isSpecial && c == '\\')

def isLetter (c : Char) : Bool :=
  ('a' ≤ c && c ≤ 'z') || ('A' ≤ c && c ≤ 'Z')

def isSchemeChar (c : Char) : Bool :=
  isLetter c || c.isDigit || c == '+' || c == '-' || c == '.'

def takeScheme? (text : List Char) : Option (List Char × List Char) :=
  match text with
  | [] => none
  | c :: _ =>
    if isLetter c then
      match text.dropWhile isSchemeChar with
      | ':' :: rest => some ((text.takeWhile isSchemeChar).map Char.toLower, rest)
      | _ => none
    else none

def endsPath (c : Char) : Bool := c == '?' || c == '#'

/-! ## Drive letters

The first segment of a file's path may be a drive letter, which `..` does not remove. -/

def isDrive : List Char → Bool
  | [letter, mark] => isLetter letter && (mark == ':' || mark == '|')
  | _ => false

def isPlainDrive : List Char → Bool
  | [letter, ':'] => isLetter letter
  | _ => false

def startsWithDrive (text : List Char) : Bool :=
  isDrive (text.take 2) &&
    match text.drop 2 with
    | [] => true
    | c :: _ => c == '/' || c == '\\' || endsPath c

/-! ## Paths -/

def splitPath (family : Family) : List Char → List (List Char) × List Char
  | [] => ([[]], [])
  | c :: rest =>
    if endsPath c then ([[]], c :: rest)
    else
      let (segments, after) := splitPath family rest
      if isSlash family c then ([] :: segments, after)
      else match segments with
        | first :: others => ((c :: first) :: others, after)
        | [] => ([[c]], after)

def foldDots : List Char → List Char
  | '%' :: '2' :: 'e' :: rest => '.' :: foldDots rest
  | '%' :: '2' :: 'E' :: rest => '.' :: foldDots rest
  | c :: rest => c :: foldDots rest
  | [] => []

def isHere (segment : List Char) : Bool := foldDots segment == ['.']

def isParent (segment : List Char) : Bool := foldDots segment == ['.', '.']

/-- Leaves out the last segment, unless it is the drive letter of a file. -/
def shorten (family : Family) (path : List (List Char)) : List (List Char) :=
  match path with
  | [only] => if family = .file ∧ isPlainDrive only then [only] else []
  | _ => path.dropLast

def addSegment (family : Family) (path : List (List Char)) (segment : List Char) :
    List (List Char) :=
  if family = .file ∧ path.isEmpty ∧ isDrive segment then path ++ [segment.take 1 ++ [':']]
  else path ++ [segment]

/-- Goes along segments from a path. At the end, a dot or two leave an empty segment. -/
def follow (family : Family) (path : List (List Char)) :
    List (List Char) → List (List Char)
  | [] => path
  | segment :: rest =>
    let segment := encode pathReserved segment
    let last := rest.isEmpty
    if isParent segment then
      let path := shorten family path
      follow family (if last then path ++ [[]] else path) rest
    else if isHere segment then follow family (if last then path ++ [[]] else path) rest
    else follow family (addSegment family path segment) rest

def dropLeadingEmpty (path : List (List Char)) : List (List Char) :=
  match path.dropWhile List.isEmpty with
  | [] => [[]]
  | rest => rest

def readPath (family : Family) (path : List (List Char)) (text : List Char) :
    Path × List Char :=
  let (segments, rest) := splitPath family text
  let segments := match family, path, segments with
    | .file, [], segments => dropLeadingEmpty segments
    | _, _, segments => segments
  let reached := follow family path segments
  (.segments (if family = .file then dropLeadingEmpty reached else reached), rest)

def readRootPath (family : Family) (text : List Char) : Path × List Char :=
  match text with
  | [] => if family.isSpecial then (.segments [[]], []) else (.segments [], [])
  | c :: rest =>
    if isSlash family c then readPath family [] rest
    else if !family.isSpecial && endsPath c then (.segments [], text)
    else readPath family [] text

def readRootless (text : List Char) : Path × List Char :=
  let (path, rest) := (text.takeWhile (!endsPath ·), text.dropWhile (!endsPath ·))
  (.rootless (encode [] path), rest)

/-! ## Query and fragment -/

def readFragment (text : List Char) : Option (List Char) :=
  match text with
  | '#' :: rest => some (encode fragmentReserved rest)
  | _ => none

def readQuery (family : Family) (text : List Char) : Option (List Char) × Option (List Char) :=
  match text with
  | '?' :: rest =>
    let reserved := if family.isSpecial then '\'' :: queryReserved else queryReserved
    (some (encode reserved (rest.takeWhile (· != '#'))), readFragment (rest.dropWhile (· != '#')))
  | _ => (none, readFragment text)

def assemble (scheme : List Char) (authority : Option Authority) (pathAndRest : Path × List Char) :
    Url :=
  let (query, fragment) := readQuery (.ofScheme scheme) pathAndRest.2
  ⟨scheme, authority, pathAndRest.1, query, fragment⟩

/-! ## Authorities -/

def endsAuthority (family : Family) (c : Char) : Bool :=
  isSlash family c || endsPath c

def splitLastAt (text : List Char) : Option (List Char × List Char) :=
  if '@' ∈ text then
    let reversed := text.reverse
    some ((reversed.dropWhile (· != '@')).drop 1 |>.reverse, (reversed.takeWhile (· != '@')).reverse)
  else none

def readUser (text : List Char) : List Char × Option (List Char) :=
  let username := encode userReserved (text.takeWhile (· != ':'))
  match (text.dropWhile (· != ':')).drop 1 with
  | [] => (username, none)
  | password => (username, some (encode userReserved password))

def readPort (scheme : List Char) (text : List Char) : Except Error (Option Nat × List Char) :=
  let digits := text.takeWhile Char.isDigit
  let rest := text.dropWhile Char.isDigit
  let port := Host.readNumber 10 digits
  let ends := match rest with
    | [] => true
    | c :: _ => c == '/' || c == '\\' || endsPath c
  if 65535 < port || !ends then .error .invalidPort
  else if digits.isEmpty || usualPort? scheme = some port then .ok (none, rest)
  else .ok (some port, rest)

def takeHost (family : Family) (inBrackets : Bool) : List Char → List Char × List Char
  | [] => ([], [])
  | c :: rest =>
    if endsAuthority family c || (c == ':' && !inBrackets) then ([], c :: rest)
    else
      let (host, after) :=
        takeHost family (if c == '[' then true else if c == ']' then false else inBrackets) rest
      (c :: host, after)

def readHost (family : Family) (text : List Char) : Except Error (Host × List Char) := do
  let (name, rest) := takeHost family false text
  if family.isSpecial then
    if name.isEmpty then .error .emptyHost
    else
      let host ← Host.parse name
      pure (host, rest)
  else
    let host ← Host.parseForeign name
    if host.isEmpty && rest.head? == some ':' then .error .emptyHost
    else pure (host, rest)

/-- Whether `@` is followed by nothing that could name a host. -/
def lacksHost (family : Family) (text : List Char) : Bool :=
  match text with
  | [] => false
  | c :: _ => endsAuthority family c

def readAuthority (scheme : List Char) (text : List Char) : Except Error Url := do
  let family := Family.ofScheme scheme
  let authority := text.takeWhile (!endsAuthority family ·)
  let beyond := text.dropWhile (!endsAuthority family ·)
  let (user, place) := match splitLastAt authority with
    | none => (none, text)
    | some (user, place) => (some user, place ++ beyond)
  let (username, password) := (user.map readUser).getD ([], none)
  if user = some [] && lacksHost family place then .error .emptyHost
  else
    let (host, rest) ← readHost family place
    let (port, rest) ← match rest with
      | ':' :: rest => readPort scheme rest
      | _ => pure (none, rest)
    let result : Authority := ⟨username, password, host, port⟩
    if host.isEmpty && hasCredentials result then .error .emptyHost
    else pure (assemble scheme (some result) (readRootPath family rest))

/-! ## Files -/

def fileScheme : List Char := "file".toList

def fileUrl (host : Host) (pathAndRest : Path × List Char) : Url :=
  assemble fileScheme (some ⟨[], none, host, none⟩) pathAndRest

/-- The host of a file, which may be missing, and the text after it. This computer has no name. -/
def readFileHost (text : List Char) : Except Error (Host × List Char) :=
  let name := text.takeWhile fun c => !(isSlash .file c || endsPath c)
  let rest := text.dropWhile fun c => !(isSlash .file c || endsPath c)
  if isDrive name then .ok (.name [], text)
  else if name.isEmpty then .ok (.name [], rest)
  else match Host.parse name with
    | .error error => .error error
    | .ok host => .ok (if host = .name "localhost".toList then .name [] else host, rest)

/-- A path that begins with a drive letter has no host. -/
def dropHostOfDrive (host : Host) (path : Path) : Host :=
  match path with
  | .segments (first :: _) => if isPlainDrive first then .name [] else host
  | _ => host

def fileBase? (base : Option Url) : Option Url :=
  base.filter fun base => base.scheme = fileScheme

def Path.toSegments : Path → List (List Char)
  | .segments parts => parts
  | .rootless _ => []

def rootOfBase (base : Option Url) (text : List Char) : Host × List (List Char) :=
  match base with
  | none => (.name [], [])
  | some base =>
    if startsWithDrive text then (.name [], [])
    else match base.path.toSegments with
      | first :: _ =>
        if isPlainDrive first then (.name [], [first])
        else ((base.authority.map (·.host)).getD (.name []), [])
      | [] => ((base.authority.map (·.host)).getD (.name []), [])

def withFragment (base : Url) (text : List Char) : Url :=
  { base with fragment := readFragment text }

def withQuery (base : Url) (text : List Char) : Url :=
  assemble base.scheme base.authority (base.path, text)

def readFile (base : Option Url) (text : List Char) : Except Error Url :=
  match text with
  | c :: rest =>
    if isSlash .file c then
      match rest with
      | d :: after =>
        if isSlash .file d then do
          let (host, rest) ← readFileHost after
          let (path, rest) := readRootPath .file rest
          pure (fileUrl (dropHostOfDrive host path) (path, rest))
        else
          let (host, root) := rootOfBase (fileBase? base) rest
          .ok (fileUrl host (readPath .file root rest))
      | [] =>
        let (host, root) := rootOfBase (fileBase? base) rest
        .ok (fileUrl host (readPath .file root rest))
    else match fileBase? base with
      | none => .ok (fileUrl (.name []) (readPath .file [] text))
      | some base =>
        if c == '?' then .ok (withQuery base text)
        else if c == '#' then .ok (withFragment base text)
        else if startsWithDrive text then .ok (fileUrl (.name []) (readPath .file [] text))
        else
          .ok (assemble fileScheme base.authority
            (readPath .file (shorten .file base.path.toSegments) text))
  | [] =>
    match fileBase? base with
    | none => .ok (fileUrl (.name []) (.segments [[]], []))
    | some base => .ok { base with fragment := none }

/-! ## Whole URLs -/

def readRelative (base : Url) (text : List Char) : Except Error Url :=
  let family := Family.ofScheme base.scheme
  let isBar (c : Char) : Bool := c == '/' || c == '\\'
  match text with
  | [] => .ok { base with fragment := none }
  | '?' :: _ => .ok (withQuery base text)
  | '#' :: _ => .ok (withFragment base text)
  | '/' :: '/' :: rest => readAuthority base.scheme rest
  | c :: rest =>
    if isBar c then
      match rest with
      | d :: _ =>
        if isBar d then readAuthority base.scheme (rest.dropWhile isBar)
        else .ok (assemble base.scheme base.authority (readPath family [] rest))
      | [] => .ok (assemble base.scheme base.authority (readPath family [] rest))
    else
      .ok (assemble base.scheme base.authority
        (readPath family base.path.toSegments.dropLast text))

def readAbsolute (base : Option Url) (scheme rest : List Char) : Except Error Url :=
  let isBar (c : Char) : Bool := c == '/' || c == '\\'
  match Family.ofScheme scheme with
  | .file => readFile base rest
  | .web =>
    let bars := (rest.takeWhile isBar).length
    match base with
    | some base =>
      if bars < 2 ∧ base.scheme = scheme then readRelative base rest
      else readAuthority scheme (rest.dropWhile isBar)
    | none => readAuthority scheme (rest.dropWhile isBar)
  | .other =>
    match rest with
    | '/' :: '/' :: rest => readAuthority scheme rest
    | '/' :: rest => .ok (assemble scheme none (readPath .other [] rest))
    | _ => .ok (assemble scheme none (readRootless rest))

def isRootless (url : Url) : Bool :=
  match url.path with
  | .rootless _ => true
  | .segments _ => false

def read (base : Option Url) (text : String) : Except Error Url :=
  let text := clean text.toList
  match takeScheme? text with
  | some (scheme, rest) => readAbsolute base scheme rest
  | none =>
    match base with
    | none => .error .relativeWithoutBase
    | some base =>
      if text.head? = some '#' then .ok (withFragment base text)
      else if isRootless base then .error .relativeToRootless
      else if Family.ofScheme base.scheme = .file then readFile (some base) text
      else readRelative base text

def parse (text : String) : Except Error Url :=
  read none text

def join (base : Url) (text : String) : Except Error Url :=
  read (some base) text

end PracticeClient.Url
