namespace PracticeClient

structure Path where
  isAbsolute : Bool
  pieces : List String
  deriving DecidableEq, Repr

namespace Path

def ofText (text : String) : Path :=
  match text.splitOn "/" with
  | "" :: first :: rest => ⟨true, first :: rest⟩
  | pieces => ⟨false, pieces⟩

def text (path : Path) : String :=
  let relative := "/".intercalate path.pieces
  if path.isAbsolute then "/" ++ relative else relative

def isDot (piece : String) : Bool :=
  piece == "" || piece == "."

def trimEnd (pieces : List String) : List String :=
  (pieces.reverse.dropWhile isDot).reverse

def join (path other : Path) : Path :=
  if other.isAbsolute then other
  else
    let kept := if path.pieces.getLast? = some "" then path.pieces.dropLast else path.pieces
    ⟨path.isAbsolute, kept ++ other.pieces⟩

def child (path : Path) (name : String) : Path :=
  path.join ⟨false, [name]⟩

def parent? (path : Path) : Option Path :=
  match trimEnd path.pieces with
  | [] => none
  | pieces => some ⟨path.isAbsolute, trimEnd pieces.dropLast⟩

def fileName? (path : Path) : Option String :=
  match (trimEnd path.pieces).getLast? with
  | some ".." => none
  | name => name

def withFileName (path : Path) (name : String) : Path :=
  if path.fileName?.isSome then ((path.parent?).getD path).child name else path.child name

def ancestors (path : Path) : List Path :=
  ((List.range (path.pieces.length + 1)).map fun n =>
    ⟨path.isAbsolute, path.pieces.take n⟩).reverse

def isEmpty (path : Path) : Bool :=
  !path.isAbsolute && path.pieces.all (· == "")

end Path

end PracticeClient
