import PracticeClient.Text.Blank
import PracticeClient.Text.Utf8

namespace PracticeClient.Environment

inductive Standing where
  | plain
  | escaped
  | strong
  | strongEscaped
  | weak
  | weakEscaped
  | blank
  deriving DecidableEq, Repr

namespace Standing

def begin (c : Char) : Standing :=
  if c = '\\' then .escaped
  else if c = '"' then .weak
  else if c = '\'' then .strong
  else .plain

def next (c : Char) : Standing → Standing
  | plain => if Text.isBlank c && c != '\n' && c != '\r' then .blank else begin c
  | blank => begin c
  | escaped => .plain
  | strong => if c = '\\' then .strongEscaped else if c = '\'' then .plain else .strong
  | strongEscaped => .strong
  | weak => if c = '\\' then .weakEscaped else if c = '"' then .plain else .weak
  | weakEscaped => .weak

end Standing

def scan : Standing → List Char → List Char × Option Standing
  | standing, [] => ([], some standing)
  | standing, c :: rest =>
    if standing = .blank ∧ c = '#' then ([], none)
    else
      let (before, after) := scan (standing.next c) rest
      (c :: before, after)

def isComment (line : List Char) : Bool :=
  (line.dropWhile Text.isBlank).head? == some '#'

def withoutEnd (line : List Char) : List Char :=
  match line.reverse with
  | '\n' :: '\r' :: rest => rest.reverse
  | '\n' :: rest => rest.reverse
  | _ => line

/-- Joins physical lines to lines. A line that is not text or never ends is missing, and nothing
comes after it. -/
def joinLines (begun : List Char) (standing : Standing) :
    List (Option (List Char)) → List (Option (List Char))
  | [] => if standing = .plain then [] else [none]
  | none :: _ => [none]
  | some line :: rest =>
    if isComment (begun ++ line) then some [] :: joinLines [] .plain rest
    else
      match scan standing line with
      | (before, none) => some (begun ++ before) :: joinLines [] .plain rest
      | (_, some .plain) => some (withoutEnd (begun ++ line)) :: joinLines [] .plain rest
      | (_, some standing) => joinLines (begun ++ line) standing rest

def splitLines : Bytes → List Bytes
  | [] => []
  | byte :: rest =>
    if byte = 0x0A then [byte] :: splitLines rest
    else
      match splitLines rest with
      | [] => [[byte]]
      | line :: lines => (byte :: line) :: lines

def withoutMark : Bytes → Bytes
  | 0xEF :: 0xBB :: 0xBF :: rest => rest
  | content => content

def lines (content : Bytes) : List (Option (List Char)) :=
  joinLines [] .plain
    ((splitLines (withoutMark content)).map fun line => (Text.decode? line).map String.toList)

end PracticeClient.Environment
