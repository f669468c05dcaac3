import PracticeClient.Environment.Basic
import PracticeClient.Text.Alphanumeric
import PracticeClient.Text.Blank

namespace PracticeClient.Environment

inductive Statement where
  | nothing
  | assignment (name value : String)
  | malformed
  deriving DecidableEq, Repr

/-! ## Values -/

inductive Reading where
  | plain
  | escaped
  | strong
  | reference (name : List Char)
  | bracedReference (name : List Char)
  | ended
  deriving DecidableEq, Repr

structure PartialValue where
  reading : Reading
  quoted : Bool
  text : List Char
  deriving DecidableEq, Repr

namespace PartialValue

def empty : PartialValue := ⟨.plain, false, []⟩

def push (value : PartialValue) (c : Char) : PartialValue :=
  { value with reading := .plain, text := value.text ++ [c] }

def expand (env : Environment) (name : List Char) (value : PartialValue) : PartialValue :=
  let text := (env.get? (String.ofList name)).getD ""
  { value with reading := .plain, text := value.text ++ text.toList }

def unescape? (c : Char) : Option Char :=
  if c ∈ ['\\', '\'', '"', '$', ' '] then some c
  else if c = 'n' then some '\n'
  else none

def readPlain (c : Char) (value : PartialValue) : PartialValue :=
  if c = '$' then { value with reading := .reference [] }
  else if c = '\\' then { value with reading := .escaped }
  else if c = '"' then { value with quoted := !value.quoted }
  else if value.quoted then value.push c
  else if c = '\'' then { value with reading := .strong }
  else if c = ' ' ∨ c = '\t' then { value with reading := .ended }
  else value.push c

/-- A character after a name ends the reference, and is kept as it is unless it begins another. -/
def readReference (env : Environment) (name : List Char) (c : Char) (value : PartialValue) :
    PartialValue :=
  if Text.isAlphanumeric c then { value with reading := .reference (name ++ [c]) }
  else if c = '\x7b' ∧ name = [] then { value with reading := .bracedReference [] }
  else if c = '$' then { value.expand env name with reading := .reference [] }
  else (value.expand env name).push c

def readBraced (env : Environment) (name : List Char) (c : Char) (value : PartialValue) :
    PartialValue :=
  if c = '\x7d' then value.expand env name
  else { value with reading := .bracedReference (name ++ [c]) }

def finish? (env : Environment) (value : PartialValue) : Option String :=
  match value.reading, value.quoted with
  | .strong, _ => none
  | .bracedReference _, _ => none
  | _, true => none
  | .reference name, false => some (String.ofList (value.expand env name).text)
  | _, false => some (String.ofList value.text)

def read? (env : Environment) : List Char → PartialValue → Option String
  | [], value => value.finish? env
  | c :: rest, value =>
    match value.reading with
    | .ended =>
      if c = ' ' ∨ c = '\t' then read? env rest value
      else if c = '#' then value.finish? env
      else none
    | .escaped =>
      match unescape? c with
      | some c => read? env rest (value.push c)
      | none => none
    | .strong =>
      if c = '\'' then read? env rest { value with reading := .plain }
      else read? env rest { value with text := value.text ++ [c] }
    | .reference name => read? env rest (value.readReference env name c)
    | .bracedReference name => read? env rest (value.readBraced env name c)
    | .plain => read? env rest (value.readPlain c)

end PartialValue

/-! ## Statements -/

def isNameStart (c : Char) : Bool := c.isAlpha || c == '_'

def isNameChar (c : Char) : Bool := c.isAlphanum || c == '_' || c == '.'

def name? (line : List Char) : Option (String × List Char) :=
  match line with
  | [] => none
  | c :: _ =>
    if isNameStart c then
      some (String.ofList (line.takeWhile isNameChar),
        (line.dropWhile isNameChar).dropWhile Text.isBlank)
    else none

def isIdle (line : List Char) : Bool :=
  line.isEmpty || line.head? == some '#'

def assign (env : Environment) (name : String) (line : List Char) : Statement :=
  match line with
  | '=' :: value =>
    let value := value.dropWhile Text.isBlank
    if isIdle value then .assignment name ""
    else
      match PartialValue.read? env value .empty with
      | some value => .assignment name value
      | none => .malformed
  | _ => .malformed

def assignExported (env : Environment) (line : List Char) : Statement :=
  match name? line with
  | some (name, rest) => assign env name rest
  | none => .malformed

/-- The word `export` may stand before a name, or be a name itself. -/
def Statement.ofLine (env : Environment) (line : List Char) : Statement :=
  let line := (Text.trim (String.ofList line)).toList
  if isIdle line then .nothing
  else
    match name? line with
    | none => .malformed
    | some (name, rest) =>
      if name = "export" ∧ rest.head? ≠ some '=' then assignExported env rest
      else assign env name rest

end PracticeClient.Environment
