import PracticeClient.Json.Printer
import PracticeClient.Text.Quoted
import PracticeClient.Text.Utf8

namespace PracticeClient.Json

inductive Shape where
  | null
  | bool (value : Bool)
  | number (value : Number)
  | string (value : String)
  | sequence
  | map
  deriving DecidableEq, Repr

def Value.shape : Value → Shape
  | .null => .null
  | .bool b => .bool b
  | .number n => .number n
  | .string s => .string s
  | .array _ => .sequence
  | .object _ => .map

def Shape.describe : Shape → String
  | .null => "null"
  | .bool b => s!"boolean `{b}`"
  | .number (.integer n) => s!"integer `{n}`"
  | .number (.real x) => s!"floating point `{String.ofList x.text}`"
  | .string s => s!"string {Text.quote s}"
  | .sequence => "sequence"
  | .map => "map"

inductive Misfit where
  | invalidType (found : Shape) (expected : String)
  | invalidValue (found : Shape) (expected : String)
  | invalidLength (length : Nat) (expected : String)
  | unknownVariant (name : String) (known : List String)
  | missingField (name : String)
  | duplicateField (name : String)
  deriving DecidableEq, Repr

def alternatives (names : List String) : String :=
  match names.map fun name => s!"`{name}`" with
  | [a, b] => s!"{a} or {b}"
  | quoted => "one of " ++ ", ".intercalate quoted

def Misfit.message : Misfit → String
  | invalidType found expected => s!"invalid type: {found.describe}, expected {expected}"
  | invalidValue found expected => s!"invalid value: {found.describe}, expected {expected}"
  | invalidLength length expected => s!"invalid length {length}, expected {expected}"
  | unknownVariant name known => s!"unknown variant `{name}`, expected {alternatives known}"
  | missingField name => s!"missing field `{name}`"
  | duplicateField name => s!"duplicate field `{name}`"

inductive Problem where
  | expectedValue
  | expectedWord
  | expectedColon
  | expectedCommaOrBrace
  | expectedCommaOrBracket
  | keyNotString
  | trailingComma
  | trailingCharacters
  | invalidNumber
  | numberOutOfRange
  | invalidEscape
  | hexEscapeEnds
  | loneSurrogate
  | controlCharacter
  | tooDeep
  | valueEnds
  | listEnds
  | objectEnds
  | stringEnds
  | misfit (cause : Misfit)
  deriving DecidableEq, Repr

inductive Problem.Kind where
  | grammar
  | ending
  | data
  deriving DecidableEq, Repr

def Problem.kind : Problem → Problem.Kind
  | valueEnds | listEnds | objectEnds | stringEnds => .ending
  | misfit _ => .data
  | _ => .grammar

def Problem.message : Problem → String
  | expectedValue => "expected value"
  | expectedWord => "expected ident"
  | expectedColon => "expected `:`"
  | expectedCommaOrBrace => "expected `,` or `\x7d`"
  | expectedCommaOrBracket => "expected `,` or `]`"
  | keyNotString => "key must be a string"
  | trailingComma => "trailing comma"
  | trailingCharacters => "trailing characters"
  | invalidNumber => "invalid number"
  | numberOutOfRange => "number out of range"
  | invalidEscape => "invalid escape"
  | hexEscapeEnds => "unexpected end of hex escape"
  | loneSurrogate => "lone leading surrogate in hex escape"
  | controlCharacter => "control character (\\u0000-\\u001F) found while parsing a string"
  | tooDeep => "recursion limit exceeded"
  | valueEnds => "EOF while parsing a value"
  | listEnds => "EOF while parsing a list"
  | objectEnds => "EOF while parsing an object"
  | stringEnds => "EOF while parsing a string"
  | misfit cause => cause.message

structure Fault where
  problem : Problem
  position : Nat
  deriving DecidableEq, Repr

namespace Fault

def lineFeed : UInt8 := 0x0A

def lineOf (seen : Bytes) : Nat :=
  1 + seen.count lineFeed

def columnOf (seen : Bytes) : Nat :=
  (seen.reverse.takeWhile (· != lineFeed)).length

def message (fault : Fault) (text : String) : String :=
  let seen := (Text.utf8 text).take fault.position
  s!"{fault.problem.message} at line {lineOf seen} column {columnOf seen}"

end Fault

end PracticeClient.Json
