import PracticeClient.Json.Tree
import PracticeClient.Text.Digits

namespace PracticeClient.Json

structure Cursor where
  rest : List Char
  position : Nat
  deriving DecidableEq, Repr

def isGap (c : Char) : Bool :=
  c == ' ' || c == '\t' || c == '\n' || c == '\r'

def Cursor.skipGap (cursor : Cursor) : Cursor :=
  let gap := cursor.rest.takeWhile isGap
  ⟨cursor.rest.dropWhile isGap, cursor.position + gap.length⟩

/-! ## Numbers -/

def digitValue (c : Char) : Nat :=
  c.toNat - 48

def takeDigits (cursor : Cursor) : List Nat × Cursor :=
  let digits := (cursor.rest.takeWhile Char.isDigit).map digitValue
  (digits, ⟨cursor.rest.dropWhile Char.isDigit, cursor.position + digits.length⟩)

def Cursor.noDigit (cursor : Cursor) : Break :=
  match cursor.rest with
  | [] => ⟨⟨.valueEnds, cursor.position⟩, ⟨.invalidNumber, cursor.position⟩⟩
  | _ :: _ => .plain .invalidNumber (cursor.position + 1)

def readFraction (cursor : Cursor) : Option (List Nat) × Option Break × Cursor :=
  match cursor.rest with
  | '.' :: rest =>
    let (digits, next) := takeDigits ⟨rest, cursor.position + 1⟩
    (some digits, if digits.isEmpty then some next.noDigit else none, next)
  | _ => (none, none, cursor)

def readSign (cursor : Cursor) : Bool × Cursor :=
  match cursor.rest with
  | '-' :: rest => (true, ⟨rest, cursor.position + 1⟩)
  | '+' :: rest => (false, ⟨rest, cursor.position + 1⟩)
  | _ => (false, cursor)

def readPower (cursor : Cursor) : Option (Bool × List Nat) × Option Break × Cursor :=
  match cursor.rest with
  | c :: rest =>
    if c == 'e' || c == 'E' then
      let (negative, next) := readSign ⟨rest, cursor.position + 1⟩
      let (digits, next) := takeDigits next
      (some (negative, digits), if digits.isEmpty then some next.noDigit else none, next)
    else (none, none, cursor)
  | [] => (none, none, cursor)

def wholeBreak (digits : List Nat) (start next : Cursor) : Option Break :=
  match digits with
  | [] => some next.noDigit
  | 0 :: _ :: _ => some (.plain .invalidNumber (start.position + 2))
  | _ => none

def readNumeral (cursor : Cursor) : Numeral × Cursor :=
  let negative := cursor.rest.head? == some '-'
  let unsigned : Cursor :=
    if negative then ⟨cursor.rest.drop 1, cursor.position + 1⟩ else cursor
  let (whole, next) := takeDigits unsigned
  match wholeBreak whole unsigned next with
  | some cause =>
    (⟨negative, whole, none, none, cursor.position, next.position, some cause⟩, ⟨[], next.position⟩)
  | none =>
    let (fraction, broken, next) := readFraction next
    match broken with
    | some cause =>
      (⟨negative, whole, fraction, none, cursor.position, next.position, some cause⟩,
        ⟨[], next.position⟩)
    | none =>
      let (power, broken, next) := readPower next
      match broken with
      | some cause =>
        (⟨negative, whole, fraction, power, cursor.position, next.position, some cause⟩,
          ⟨[], next.position⟩)
      | none =>
        (⟨negative, whole, fraction, power, cursor.position, next.position, none⟩, next)

/-! ## Strings -/

def hexUnit? (a b c d : Char) : Option Nat :=
  match Text.hexValue? a, Text.hexValue? b, Text.hexValue? c, Text.hexValue? d with
  | some a, some b, some c, some d => some (((a * 16 + b) * 16 + c) * 16 + d)
  | _, _, _, _ => none

def unescape? (c : Char) : Option Char :=
  match c with
  | '"' => some '"'
  | '\\' => some '\\'
  | '/' => some '/'
  | 'b' => some '\x08'
  | 'f' => some '\x0c'
  | 'n' => some '\n'
  | 'r' => some '\r'
  | 't' => some '\t'
  | _ => none

def byteCount (text : List Char) : Nat :=
  text.foldl (fun count c => count + c.utf8Size) 0

def hexFault (position : Nat) (rest : List Char) : Fault :=
  if 4 ≤ byteCount rest then ⟨.invalidEscape, position + 4⟩
  else ⟨.stringEnds, position + byteCount rest⟩

def readPieces (position : Nat) : List Char → List Piece × Ending × List Char
  | [] => ([], .fault ⟨.stringEnds, position⟩, [])
  | ['\\'] => ([], .fault ⟨.stringEnds, position + 1⟩, [])
  | '\\' :: 'u' :: a :: b :: c :: d :: rest =>
    match hexUnit? a b c d with
    | some value =>
      let (pieces, ending, after) := readPieces (position + 6) rest
      (.unit value (position + 6) :: pieces, ending, after)
    | none => ([], .fault ⟨.invalidEscape, position + 6⟩, [])
  | '\\' :: c :: rest =>
    if c == 'u' then ([], .fault (hexFault (position + 2) rest), [])
    else match unescape? c with
      | some _ =>
        let (pieces, ending, after) := readPieces (position + 2) rest
        (.escape c :: pieces, ending, after)
      | none => ([], .fault ⟨.invalidEscape, position + 2⟩, [])
  | c :: rest =>
    if c == '"' then ([], .quote (position + 1), rest)
    else if c.toNat < 32 then ([], .fault ⟨.controlCharacter, position + 1⟩, [])
    else
      let (pieces, ending, after) := readPieces (position + c.utf8Size) rest
      (.plain c :: pieces, ending, after)

def readQuotation (cursor : Cursor) : Quotation × Cursor :=
  let (pieces, ending, rest) := readPieces cursor.position cursor.rest
  let stop := match ending with
    | .quote stop => stop
    | .fault fault => fault.position
  (⟨cursor.position - 1, pieces, ending⟩, ⟨rest, stop⟩)

/-! ## Words -/

def readWord : List Char → Cursor → Except Fault Cursor
  | [], cursor => .ok cursor
  | wanted :: word, cursor =>
    match cursor.rest with
    | [] => .error ⟨.valueEnds, cursor.position⟩
    | c :: rest =>
      if c == wanted then readWord word ⟨rest, cursor.position + 1⟩
      else .error ⟨.expectedWord, cursor.position + 1⟩

def wordTree (word : List Char) (tree : Nat → Tree) (cursor : Cursor) : Tree × Cursor :=
  match readWord word cursor with
  | .ok next => (tree next.position, next)
  | .error fault => (.garbled cursor.position fault, ⟨[], fault.position⟩)

/-! ## Trees -/

mutual

def readTree : Nat → Cursor → Tree × Cursor
  | 0, cursor => (.missing cursor.position, ⟨[], cursor.position⟩)
  | fuel + 1, cursor =>
    let inside (rest : List Char) : Cursor := ⟨rest, cursor.position + 1⟩
    match cursor.rest with
    | [] => (.missing cursor.position, cursor)
    | 'n' :: rest => wordTree ['u', 'l', 'l'] .null (inside rest)
    | 't' :: rest => wordTree ['r', 'u', 'e'] (.bool true) (inside rest)
    | 'f' :: rest => wordTree ['a', 'l', 's', 'e'] (.bool false) (inside rest)
    | '"' :: rest =>
      let (quotation, next) := readQuotation (inside rest)
      (.string quotation, next)
    | '[' :: rest =>
      let first := (inside rest).skipGap
      match first.rest with
      | [] => (.array cursor.position (.broken (.plain .listEnds first.position)), first)
      | ']' :: after =>
        (.array cursor.position (.close (first.position + 1)), ⟨after, first.position + 1⟩)
      | _ =>
        let (items, next) := readItems fuel first
        (.array cursor.position items, next)
    | '\x7b' :: rest =>
      let opening := cursor.position + 1
      let first := (inside rest).skipGap
      match first.rest with
      | [] =>
        (.object cursor.position (.broken opening (.plain .objectEnds first.position)), first)
      | '\x7d' :: after =>
        (.object cursor.position (.close (first.position + 1)), ⟨after, first.position + 1⟩)
      | _ =>
        let (members, next) := readMembers fuel opening first
        (.object cursor.position members, next)
    | c :: _ =>
      if c == '-' || c.isDigit then
        let (numeral, next) := readNumeral cursor
        (.number numeral, next)
      else
        (.garbled (cursor.position + 1) ⟨.expectedValue, cursor.position + 1⟩,
          ⟨[], cursor.position + 1⟩)

def readItems : Nat → Cursor → Items × Cursor
  | 0, cursor => (.broken (.plain .listEnds cursor.position), ⟨[], cursor.position⟩)
  | fuel + 1, cursor =>
    let (value, next) := readTree fuel cursor
    let next := next.skipGap
    let stop (cause : Break) : Items × Cursor :=
      (.item value (.broken cause), ⟨[], next.position⟩)
    match next.rest with
    | [] => stop (.plain .listEnds next.position)
    | ']' :: after => (.item value (.close (next.position + 1)), ⟨after, next.position + 1⟩)
    | ',' :: rest =>
      let following := (Cursor.mk rest (next.position + 1)).skipGap
      match following.rest with
      | [] => stop (.plain .valueEnds following.position)
      | ']' :: _ =>
        stop ⟨⟨.trailingComma, following.position + 1⟩, ⟨.expectedValue, following.position + 1⟩⟩
      | _ =>
        let (items, last) := readItems fuel following
        (.item value items, last)
    | _ => stop (.plain .expectedCommaOrBracket (next.position + 1))

def readMembers : Nat → Nat → Cursor → Members × Cursor
  | 0, opening, cursor =>
    (.broken opening (.plain .objectEnds cursor.position), ⟨[], cursor.position⟩)
  | fuel + 1, opening, cursor =>
    match cursor.rest with
    | '"' :: rest =>
      let (key, next) := readQuotation ⟨rest, cursor.position + 1⟩
      let next := next.skipGap
      let colonless (after : Nat) (fault : Fault) : Members × Cursor :=
        (.member opening key after (.unreached fault)
          (.broken fault.position (.plain .objectEnds fault.position)), ⟨[], fault.position⟩)
      match next.rest with
      | [] => colonless next.position ⟨.objectEnds, next.position⟩
      | '\x7d' :: _ => colonless (next.position + 1) ⟨.expectedColon, next.position + 1⟩
      | ':' :: rest =>
        let (value, last) := readTree fuel (Cursor.mk rest (next.position + 1)).skipGap
        let last := last.skipGap
        let stop (place : Nat) (cause : Break) : Members × Cursor :=
          (.member opening key next.position value (.broken place cause), ⟨[], last.position⟩)
        match last.rest with
        | [] => stop last.position (.plain .objectEnds last.position)
        | '\x7d' :: after =>
          (.member opening key next.position value (.close (last.position + 1)),
            ⟨after, last.position + 1⟩)
        | ',' :: rest =>
          let separator := last.position + 1
          let following := (Cursor.mk rest separator).skipGap
          match following.rest with
          | [] =>
            stop separator
              ⟨⟨.valueEnds, following.position⟩, ⟨.objectEnds, following.position⟩⟩
          | '\x7d' :: _ =>
            stop separator
              ⟨⟨.trailingComma, following.position + 1⟩, ⟨.keyNotString, following.position + 1⟩⟩
          | _ =>
            let (members, final) := readMembers fuel separator following
            (.member opening key next.position value members, final)
        | _ => stop (last.position + 1) (.plain .expectedCommaOrBrace (last.position + 1))
      | _ => colonless next.position ⟨.expectedColon, next.position + 1⟩
    | _ =>
      let (standing, next) := readTree fuel cursor
      (.noKey opening standing (.plain .keyNotString (cursor.position + 1)), ⟨[], next.position⟩)

end

def Document.ofText (text : String) : Document :=
  let characters := text.toList
  let (tree, next) := readTree (2 * characters.length + 2) (Cursor.mk characters 0).skipGap
  let final := next.skipGap
  ⟨tree, if final.rest.isEmpty then none else some (final.position + 1)⟩

end PracticeClient.Json
