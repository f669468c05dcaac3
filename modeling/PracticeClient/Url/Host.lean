import PracticeClient.Url.Percent

namespace PracticeClient

/-- How the name of a host is put into ASCII that is not plain: one that has other characters, or
a label that stands for such. -/
class Idna where
  toAscii? : String → Option (List Char)

namespace Idna

/-- No name but a plain one. -/
scoped instance plain : Idna := ⟨fun _ => none⟩

end Idna

namespace Url

inductive Error where
  | emptyHost
  | invalidPort
  | invalidIpv4
  | invalidIpv6
  | invalidName
  | invalidCharacter
  | relativeWithoutBase
  | relativeToRootless
  deriving DecidableEq, Repr

def Error.message : Error → String
  | emptyHost => "empty host"
  | invalidPort => "invalid port number"
  | invalidIpv4 => "invalid IPv4 address"
  | invalidIpv6 => "invalid IPv6 address"
  | invalidName => "invalid international domain name"
  | invalidCharacter => "invalid domain character"
  | relativeWithoutBase => "relative URL without a base"
  | relativeToRootless => "relative URL with a cannot-be-a-base base"

inductive Host where
  | name (text : List Char)
  | ipv4 (address : Nat)
  | ipv6 (pieces : List Nat)
  deriving DecidableEq, Repr

namespace Host

def isEmpty (host : Host) : Bool :=
  host == .name []

/-! ## IPv4 -/

def isHex (c : Char) : Bool := (Text.hexValue? c).isSome

def isOctal (c : Char) : Bool := '0' ≤ c && c ≤ '7'

def readNumber (base : Nat) (digits : List Char) : Nat :=
  digits.foldl (fun n c => n * base + (Text.hexValue? c).getD 0) 0

def ipv4Number? (part : List Char) : Option Nat :=
  let ofDigits (isDigit : Char → Bool) (base : Nat) (digits : List Char) : Option Nat :=
    if digits.all isDigit then some (readNumber base digits) else none
  match part with
  | [] => none
  | '0' :: 'x' :: digits => ofDigits isHex 16 digits
  | '0' :: 'X' :: digits => ofDigits isHex 16 digits
  | '0' :: c :: digits => ofDigits isOctal 8 (c :: digits)
  | digits => ofDigits Char.isDigit 10 digits

/-- The parts between the dots. A dot at the end opens no part. -/
def labels (name : List Char) : List (List Char) :=
  let parts := name.splitOn '.'
  match parts.getLast? with
  | some [] => parts.dropLast
  | _ => parts

def endsInNumber (name : List Char) : Bool :=
  match (labels name).getLast? with
  | none => false
  | some last => (!last.isEmpty && last.all Char.isDigit) || (ipv4Number? last).isSome

def ipv4OfNumbers (numbers : List Nat) : Option Nat :=
  match numbers.getLast? with
  | none => none
  | some last =>
    let leading := numbers.dropLast
    if 4 < numbers.length || leading.any (255 < ·) || Nat.pow 256 (4 - leading.length) ≤ last then none
    else
      let high := leading.foldl (fun n byte => n * 256 + byte) 0
      some (high * Nat.pow 256 (4 - leading.length) + last)

def parseIpv4 (name : List Char) : Except Error Host :=
  match ((labels name).mapM ipv4Number?).bind ipv4OfNumbers with
  | some address => .ok (.ipv4 address)
  | none => .error .invalidIpv4

/-! ## IPv6 -/

structure Ipv6Draft where
  pieces : List Nat
  gap : Option Nat

def Ipv6Draft.finish (draft : Ipv6Draft) : Option (List Nat) :=
  match draft.gap with
  | none => if draft.pieces.length = 8 then some draft.pieces else none
  | some place =>
    some (draft.pieces.take place ++ List.replicate (8 - draft.pieces.length) 0 ++
      draft.pieces.drop place)

def plainIpv4? (text : List Char) : Option (Nat × Nat) :=
  let byte? (part : List Char) : Option Nat :=
    if part.isEmpty || !part.all Char.isDigit || (part.head? == some '0' && 1 < part.length) then
      none
    else
      let n := readNumber 10 part
      if n ≤ 255 then some n else none
  match (text.splitOn '.').mapM byte? with
  | some [a, b, c, d] => some (a * 256 + b, c * 256 + d)
  | _ => none

def readIpv6 : (fuel : Nat) → List Char → Ipv6Draft → Option Ipv6Draft
  | 0, _, _ => none
  | fuel + 1, text, draft =>
    match text with
    | [] => some draft
    | c :: rest =>
      if draft.pieces.length = 8 then none
      else if c == ':' then
        if draft.gap.isSome then none
        else
          readIpv6 fuel rest ⟨draft.pieces ++ [0], some (draft.pieces.length + 1)⟩
      else
        let digits := (text.take 4).takeWhile isHex
        let after := text.drop digits.length
        let piece := readNumber 16 digits
        match after with
        | [] => some { draft with pieces := draft.pieces ++ [piece] }
        | '.' :: _ =>
          if digits.isEmpty || 6 < draft.pieces.length then none
          else match plainIpv4? text with
            | some (a, b) => some { draft with pieces := draft.pieces ++ [a, b] }
            | none => none
        | ':' :: next =>
          if next.isEmpty then none
          else readIpv6 fuel next { draft with pieces := draft.pieces ++ [piece] }
        | _ => none

def parseIpv6 (text : List Char) : Except Error Host :=
  let draft := match text with
    | ':' :: ':' :: rest => readIpv6 (rest.length + 1) rest ⟨[0], some 1⟩
    | ':' :: _ => none
    | _ => readIpv6 (text.length + 1) text ⟨[], none⟩
  match draft.bind Ipv6Draft.finish with
  | some pieces => .ok (.ipv6 pieces)
  | none => .error .invalidIpv6

def longestZeros (pieces : List Nat) : Nat × Nat :=
  let runs := (List.range pieces.length).map fun start =>
    (start, ((pieces.drop start).takeWhile (· == 0)).length)
  runs.foldl (fun best run => if best.2 < run.2 then run else best) (0, 0)

def printPieces (pieces : List Nat) : List Char :=
  [':'].intercalate (pieces.map (Nat.toDigits 16))

/-- Two colons stand for the first of the longest runs of at least two zeros. -/
def printIpv6 (pieces : List Nat) : List Char :=
  let (start, length) := longestZeros pieces
  if length < 2 then printPieces pieces
  else printPieces (pieces.take start) ++ [':', ':'] ++ printPieces (pieces.drop (start + length))

/-! ## Hosts of any kind -/

def nameReserved : List Char :=
  [' ', '#', '%', '/', ':', '<', '>', '?', '@', '[', '\\', ']', '^', '|']

def isNameChar (c : Char) : Bool :=
  ' ' ≤ c && c ≤ '~' && c ∉ nameReserved

def isAscii (c : Char) : Bool := c.toNat < 128

def isPunycode (label : List Char) : Bool :=
  "xn--".toList.isPrefixOf label

def isPlainName (name : List Char) : Bool :=
  name.all isAscii && !(name.splitOn '.').any isPunycode

def asciiName? [Idna] (name : Bytes) : Option (List Char) :=
  match Text.decode? name with
  | none => none
  | some text =>
    let name := text.toList.map Char.toLower
    if name.any fun c => isAscii c && !isNameChar c then none
    else if isPlainName name then some name
    else (Idna.toAscii? text).filter fun ascii => ascii.all isNameChar

def bracketed? (text : List Char) : Option (Except Error Host) :=
  match text with
  | '[' :: rest =>
    if text.getLast? = some ']' then some (parseIpv6 rest.dropLast) else some (.error .invalidIpv6)
  | _ => none

def parse [Idna] (text : List Char) : Except Error Host :=
  match bracketed? text with
  | some result => result
  | none =>
    match asciiName? (decode text) with
    | none => .error .invalidName
    | some ascii =>
      if ascii.isEmpty then .error .emptyHost
      else if endsInNumber ascii then parseIpv4 ascii
      else .ok (.name ascii)

def foreignReserved : List Char :=
  ['\x00', '\t', '\n', '\r', ' ', '#', '/', ':', '<', '>', '?', '@', '[', '\\', ']', '^', '|']

/-- The host of a scheme that nothing is known about: its name is kept as it is. -/
def parseForeign (text : List Char) : Except Error Host :=
  match bracketed? text with
  | some result => result
  | none =>
    if text.any (· ∈ foreignReserved) then .error .invalidCharacter
    else .ok (.name (encode [] text))

def print : Host → List Char
  | name text => text
  | ipv4 address =>
    ['.'].intercalate
      ([3, 2, 1, 0].map fun place => Nat.toDigits 10 (address / Nat.pow 256 place % 256))
  | ipv6 pieces => '[' :: printIpv6 pieces ++ [']']

end Host

end Url

end PracticeClient
