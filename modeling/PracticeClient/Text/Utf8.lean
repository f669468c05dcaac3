/-!
# UTF-8

Text as bytes and bytes as text. Reading goes byte by byte and yields one entry for each character
and one for each stretch of bytes that begins a character and cannot go on, or begins none.
-/

namespace PracticeClient

abbrev Bytes := List UInt8

namespace Text

def utf8 (text : String) : Bytes :=
  text.toList.flatMap String.utf8EncodeChar

/-- A character of which some bytes have been read: how many are owed, between which bounds the
next one lies, and the bits read so far. -/
structure Pending where
  owed : Nat
  low : UInt8
  high : UInt8
  bits : Nat
  deriving DecidableEq, Repr

/-- What the first byte of a character announces. The bounds on the second byte leave out overlong
forms, surrogates and numbers beyond the last character. -/
def Pending.ofLead? (byte : UInt8) : Option Pending :=
  if 0xC2 ≤ byte ∧ byte ≤ 0xDF then some ⟨1, 0x80, 0xBF, byte.toNat - 0xC0⟩
  else if byte = 0xE0 then some ⟨2, 0xA0, 0xBF, 0⟩
  else if byte = 0xED then some ⟨2, 0x80, 0x9F, 0xD⟩
  else if 0xE1 ≤ byte ∧ byte ≤ 0xEF then some ⟨2, 0x80, 0xBF, byte.toNat - 0xE0⟩
  else if byte = 0xF0 then some ⟨3, 0x90, 0xBF, 0⟩
  else if 0xF1 ≤ byte ∧ byte ≤ 0xF3 then some ⟨3, 0x80, 0xBF, byte.toNat - 0xF0⟩
  else if byte = 0xF4 then some ⟨3, 0x80, 0x8F, 4⟩
  else none

def begin (byte : UInt8) : List (Option Char) × Option Pending :=
  if byte < 0x80 then ([some (Char.ofNat byte.toNat)], none)
  else match Pending.ofLead? byte with
    | some pending => ([], some pending)
    | none => ([none], none)

/-- One byte: the characters and ill-formed stretches that it ends, and what is pending after it. -/
def advance : Option Pending → UInt8 → List (Option Char) × Option Pending
  | none, byte => begin byte
  | some pending, byte =>
    if pending.low ≤ byte ∧ byte ≤ pending.high then
      let bits := pending.bits * 64 + (byte.toNat - 0x80)
      if pending.owed ≤ 1 then ([some (Char.ofNat bits)], none)
      else ([], some ⟨pending.owed - 1, 0x80, 0xBF, bits⟩)
    else
      let fresh := begin byte
      (none :: fresh.1, fresh.2)

/-- The characters of a byte sequence in order, with `none` for each ill-formed stretch. -/
def scalars (pending : Option Pending) : Bytes → List (Option Char)
  | [] => if pending.isSome then [none] else []
  | byte :: rest => (advance pending byte).1 ++ scalars (advance pending byte).2 rest

def decode? (bytes : Bytes) : Option String :=
  ((scalars none bytes).mapM id).map String.ofList

def decodeLossy (bytes : Bytes) : String :=
  String.ofList ((scalars none bytes).map fun scalar => scalar.getD '\uFFFD')

end Text

end PracticeClient
