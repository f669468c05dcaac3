import PracticeClient.Text.Digits

namespace PracticeClient.Url

def encodeByte (byte : UInt8) : List Char :=
  ['%', Text.hexDigit (byte.toNat / 16), Text.hexDigit (byte.toNat % 16)]

def encodeChar (reserved : List Char) (c : Char) : List Char :=
  if ' ' ≤ c ∧ c ≤ '~' ∧ c ∉ reserved then [c]
  else (String.utf8EncodeChar c).flatMap encodeByte

def encode (reserved : List Char) (text : List Char) : List Char :=
  text.flatMap (encodeChar reserved)

theorem encode_append (reserved a b : List Char) :
    encode reserved (a ++ b) = encode reserved a ++ encode reserved b := by
  simp [encode]

/-! ## The characters each part may not hold -/

def fragmentReserved : List Char := [' ', '"', '<', '>', '\x60']

def queryReserved : List Char := [' ', '"', '#', '<', '>']

def pathReserved : List Char := fragmentReserved ++ ['#', '?', '\x7b', '\x7d']

def userReserved : List Char := pathReserved ++ ['/', ':', ';', '=', '@', '[', '\\', ']', '^', '|']

/-! ## Decoding -/

def decode : List Char → Bytes
  | [] => []
  | '%' :: a :: b :: rest =>
    match Text.hexValue? a, Text.hexValue? b with
    | some high, some low => UInt8.ofNat (high * 16 + low) :: decode rest
    | _, _ => String.utf8EncodeChar '%' ++ decode (a :: b :: rest)
  | c :: rest => String.utf8EncodeChar c ++ decode rest

end PracticeClient.Url
