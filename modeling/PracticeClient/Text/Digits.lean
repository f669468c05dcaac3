import PracticeClient.Text.Utf8

namespace PracticeClient.Text

def hexDigit (n : Nat) : Char :=
  if n < 10 then Char.ofNat (48 + n) else Char.ofNat (55 + n)

def hexValue? (c : Char) : Option Nat :=
  if '0' ≤ c ∧ c ≤ '9' then some (c.toNat - 48)
  else if 'a' ≤ c ∧ c ≤ 'f' then some (c.toNat - 87)
  else if 'A' ≤ c ∧ c ≤ 'F' then some (c.toNat - 55)
  else none

def base64Digit (n : Nat) : Char :=
  if n < 26 then Char.ofNat (65 + n)
  else if n < 52 then Char.ofNat (71 + n)
  else if n < 62 then Char.ofNat (n - 4)
  else if n = 62 then '+'
  else '/'

def base64Digits (group : Nat) (places : List Nat) : List Char :=
  places.map fun place => base64Digit (group / Nat.pow 64 place % 64)

/-- Three bytes are written as four digits. One or two bytes at the end are filled up with equals
signs. -/
def base64 : Bytes → List Char
  | [] => []
  | [a] => base64Digits (a.toNat * 65536) [3, 2] ++ ['=', '=']
  | [a, b] => base64Digits (a.toNat * 65536 + b.toNat * 256) [3, 2, 1] ++ ['=']
  | a :: b :: c :: rest =>
    base64Digits (a.toNat * 65536 + b.toNat * 256 + c.toNat) [3, 2, 1, 0] ++ base64 rest

end PracticeClient.Text
