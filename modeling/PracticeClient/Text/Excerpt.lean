import PracticeClient.Text.Utf8

namespace PracticeClient.Text

def excerptLimit : Nat := 500

def isBoundary (bytes : Bytes) (offset : Nat) : Bool :=
  match bytes[offset]? with
  | some byte => byte < 0x80 || 0xC0 ≤ byte
  | none => offset == bytes.length

def boundaryAtOrBelow (bytes : Bytes) : Nat → Nat
  | 0 => 0
  | offset + 1 =>
    if isBoundary bytes (offset + 1) then offset + 1 else boundaryAtOrBelow bytes offset

def takeBytes : Nat → List Char → List Char
  | _, [] => []
  | budget, c :: rest =>
    if c.utf8Size ≤ budget then c :: takeBytes (budget - c.utf8Size) rest else []

def excerpt (text : String) : String :=
  let bytes := utf8 text
  if bytes.length ≤ excerptLimit then text
  else
    let kept := takeBytes (boundaryAtOrBelow bytes excerptLimit) text.toList
    String.ofList kept ++ s!"... (truncated, {bytes.length} total bytes)"

theorem excerpt_of_le {text : String} (h : (utf8 text).length ≤ excerptLimit) :
    excerpt text = text := by
  simp [excerpt, h]

end PracticeClient.Text
