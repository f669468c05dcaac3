import PracticeClient.Text.GraphemeExtend
import PracticeClient.Text.Ranges
import PracticeClient.Text.Unprintable

namespace PracticeClient.Text

/-- Whether a character is written by its number: it would not show, or would change the look of
the character before it. -/
def isConcealed (c : Char) : Bool :=
  if ' ' ≤ c ∧ c ≤ '~' then false
  else inRanges unprintableRanges c || inRanges graphemeExtendRanges c

def quoteChar (c : Char) : List Char :=
  match c with
  | '\x00' => ['\\', '0']
  | '\t' => ['\\', 't']
  | '\n' => ['\\', 'n']
  | '\r' => ['\\', 'r']
  | '"' => ['\\', '"']
  | '\\' => ['\\', '\\']
  | c => if isConcealed c then ['\\', 'u', '\x7b'] ++ Nat.toDigits 16 c.toNat ++ ['\x7d'] else [c]

def quote (text : String) : String :=
  String.ofList ('"' :: text.toList.flatMap quoteChar ++ ['"'])

def quoteList (texts : List String) : String :=
  "[" ++ ", ".intercalate (texts.map quote) ++ "]"

end PracticeClient.Text
