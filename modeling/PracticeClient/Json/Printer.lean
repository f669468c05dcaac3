import PracticeClient.Json.Value

namespace PracticeClient.Json

def hexDigit (n : Nat) : Char :=
  if n < 10 then Char.ofNat (48 + n) else Char.ofNat (87 + n)

def escapeChar (c : Char) : List Char :=
  match c with
  | '"' => ['\\', '"']
  | '\\' => ['\\', '\\']
  | '\x08' => ['\\', 'b']
  | '\x0c' => ['\\', 'f']
  | '\n' => ['\\', 'n']
  | '\r' => ['\\', 'r']
  | '\t' => ['\\', 't']
  | c =>
    if c.toNat < 32 then ['\\', 'u', '0', '0', hexDigit (c.toNat / 16), hexDigit (c.toNat % 16)]
    else [c]

def printString (text : String) : List Char :=
  '"' :: text.toList.flatMap escapeChar ++ ['"']

def Number.print : Number → List Char
  | .integer (.ofNat n) => Nat.toDigits 10 n
  | .integer (.negSucc n) => '-' :: Nat.toDigits 10 (n + 1)
  | .real x => x.text

namespace Value

mutual

def print : Value → List Char
  | .null => ['n', 'u', 'l', 'l']
  | .bool true => ['t', 'r', 'u', 'e']
  | .bool false => ['f', 'a', 'l', 's', 'e']
  | .number n => n.print
  | .string s => printString s
  | .array [] => ['[', ']']
  | .array (item :: rest) => '[' :: item.print ++ printItems rest
  | .object [] => ['\x7b', '\x7d']
  | .object ((key, value) :: rest) =>
    '\x7b' :: printString key ++ ':' :: value.print ++ printMembers rest

def printItems : List Value → List Char
  | [] => [']']
  | item :: rest => ',' :: item.print ++ printItems rest

def printMembers : List (String × Value) → List Char
  | [] => ['\x7d']
  | (key, value) :: rest => ',' :: printString key ++ ':' :: value.print ++ printMembers rest

end

def indent (depth : Nat) : List Char :=
  '\n' :: List.replicate (2 * depth) ' '

mutual

def printIndented (depth : Nat) : Value → List Char
  | .null => ['n', 'u', 'l', 'l']
  | .bool true => ['t', 'r', 'u', 'e']
  | .bool false => ['f', 'a', 'l', 's', 'e']
  | .number n => n.print
  | .string s => printString s
  | .array [] => ['[', ']']
  | .array (item :: rest) =>
    '[' :: indent (depth + 1) ++ item.printIndented (depth + 1) ++ printIndentedItems depth rest
  | .object [] => ['\x7b', '\x7d']
  | .object ((key, value) :: rest) =>
    '\x7b' :: indent (depth + 1) ++ printString key ++ ':' :: ' ' ::
      value.printIndented (depth + 1) ++ printIndentedMembers depth rest

def printIndentedItems (depth : Nat) : List Value → List Char
  | [] => indent depth ++ [']']
  | item :: rest =>
    ',' :: indent (depth + 1) ++ item.printIndented (depth + 1) ++ printIndentedItems depth rest

def printIndentedMembers (depth : Nat) : List (String × Value) → List Char
  | [] => indent depth ++ ['\x7d']
  | (key, value) :: rest =>
    ',' :: indent (depth + 1) ++ printString key ++ ':' :: ' ' ::
      value.printIndented (depth + 1) ++ printIndentedMembers depth rest

end

def compact (value : Value) : String :=
  String.ofList value.print

def pretty (value : Value) : String :=
  String.ofList (value.printIndented 0)

end Value

end PracticeClient.Json
