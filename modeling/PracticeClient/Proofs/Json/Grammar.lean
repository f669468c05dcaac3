import PracticeClient.Json.Decoding

/-!
# The grammar of JSON

Which texts are JSON, and what their strings mean, apart from any way of reading them.
-/

namespace PracticeClient.Json.Grammar

abbrev Blank (gap : List Char) : Prop :=
  ∀ c ∈ gap, isGap c = true

/-! ## Numbers -/

abbrev AreDigits (text : List Char) : Prop :=
  ∀ c ∈ text, c.isDigit = true

inductive IsWhole : List Char → Prop
  | zero : IsWhole ['0']
  | positive {first : Char} {rest : List Char} (nonzero : first ≠ '0')
    (digits : AreDigits (first :: rest)) : IsWhole (first :: rest)

inductive IsFraction : List Char → Prop
  | none : IsFraction []
  | point {digits : List Char} (filled : digits ≠ []) (all : AreDigits digits) :
    IsFraction ('.' :: digits)

inductive IsSign : List Char → Prop
  | none : IsSign []
  | plus : IsSign ['+']
  | minus : IsSign ['-']

inductive IsPower : List Char → Prop
  | none : IsPower []
  | power {letter : Char} {sign digits : List Char} (known : letter = 'e' ∨ letter = 'E')
    (signed : IsSign sign) (filled : digits ≠ []) (all : AreDigits digits) :
    IsPower (letter :: (sign ++ digits))

inductive IsUnsigned : List Char → Prop
  | parts {whole fraction power : List Char} (first : IsWhole whole) (second : IsFraction fraction)
    (third : IsPower power) :
    IsUnsigned (whole ++ (fraction ++ power))

inductive IsNumeral : List Char → Prop
  | positive {text : List Char} (unsigned : IsUnsigned text) : IsNumeral text
  | negative {text : List Char} (unsigned : IsUnsigned text) : IsNumeral ('-' :: text)

/-! ## Strings -/

inductive IsQuoted : List Char → Prop
  | nil : IsQuoted []
  | plain {c : Char} {content : List Char} (quote : c ≠ '"') (backslash : c ≠ '\\')
    (printable : 32 ≤ c.toNat) (more : IsQuoted content) : IsQuoted (c :: content)
  | escape {c meant : Char} {content : List Char} (known : unescape? c = some meant)
    (more : IsQuoted content) : IsQuoted ('\\' :: c :: content)
  | unit {a b c d : Char} {value : Nat} {content : List Char}
    (digits : hexUnit? a b c d = some value) (more : IsQuoted content) :
    IsQuoted ('\\' :: 'u' :: a :: b :: c :: d :: content)

/-- What stands between the quotes, and the characters that it stands for. -/
inductive Means : List Char → List Char → Prop
  | nil : Means [] []
  | plain {c : Char} {content text : List Char} (quote : c ≠ '"') (backslash : c ≠ '\\')
    (printable : 32 ≤ c.toNat) (more : Means content text) : Means (c :: content) (c :: text)
  | escape {c meant : Char} {content text : List Char} (known : unescape? c = some meant)
    (more : Means content text) : Means ('\\' :: c :: content) (meant :: text)
  | unit {a b c d : Char} {value : Nat} {content text : List Char}
    (digits : hexUnit? a b c d = some value) (notLow : isLowSurrogate value = false)
    (notHigh : isHighSurrogate value = false) (more : Means content text) :
    Means ('\\' :: 'u' :: a :: b :: c :: d :: content) (Char.ofNat value :: text)
  | pair {a b c d a' b' c' d' : Char} {high low : Nat} {content text : List Char}
    (first : hexUnit? a b c d = some high) (second : hexUnit? a' b' c' d' = some low)
    (isHigh : isHighSurrogate high = true) (isLow : isLowSurrogate low = true)
    (more : Means content text) :
    Means ('\\' :: 'u' :: a :: b :: c :: d :: '\\' :: 'u' :: a' :: b' :: c' :: d' :: content)
      (pairSurrogates high low :: text)

theorem Means.isQuoted {content text : List Char} (means : Means content text) :
    IsQuoted content := by
  induction means with
  | nil => exact .nil
  | plain quote backslash printable more ih => exact .plain quote backslash printable ih
  | escape known more ih => exact .escape known ih
  | unit digits notLow notHigh more ih => exact .unit digits ih
  | pair first second isHigh isLow more ih => exact .unit first (.unit second ih)

/-! ## Values -/

/-- A member as it is spelled: what stands between the quotes of its name, and its value. -/
abbrev Entry : Type := List Char × List Char

inductive Symbol where
  | value
  | item (value : List Char)
  | items (values : List (List Char))
  | member (entry : Entry)
  | members (entries : List Entry)

inductive Derives : Symbol → List Char → Prop
  | null : Derives .value ['n', 'u', 'l', 'l']
  | true : Derives .value ['t', 'r', 'u', 'e']
  | false : Derives .value ['f', 'a', 'l', 's', 'e']
  | number {text : List Char} (numeral : IsNumeral text) : Derives .value text
  | string {content : List Char} (quoted : IsQuoted content) :
    Derives .value ('"' :: (content ++ ['"']))
  | array {values : List (List Char)} {inside : List Char} (items : Derives (.items values) inside) :
    Derives .value ('[' :: (inside ++ [']']))
  | object {entries : List Entry} {inside : List Char}
    (members : Derives (.members entries) inside) :
    Derives .value ('\x7b' :: (inside ++ ['\x7d']))
  | item {before value after : List Char} (blank : Blank before) (real : Derives .value value)
    (blank' : Blank after) : Derives (.item value) (before ++ (value ++ after))
  | noItems {gap : List Char} (blank : Blank gap) : Derives (.items []) gap
  | lastItem {value text : List Char} (item : Derives (.item value) text) :
    Derives (.items [value]) text
  | moreItems {value next text rest : List Char} {values : List (List Char)}
    (item : Derives (.item value) text) (more : Derives (.items (next :: values)) rest) :
    Derives (.items (value :: next :: values)) (text ++ ',' :: rest)
  | member {before name after value text : List Char} (blank : Blank before)
    (quoted : IsQuoted name) (blank' : Blank after) (item : Derives (.item value) text) :
    Derives (.member (name, value)) (before ++ '"' :: (name ++ '"' :: (after ++ ':' :: text)))
  | noMembers {gap : List Char} (blank : Blank gap) : Derives (.members []) gap
  | lastMember {entry : Entry} {text : List Char} (member : Derives (.member entry) text) :
    Derives (.members [entry]) text
  | moreMembers {entry next : Entry} {text rest : List Char} {entries : List Entry}
    (member : Derives (.member entry) text) (more : Derives (.members (next :: entries)) rest) :
    Derives (.members (entry :: next :: entries)) (text ++ ',' :: rest)

inductive IsObject : List Char → List Entry → Prop
  | object {before inside after : List Char} {entries : List Entry} (blank : Blank before)
    (members : Derives (.members entries) inside) (blank' : Blank after) :
    IsObject (before ++ '\x7b' :: (inside ++ '\x7d' :: after)) entries

end PracticeClient.Json.Grammar
