import PracticeClient.Json.Numeral
import PracticeClient.Json.Parser

/-!
# Decoding JSON

What a tree of spelled JSON stands for: a value of any shape, or the parts of a record, a table of
texts or one of several names. Each reader goes through the text from left to right and reports
the first thing that is wrong, be it the grammar or a misfit.
-/

namespace PracticeClient.Json

/-! ## Strings -/

def isHighSurrogate (unit : Nat) : Bool := 0xD800 ≤ unit && unit ≤ 0xDBFF

def isLowSurrogate (unit : Nat) : Bool := 0xDC00 ≤ unit && unit ≤ 0xDFFF

def pairSurrogates (high low : Nat) : Char :=
  Char.ofNat (0x10000 + (high - 0xD800) * 0x400 + (low - 0xDC00))

/-- The fault of a string that breaks off after a high surrogate which ends at `stop`. -/
def faultAfterHigh (stop : Nat) (fault : Fault) : Fault :=
  if fault.problem = .controlCharacter ∨
      (fault.problem = .invalidEscape ∧ fault.position = stop + 2) then
    ⟨.hexEscapeEnds, fault.position⟩
  else fault

def decodePieces (ending : Ending) : List Piece → Except Fault (List Char)
  | [] =>
    match ending with
    | .quote _ => .ok []
    | .fault fault => .error fault
  | .plain c :: rest => (decodePieces ending rest).map (c :: ·)
  | .escape c :: rest => (decodePieces ending rest).map ((unescape? c).getD c :: ·)
  | .unit unit stop :: rest =>
    if isLowSurrogate unit then .error ⟨.loneSurrogate, stop⟩
    else if isHighSurrogate unit then
      match rest with
      | .unit low stop' :: rest =>
        if isLowSurrogate low then (decodePieces ending rest).map (pairSurrogates unit low :: ·)
        else .error ⟨.loneSurrogate, stop'⟩
      | .plain _ :: _ => .error ⟨.hexEscapeEnds, stop + 1⟩
      | .escape _ :: _ => .error ⟨.hexEscapeEnds, stop + 2⟩
      | [] =>
        match ending with
        | .quote _ => .error ⟨.hexEscapeEnds, stop + 1⟩
        | .fault fault => .error (faultAfterHigh stop fault)
    else (decodePieces ending rest).map (Char.ofNat unit :: ·)

def Quotation.text (quotation : Quotation) : Except Fault String :=
  (decodePieces quotation.ending quotation.pieces).map String.ofList

def Quotation.stop (quotation : Quotation) : Nat :=
  match quotation.ending with
  | .quote stop => stop
  | .fault fault => fault.position

/-- Decoding goes past a control character before it reports it; skipping stops in front of it. -/
def skippingFault (fault : Fault) : Fault :=
  if fault.problem = .controlCharacter then ⟨fault.problem, fault.position - 1⟩ else fault

def Quotation.skip (quotation : Quotation) : Except Fault Unit :=
  match quotation.ending with
  | .quote _ => .ok ()
  | .fault fault => .error (skippingFault fault)

/-! ## Skipping -/

mutual

def Tree.skip : Tree → Except Fault Unit
  | .null _ => .ok ()
  | .bool _ _ => .ok ()
  | .number numeral =>
    match numeral.broken with
    | none => .ok ()
    | some cause => .error cause.skipping
  | .string quotation => quotation.skip
  | .array _ items => items.skip
  | .object _ members => members.skip
  | .garbled _ fault => .error fault
  | .missing position => .error ⟨.valueEnds, position⟩
  | .unreached fault => .error fault

def Items.skip : Items → Except Fault Unit
  | .close _ => .ok ()
  | .item value rest => do value.skip; rest.skip
  | .broken cause => .error cause.skipping

def Members.skip : Members → Except Fault Unit
  | .close _ => .ok ()
  | .member _ key _ value rest => do key.skip; value.skip; rest.skip
  | .noKey _ _ cause => .error cause.skipping
  | .broken _ cause => .error cause.skipping

end

/-! ## Values of any shape -/

def greatestDepth : Nat := 127

mutual

def Tree.value : Tree → (depth : Nat) → Except Fault Value
  | .null _, _ => .ok .null
  | .bool b _, _ => .ok (.bool b)
  | .number numeral, _ => numeral.number.map .number
  | .string quotation, _ => quotation.text.map .string
  | .array start items, depth =>
    match depth with
    | 0 => .error ⟨.tooDeep, start + 1⟩
    | depth + 1 => (items.values depth).map .array
  | .object start members, depth =>
    match depth with
    | 0 => .error ⟨.tooDeep, start + 1⟩
    | depth + 1 => (members.values depth).map .ofMembers
  | .garbled _ fault, _ => .error fault
  | .missing position, _ => .error ⟨.valueEnds, position⟩
  | .unreached fault, _ => .error fault

def Items.values : Items → (depth : Nat) → Except Fault (List Value)
  | .close _, _ => .ok []
  | .item value rest, depth => do
    let value ← value.value depth
    let rest ← rest.values depth
    pure (value :: rest)
  | .broken cause, _ => .error cause.decoding

def Members.values : Members → (depth : Nat) → Except Fault (List (String × Value))
  | .close _, _ => .ok []
  | .member _ key _ value rest, depth => do
    let key ← key.text
    let value ← value.value depth
    let rest ← rest.values depth
    pure ((key, value) :: rest)
  | .noKey _ _ cause, _ => .error cause.decoding
  | .broken _ cause, _ => .error cause.decoding

end

/-! ## Values of a wanted shape -/

def Tree.shape : Tree → Except Fault (Shape × Nat)
  | .null stop => .ok (.null, stop)
  | .bool b stop => .ok (.bool b, stop)
  | .number numeral => numeral.number.map fun n => (.number n, numeral.stop)
  | .string quotation => quotation.text.map fun s => (.string s, quotation.stop)
  | .array start _ => .ok (.sequence, start)
  | .object start _ => .ok (.map, start)
  | .garbled _ fault => .error fault
  | .missing position => .error ⟨.valueEnds, position⟩
  | .unreached fault => .error fault

def Tree.fit {α : Type} (fit : Shape → Except Misfit α) (tree : Tree) : Except Fault α := do
  let (shape, place) ← tree.shape
  match fit shape with
  | .ok a => .ok a
  | .error cause => .error ⟨.misfit cause, place⟩

namespace Shape

def text : Shape → Except Misfit String
  | .string s => .ok s
  | shape => .error (.invalidType shape "a string")

def text? : Shape → Except Misfit (Option String)
  | .null => .ok none
  | shape => shape.text.map some

def natural (bound : Nat) (range : String) : Shape → Except Misfit Nat
  | .number (.integer (.ofNat n)) =>
    if n ≤ bound then .ok n else .error (.invalidValue (.number (.integer n)) range)
  | .number (.integer n) => .error (.invalidValue (.number (.integer n)) range)
  | shape => .error (.invalidType shape range)

def byte (shape : Shape) : Except Misfit UInt8 :=
  (shape.natural 255 "u8").map UInt8.ofNat

def word (shape : Shape) : Except Misfit UInt64 :=
  (shape.natural (Nat.pow 2 64 - 1) "u64").map UInt64.ofNat

end Shape

/-! ## Records -/

/-- A field of a record: how a draft of the record takes it in, whether the draft has it, and
whether the record can do without. -/
structure Field (δ : Type) where
  name : String
  required : Bool
  isSet : δ → Bool
  read : Tree → δ → Except Fault δ

structure RecordFormat (δ : Type) where
  name : String
  blank : δ
  fields : List (Field δ)

namespace RecordFormat

variable {δ : Type}

def finish : Items → Except Fault Unit
  | .close _ => .ok ()
  | .item value _ => .error ⟨.trailingCharacters, value.peek⟩
  | .broken cause =>
    if cause.decoding.problem = .listEnds ∨ cause.decoding.problem = .trailingComma then
      .error cause.decoding
    else .error ⟨.trailingCharacters, cause.decoding.position⟩

def firstRequired (index : Nat) : List (Field δ) → Option Nat
  | [] => none
  | field :: rest => if field.required then some index else firstRequired (index + 1) rest

def lengthMisfit (format : RecordFormat δ) (length : Nat) : Misfit :=
  .invalidLength length s!"{format.name} with {format.fields.length} elements"

def readItems (format : RecordFormat δ) :
    (index : Nat) → List (Field δ) → Items → δ → Except Fault δ
  | _, [], items, draft => (finish items).map fun _ => draft
  | index, field :: rest, .item value items, draft => do
    let draft ← field.read value draft
    format.readItems (index + 1) rest items draft
  | index, fields, .close stop, draft =>
    match firstRequired index fields with
    | none => .ok draft
    | some index => .error ⟨.misfit (format.lengthMisfit index), stop⟩
  | _, _, .broken cause, _ => .error cause.decoding

def firstMissing (format : RecordFormat δ) (draft : δ) : Option (Field δ) :=
  format.fields.find? fun field => field.required && !field.isSet draft

def readMembers (format : RecordFormat δ) : Members → δ → Except Fault δ
  | .close stop, draft =>
    match format.firstMissing draft with
    | none => .ok draft
    | some field => .error ⟨.misfit (.missingField field.name), stop⟩
  | .member _ key after value rest, draft => do
    let name ← key.text
    match format.fields.find? fun field => field.name == name with
    | none =>
      value.skip
      format.readMembers rest draft
    | some field =>
      if field.isSet draft then .error ⟨.misfit (.duplicateField name), after⟩
      else
        let draft ← field.read value draft
        format.readMembers rest draft
  | .noKey _ _ cause, _ => .error cause.decoding
  | .broken _ cause, _ => .error cause.decoding

def read (format : RecordFormat δ) : Tree → Except Fault δ
  | .array _ items => format.readItems 0 format.fields items format.blank
  | .object _ members => format.readMembers members format.blank
  | tree => tree.fit fun shape => .error (.invalidType shape format.name)

end RecordFormat

/-! ## Tables of texts -/

def Members.texts : Members → Table String → Except Fault (Table String)
  | .close _, table => .ok table
  | .member _ key _ value rest, table => do
    let key ← key.text
    let value ← value.fit Shape.text
    rest.texts (table.insert key value)
  | .noKey _ _ cause, _ => .error cause.decoding
  | .broken _ cause, _ => .error cause.decoding

def Tree.texts : Tree → Except Fault (Table String)
  | .object _ members => members.texts .empty
  | tree => tree.fit fun shape => .error (.invalidType shape "a map")

/-! ## Names out of a list -/

def chooseName {α : Type} (names : List (String × α)) (name : String) (place : Nat) :
    Except Fault α :=
  match names.find? fun entry => entry.1 == name with
  | some entry => .ok entry.2
  | none => .error ⟨.misfit (.unknownVariant name (names.map Prod.fst)), place⟩

def closeName : Members → Except Fault Unit
  | .close _ => .ok ()
  | .member opening _ _ _ _ => .error ⟨.expectedValue, opening - 1⟩
  | .noKey opening _ _ => .error ⟨.expectedValue, opening - 1⟩
  | .broken opening cause =>
    if cause.decoding.problem = .objectEnds then .error cause.decoding
    else .error ⟨.expectedValue, opening - 1⟩

def nameMember {α : Type} (names : List (String × α)) : Members → Except Fault α
  | .close stop => .error ⟨.expectedValue, stop⟩
  | .member _ key _ value rest => do
    let name ← key.text
    let choice ← chooseName names name key.stop
    value.fit fun shape => if shape = .null then .ok () else .error (.invalidType shape "unit")
    closeName rest
    pure choice
  | .noKey _ standing _ =>
    standing.fit fun shape => .error (.invalidType shape "variant identifier")
  | .broken _ cause => .error ⟨.valueEnds, cause.decoding.position⟩

/-- A name out of a list: a string, or an object whose only member has that name and is null. -/
def Tree.choice {α : Type} (names : List (String × α)) : Tree → Except Fault α
  | .string quotation => do
    let name ← quotation.text
    chooseName names name quotation.stop
  | .object _ members => nameMember names members
  | .missing position => .error ⟨.valueEnds, position⟩
  | .unreached fault => .error fault
  | tree => .error ⟨.expectedValue, tree.peek⟩

/-! ## Whole texts -/

def decode {α : Type} (read : Tree → Except Fault α) (text : String) : Except Fault α := do
  let document := Document.ofText text
  let result ← read document.tree
  match document.trailing with
  | none => .ok result
  | some position => .error ⟨.trailingCharacters, position⟩

def parse (text : String) : Except Fault Value :=
  decode (·.value greatestDepth) text

end PracticeClient.Json
