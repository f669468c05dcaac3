import PracticeClient.Json.Error

/-!
# Spelled JSON

A text as far as it follows the grammar: every token with its spelling and its place, and at the
end of what could be read the fault that stopped the reading. Places are counted in bytes from the
beginning of the text.

Reading on means one of two things for what stands in the text. *Decoding* wants the value and
notices more: an escaped surrogate without its partner, a number beyond the largest, brackets
nested too deep. *Skipping* looks at the grammar only. A few faults are worded differently for the
two, so a `Break` has a fault for each.
-/

namespace PracticeClient.Json

structure Break where
  decoding : Fault
  skipping : Fault
  deriving DecidableEq, Repr

def Break.plain (problem : Problem) (position : Nat) : Break :=
  ⟨⟨problem, position⟩, ⟨problem, position⟩⟩

/-! ## Numbers and strings as they are spelled -/

structure Numeral where
  negative : Bool
  whole : List Nat
  fraction : Option (List Nat)
  power : Option (Bool × List Nat)
  start : Nat
  stop : Nat
  broken : Option Break
  deriving DecidableEq, Repr

inductive Piece where
  | plain (c : Char)
  | escape (c : Char)
  | unit (value : Nat) (stop : Nat)
  deriving DecidableEq, Repr

inductive Ending where
  | quote (stop : Nat)
  | fault (fault : Fault)
  deriving DecidableEq, Repr

structure Quotation where
  start : Nat
  pieces : List Piece
  ending : Ending
  deriving DecidableEq, Repr

/-! ## Trees -/

mutual

inductive Tree where
  | null (stop : Nat)
  | bool (value : Bool) (stop : Nat)
  | number (numeral : Numeral)
  | string (quotation : Quotation)
  | array (start : Nat) (items : Items)
  | object (start : Nat) (members : Members)
  /-- What begins no value, or a word spelled wrong; `peek` is the place after its first byte. -/
  | garbled (peek : Nat) (fault : Fault)
  | missing (position : Nat)
  | unreached (fault : Fault)
  deriving Repr

inductive Items where
  | close (stop : Nat)
  | item (value : Tree) (rest : Items)
  | broken (cause : Break)
  deriving Repr

inductive Members where
  | close (stop : Nat)
  /-- A key, the place after the blanks that follow it (and after a brace there), and its value.
  The member's separator stands just before `opening`. -/
  | member (opening : Nat) (key : Quotation) (after : Nat) (value : Tree) (rest : Members)
  | noKey (opening : Nat) (standing : Tree) (cause : Break)
  | broken (opening : Nat) (cause : Break)
  deriving Repr

end

/-- A whole text: its value, and the place after the first byte that follows it, if any does. -/
structure Document where
  tree : Tree
  trailing : Option Nat
  deriving Repr

def Tree.peek : Tree → Nat
  | null stop => stop - 3
  | bool true stop => stop - 3
  | bool false stop => stop - 4
  | number numeral => numeral.start + 1
  | string quotation => quotation.start + 1
  | array start _ => start + 1
  | object start _ => start + 1
  | garbled peek _ => peek
  | missing position => position
  | unreached fault => fault.position

end PracticeClient.Json
