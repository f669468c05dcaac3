import PracticeClient.Json.Tree

namespace PracticeClient.Json.Numeral

open PracticeClient.Number (Magnitude Binary64)

def greatestWord : Nat := Nat.pow 2 64 - 1

/-- Appends digits as long as the result stays below 2⁶⁴. Gives back the result and the number of
digits left out. -/
def accumulate (significand : Nat) : List Nat → Nat × Nat
  | [] => (significand, 0)
  | digit :: rest =>
    if significand * 10 + digit ≤ greatestWord then accumulate (significand * 10 + digit) rest
    else (significand, rest.length + 1)

def significand (numeral : Numeral) : Nat × Int :=
  let (whole, dropped) := accumulate 0 numeral.whole
  let fraction := numeral.fraction.getD []
  let (all, ignored) := accumulate whole fraction
  (all, (dropped : Int) - (fraction.length - ignored : Nat))

def greatestPower : Nat := Nat.pow 2 31 - 1

def powerFrom (power index : Nat) : List Nat → Except Nat Nat
  | [] => .ok power
  | digit :: rest =>
    if power * 10 + digit ≤ greatestPower then powerFrom (power * 10 + digit) (index + 1) rest
    else .error (index + 1)

def scale (m : Magnitude) (power : Int) : (steps : Nat) → Option Magnitude
  | 0 => some .zero
  | steps + 1 =>
    if power.natAbs ≤ 308 then
      if 0 ≤ power then (Magnitude.powerOfTen power.natAbs).bind m.mul
      else (Magnitude.powerOfTen power.natAbs).bind m.div
    else if m.significand = 0 then some m
    else if 0 ≤ power then none
    else match (Magnitude.powerOfTen 308).bind m.div with
      | some smaller => scale smaller (power + 308) steps
      | none => none

/-- Three divisions by 10³⁰⁸ leave nothing of a 64-bit number. -/
def scaleSteps : Nat := 4

def real (numeral : Numeral) (significand : Nat) (power : Int) : Except Fault Number :=
  match (Magnitude.ofNat significand).bind fun m => scale m power scaleSteps with
  | some magnitude => .ok (.real ⟨numeral.negative, magnitude⟩)
  | none => .error ⟨.numberOutOfRange, numeral.stop⟩

def whole? (numeral : Numeral) : Option Number :=
  match numeral.fraction, numeral.power, accumulate 0 numeral.whole with
  | none, none, (n, 0) =>
    if !numeral.negative then some (.integer n)
    else if 0 < n ∧ n ≤ Nat.pow 2 63 then some (.integer (-n))
    else none
  | _, _, _ => none

def number (numeral : Numeral) : Except Fault Number :=
  match numeral.broken with
  | some cause => .error cause.decoding
  | none =>
    match numeral.whole? with
    | some n => .ok n
    | none =>
      let (significand, power) := numeral.significand
      match numeral.power with
      | none => numeral.real significand power
      | some (negative, digits) =>
        match powerFrom 0 0 digits with
        | .ok written =>
          let shift : Int := if negative then -written else written
          numeral.real significand (power + shift)
        | .error seen =>
          if significand = 0 ∨ negative then .ok (.real ⟨numeral.negative, .zero⟩)
          else .error ⟨.numberOutOfRange, numeral.stop - digits.length + seen⟩

end PracticeClient.Json.Numeral
