namespace PracticeClient.Number

/-- A magnitude `significand * 2 ^ exponent`, with `2⁵² ≤ significand` unless the exponent is least. -/
structure Magnitude where
  significand : Nat
  exponent : Int
  deriving DecidableEq, Repr

structure Binary64 where
  negative : Bool
  magnitude : Magnitude
  deriving DecidableEq, Repr

namespace Magnitude

def leastExponent : Int := -1074

def greatestExponent : Int := 971

def zero : Magnitude := ⟨0, leastExponent⟩

def numerator (m : Magnitude) : Nat := m.significand * Nat.pow 2 m.exponent.toNat

def denominator (m : Magnitude) : Nat := Nat.pow 2 (-m.exponent).toNat

def divNearest (num den : Nat) : Nat :=
  let quotient := num / den
  let twice := 2 * (num % den)
  if twice < den then quotient
  else if den < twice then quotient + 1
  else quotient + quotient % 2

def scaleNearest (num den : Nat) (exponent : Int) : Nat :=
  divNearest (num * Nat.pow 2 (-exponent).toNat) (den * Nat.pow 2 exponent.toNat)

def fittingExponent (num den : Nat) : Int :=
  let guess : Int := (num.log2 : Int) - den.log2 - 52
  let low := den * Nat.pow 2 guess.toNat * Nat.pow 2 52 ≤ num * Nat.pow 2 (-guess).toNat
  max leastExponent (if low then guess else guess - 1)

def roundRatio (num den : Nat) : Option Magnitude :=
  if num = 0 then some zero
  else
    let exponent := fittingExponent num den
    let significand := scaleNearest num den exponent
    let rounded : Magnitude :=
      if significand = Nat.pow 2 53 then ⟨Nat.pow 2 52, exponent + 1⟩ else ⟨significand, exponent⟩
    if rounded.exponent ≤ greatestExponent then some rounded else none

def ofNat (n : Nat) : Option Magnitude := roundRatio n 1

def powerOfTen (k : Nat) : Option Magnitude := ofNat (Nat.pow 10 k)

def mul (a b : Magnitude) : Option Magnitude :=
  roundRatio (a.numerator * b.numerator) (a.denominator * b.denominator)

def div (a b : Magnitude) : Option Magnitude :=
  roundRatio (a.numerator * b.denominator) (a.denominator * b.numerator)

end Magnitude

end PracticeClient.Number
