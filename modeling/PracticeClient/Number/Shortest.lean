import PracticeClient.Number.Binary64

/-!
# Shortest decimals

The fewest decimal digits that round back to a magnitude, and of those the ones nearest to it.

A magnitude is what every number between its two halfway neighbours rounds to, the ends included
when its significand is even. For one, two and more digits in turn, the two points of the decimal
grid next to the magnitude are tried; the first grid with a point inside wins.
-/

namespace PracticeClient.Number

structure Decimal where
  digits : Nat
  exponent : Int
  deriving DecidableEq, Repr

namespace Magnitude

/-- Whether a magnitude's rounding interval is narrower below it than above. -/
def atPowerOfTwo (m : Magnitude) : Bool :=
  m.significand == Nat.pow 2 52 && leastExponent < m.exponent

structure Interval where
  low : Nat
  middle : Nat
  high : Nat
  denominator : Nat
  closed : Bool

def interval (m : Magnitude) : Interval :=
  let scale := Nat.pow 2 m.exponent.toNat
  { low := (4 * m.significand - if m.atPowerOfTwo then 1 else 2) * scale
    middle := 4 * m.significand * scale
    high := (4 * m.significand + 2) * scale
    denominator := 4 * m.denominator
    closed := m.significand % 2 == 0 }

def Interval.contains (i : Interval) (digits : Nat) (exponent : Int) : Bool :=
  let value := digits * Nat.pow 10 exponent.toNat * i.denominator
  let shrink := Nat.pow 10 (-exponent).toNat
  if i.closed then i.low * shrink ≤ value && value ≤ i.high * shrink
  else i.low * shrink < value && value < i.high * shrink

def leadingExponent (num den : Nat) : Int :=
  if den ≤ num then ((Nat.toDigits 10 (num / den)).length : Int) - 1
  else
    let places := (Nat.toDigits 10 (den / num)).length
    if den ≤ num * Nat.pow 10 (places - 1) then 1 - (places : Int) else -(places : Int)

def gridPoint? (i : Interval) (exponent : Int) : Option Nat :=
  let below := i.middle * Nat.pow 10 (-exponent).toNat / (i.denominator * Nat.pow 10 exponent.toNat)
  let lowIn := below != 0 && i.contains below exponent
  let highIn := i.contains (below + 1) exponent
  if lowIn && highIn then
    let twice := (2 * below + 1) * Nat.pow 10 exponent.toNat * i.denominator
    let target := 2 * i.middle * Nat.pow 10 (-exponent).toNat
    if target < twice then some below
    else if twice < target then some (below + 1)
    else some (below + below % 2)
  else if lowIn then some below
  else if highIn then some (below + 1)
  else none

def shortestFrom (i : Interval) (leading : Int) : (digits : Nat) → (fuel : Nat) → Decimal
  | digits, 0 => ⟨i.middle * Nat.pow 10 digits / i.denominator, -digits⟩
  | digits, fuel + 1 =>
    let exponent := leading - digits
    match gridPoint? i exponent with
    | some point => ⟨point, exponent⟩
    | none => shortestFrom i leading (digits + 1) fuel

/-- The shortest decimal of a magnitude other than zero. Seventeen digits always suffice. -/
def shortest (m : Magnitude) : Decimal :=
  let i := m.interval
  shortestFrom i (leadingExponent i.middle i.denominator) 0 17

end Magnitude

end PracticeClient.Number
