import PracticeClient.Json.Printer
import PracticeClient.Proofs.Json.Grammar

namespace PracticeClient.Json

open Grammar

/-! ## Digits -/

def digitsOf (number : Nat) : List Nat :=
  (Nat.toDigits 10 number).map digitValue

theorem isDigit_of_mem {number : Nat} {c : Char} (member : c ∈ Nat.toDigits 10 number) :
    c.isDigit = true :=
  Nat.isDigit_of_mem_toDigits (by decide) (by decide) member

theorem foldl_digitsOf (number : Nat) :
    (digitsOf number).foldl (fun sum digit => sum * 10 + digit) 0 = number := by
  have value : Nat.ofDigitChars 10 (Nat.toDigits 10 number) 0 = number :=
    Nat.ofDigitChars_toDigits (by decide) (by decide)
  rw [Nat.ofDigitChars_eq_foldl] at value
  rw [digitsOf, List.foldl_map]
  simp only [Nat.mul_comm] at value ⊢
  exact value

theorem digitsOf_ne_nil (number : Nat) : digitsOf number ≠ [] :=
  fun none => Nat.toDigits_ne_nil (List.map_eq_nil_iff.1 none)

theorem head?_digitsOf {number : Nat} (positive : 0 < number) :
    (digitsOf number).head? ≠ some 0 := by
  induction number using Nat.strongRecOn with
  | _ number ih =>
    by_cases small : number < 10
    · have every : ∀ digit < 10, 0 < digit → (digitsOf digit).head? ≠ some 0 := by decide
      exact every number small positive
    · have split : digitsOf number =
          digitsOf (number / 10) ++ [digitValue (Nat.digitChar (number % 10))] := by
        rw [digitsOf, Nat.toDigits_of_base_le (by decide) (by omega), List.map_append]
        rfl
      have before := ih (number / 10) (by omega) (by omega)
      obtain ⟨first, rest, begun⟩ := List.exists_cons_of_ne_nil (digitsOf_ne_nil (number / 10))
      rw [split, begun, List.cons_append]
      rwa [begun] at before

theorem isWhole_toDigits (number : Nat) : IsWhole (Nat.toDigits 10 number) := by
  rcases Nat.eq_zero_or_pos number with rfl | positive
  · exact .zero
  · obtain ⟨first, rest, begun⟩ := List.exists_cons_of_ne_nil
      (Nat.toDigits_ne_nil : Nat.toDigits 10 number ≠ [])
    have nonzero := head?_digitsOf positive
    rw [digitsOf, begun] at nonzero
    rw [begun]
    refine .positive ?_ fun c member => isDigit_of_mem (begun ▸ member)
    rintro rfl
    exact nonzero rfl

theorem le_foldl (digits : List Nat) (sum : Nat) :
    sum ≤ digits.foldl (fun sum digit => sum * 10 + digit) sum := by
  induction digits generalizing sum with
  | nil => exact Nat.le_refl sum
  | cons digit rest ih =>
    have further := ih (sum * 10 + digit)
    rw [List.foldl_cons]
    omega

theorem accumulate_of_le {digits : List Nat} {sum : Nat}
    (small : digits.foldl (fun sum digit => sum * 10 + digit) sum ≤ Numeral.greatestWord) :
    Numeral.accumulate sum digits =
      (digits.foldl (fun sum digit => sum * 10 + digit) sum, 0) := by
  induction digits generalizing sum with
  | nil => rfl
  | cons digit rest ih =>
    rw [List.foldl_cons] at small ⊢
    rw [Numeral.accumulate, if_pos (Nat.le_trans (le_foldl rest _) small), ih small]

/-! ## Numerals -/

def isNumeric (c : Char) : Bool :=
  c.isDigit || c == '.' || c == 'e' || c == 'E'

def EndsNumeral (tail : List Char) : Prop :=
  ∀ c ∈ tail.head?, isNumeric c = false

theorem endsNumeral_cons {c : Char} (other : isNumeric c = false) (rest : List Char) :
    EndsNumeral (c :: rest) := by
  rintro _ ⟨⟩
  exact other

variable {tail : List Char}

def NoDigit (tail : List Char) : Prop :=
  ∀ c ∈ tail.head?, c.isDigit = false

theorem EndsNumeral.noDigit (ends : EndsNumeral tail) : NoDigit tail := by
  intro c first
  have other := ends c first
  simp only [isNumeric, Bool.or_eq_false_iff] at other
  exact other.1.1.1

theorem takeDigits_append {digits : List Char} (all : AreDigits digits) (ends : NoDigit tail)
    (position : Nat) :
    takeDigits ⟨digits ++ tail, position⟩ =
      (digits.map digitValue, ⟨tail, position + digits.length⟩) := by
  have none : tail.takeWhile Char.isDigit = [] ∧ tail.dropWhile Char.isDigit = tail := by
    cases tail with
    | nil => exact ⟨rfl, rfl⟩
    | cons c rest =>
      have other : ¬c.isDigit = true := by simp [ends c rfl]
      exact ⟨List.takeWhile_cons_of_neg other, List.dropWhile_cons_of_neg other⟩
  rw [takeDigits, List.takeWhile_append_of_pos all, List.dropWhile_append_of_pos all,
    none.1, none.2, List.append_nil, List.length_map]

theorem digitValue_eq_zero {c : Char} (digit : c.isDigit = true) (zero : digitValue c = 0) :
    c = '0' := by
  simp only [Char.isDigit, Bool.and_eq_true, decide_eq_true_eq, ge_iff_le] at digit
  have low : 48 ≤ c.toNat := digit.1
  have same : c.toNat = '0'.toNat := by
    change c.toNat = 48
    rw [digitValue] at zero
    omega
  exact Char.toNat_inj.1 same

theorem wholeBreak_isWhole {whole : List Char} (is : IsWhole whole) (start next : Cursor) :
    wholeBreak (whole.map digitValue) start next = none := by
  cases is with
  | zero => rfl
  | @positive first rest nonzero all =>
    have leading : digitValue first ≠ 0 := fun zero =>
      nonzero (digitValue_eq_zero (all first List.mem_cons_self) zero)
    rw [List.map_cons, wholeBreak]
    · nofun
    · intro _ _ zeros
      exact leading (List.cons.inj zeros).1

theorem readFraction_fraction {fraction : List Char} (is : IsFraction fraction)
    (ends : NoDigit tail) (pointless : tail.head? ≠ some '.') (position : Nat) :
    ∃ digits stop, readFraction ⟨fraction ++ tail, position⟩ = (digits, none, ⟨tail, stop⟩) ∧
      (fraction = [] → digits = none) := by
  cases is with
  | none =>
    refine ⟨none, position, ?_, fun _ => rfl⟩
    unfold readFraction
    split
    · next rest here =>
      have here : tail = '.' :: rest := here
      rw [here] at pointless
      exact absurd rfl pointless
    · rfl
  | @point digits filled all =>
    refine ⟨some (digits.map digitValue), position + 1 + digits.length, ?_, by simp⟩
    rw [List.cons_append, readFraction]
    simp only [takeDigits_append all ends, List.isEmpty_iff, List.map_eq_nil_iff, filled, if_false]

theorem readSign_sign {sign digits : List Char} (is : IsSign sign) (filled : digits ≠ [])
    (all : AreDigits digits) (tail : List Char) (position : Nat) :
    ∃ negative stop, readSign ⟨sign ++ (digits ++ tail), position⟩ =
      (negative, ⟨digits ++ tail, stop⟩) := by
  cases is with
  | none =>
    obtain ⟨first, rest, rfl⟩ := List.exists_cons_of_ne_nil filled
    have digit := all first List.mem_cons_self
    refine ⟨false, position, ?_⟩
    unfold readSign
    split
    · next here =>
      cases here
      exact absurd digit (by decide)
    · next here =>
      cases here
      exact absurd digit (by decide)
    · rfl
  | plus => exact ⟨false, position + 1, rfl⟩
  | minus => exact ⟨true, position + 1, rfl⟩

theorem readPower_power {power : List Char} (is : IsPower power) (ends : EndsNumeral tail)
    (position : Nat) :
    ∃ written stop, readPower ⟨power ++ tail, position⟩ = (written, none, ⟨tail, stop⟩) ∧
      (power = [] → written = none) := by
  cases is with
  | none =>
    refine ⟨none, position, ?_, fun _ => rfl⟩
    cases tail with
    | nil => rfl
    | cons c rest =>
      have numeric := ends c rfl
      simp only [isNumeric, Bool.or_eq_false_iff] at numeric
      simp [readPower, numeric.2, numeric.1.2]
  | @power letter sign digits known signed filled all =>
    have exponent : (letter == 'e' || letter == 'E') = true := by
      rcases known with rfl | rfl <;> rfl
    obtain ⟨negative, stop, read⟩ := readSign_sign signed filled all tail (position + 1)
    refine ⟨some (negative, digits.map digitValue), stop + digits.length, ?_, by simp⟩
    rw [List.cons_append, List.append_assoc, readPower]
    simp only [exponent, if_true, read, takeDigits_append all ends.noDigit, List.isEmpty_iff,
      List.map_eq_nil_iff, filled, if_false]

theorem power_begins {power : List Char} (is : IsPower power) (ends : EndsNumeral tail) :
    NoDigit (power ++ tail) ∧ (power ++ tail).head? ≠ some '.' := by
  cases is with
  | none =>
    refine ⟨ends.noDigit, fun point => ?_⟩
    exact absurd (ends '.' point) (by decide)
  | power known =>
    rcases known with rfl | rfl
    · exact ⟨fun c first => by cases first; rfl, by simp⟩
    · exact ⟨fun c first => by cases first; rfl, by simp⟩

theorem fraction_begins {fraction rest : List Char} (is : IsFraction fraction)
    (ends : NoDigit rest) : NoDigit (fraction ++ rest) := by
  cases is with
  | none => exact ends
  | point => exact fun c first => by cases first; rfl

theorem isDigit_of_isWhole {whole : List Char} (is : IsWhole whole) :
    whole ≠ [] ∧ AreDigits whole := by
  cases is with
  | zero => exact ⟨by simp, List.forall_mem_singleton.2 rfl⟩
  | positive nonzero all => exact ⟨by simp, all⟩

def signed : Bool → List Char → List Char
  | true, text => '-' :: text
  | false, text => text

theorem readNumeral_parts {whole fraction power : List Char} (first : IsWhole whole)
    (second : IsFraction fraction) (third : IsPower power) (negative : Bool)
    (ends : EndsNumeral tail) (position : Nat) :
    ∃ digits written stop,
      readNumeral ⟨signed negative (whole ++ (fraction ++ (power ++ tail))), position⟩ =
        (⟨negative, whole.map digitValue, digits, written, position, stop, none⟩,
          ⟨tail, stop⟩) ∧
      (fraction = [] → digits = none) ∧ (power = [] → written = none) := by
  obtain ⟨filled, all⟩ := isDigit_of_isWhole first
  obtain ⟨noDigit, pointless⟩ := power_begins third ends
  have digital := fraction_begins second noDigit
  have unsigned : ((whole ++ (fraction ++ (power ++ tail))).head? == some '-') = false := by
    obtain ⟨c, rest, rfl⟩ := List.exists_cons_of_ne_nil filled
    rw [List.cons_append, List.head?_cons, beq_eq_false_iff_ne]
    rintro ⟨⟩
    exact absurd (all '-' List.mem_cons_self) (by decide)
  have read (start : Nat) := takeDigits_append all digital start
  have readRest (start : Nat) := readFraction_fraction second noDigit pointless start
  have readLast (start : Nat) := readPower_power third ends start
  cases negative with
  | false =>
    obtain ⟨digits, middle, readRest, whole⟩ := readRest (position + whole.length)
    obtain ⟨written, stop, readLast, fractional⟩ := readLast middle
    refine ⟨digits, written, stop, ?_, whole, fractional⟩
    unfold readNumeral
    simp only [signed, unsigned, Bool.false_eq_true, if_false, read, wholeBreak_isWhole first,
      readRest, readLast]
  | true =>
    obtain ⟨digits, middle, readRest, whole⟩ := readRest (position + 1 + whole.length)
    obtain ⟨written, stop, readLast, fractional⟩ := readLast middle
    refine ⟨digits, written, stop, ?_, whole, fractional⟩
    unfold readNumeral
    simp only [signed, List.head?_cons, beq_self_eq_true, if_true, List.drop_one, List.tail_cons,
      read, wholeBreak_isWhole first, readRest, readLast]

theorem readNumeral_toDigits {number : Nat} (small : number ≤ Numeral.greatestWord)
    (ends : EndsNumeral tail) (position : Nat) :
    ∃ numeral stop, readNumeral ⟨Nat.toDigits 10 number ++ tail, position⟩ =
        (numeral, ⟨tail, stop⟩) ∧ numeral.number = .ok (.integer number) := by
  obtain ⟨digits, written, stop, read, whole, fractional⟩ :=
    readNumeral_parts (isWhole_toDigits number) .none .none false ends position
  rw [whole rfl, fractional rfl] at read
  refine ⟨_, stop, read, ?_⟩
  have value := foldl_digitsOf number
  have accumulated : Numeral.accumulate 0 (digitsOf number) = (number, 0) := by
    rw [accumulate_of_le (value.symm ▸ small), value]
  rw [digitsOf] at accumulated
  simp [Numeral.number, Numeral.whole?, accumulated]

end PracticeClient.Json
