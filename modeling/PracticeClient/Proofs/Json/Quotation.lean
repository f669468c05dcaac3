import PracticeClient.Json.Printer
import PracticeClient.Proofs.Json.Grammar

namespace PracticeClient.Json

open Grammar

/-! ## Pieces -/

section

variable (position : Nat) (rest : List Char)

theorem readPieces_plain {c : Char} (quote : c ≠ '"') (backslash : c ≠ '\\')
    (printable : 32 ≤ c.toNat) :
    readPieces position (c :: rest) =
      (.plain c :: (readPieces (position + c.utf8Size) rest).1,
        (readPieces (position + c.utf8Size) rest).2) := by
  have plain : (c == '"') = false := beq_eq_false_iff_ne.2 quote
  rw [readPieces]
  · rw [if_neg (by simp [plain]), if_neg (Nat.not_lt.2 printable)]
  · exact fun same => absurd same backslash
  · exact fun _ _ _ _ _ same => absurd same backslash
  · exact fun _ _ same => absurd same backslash

theorem readPieces_escape {c meant : Char} (known : unescape? c = some meant) :
    readPieces position ('\\' :: c :: rest) =
      (.escape c :: (readPieces (position + 2) rest).1, (readPieces (position + 2) rest).2) := by
  unfold unescape? at known
  split at known
  any_goals rfl
  cases known

theorem readPieces_unit {a b c d : Char} {value : Nat} (digits : hexUnit? a b c d = some value) :
    readPieces position ('\\' :: 'u' :: a :: b :: c :: d :: rest) =
      (.unit value (position + 6) :: (readPieces (position + 6) rest).1,
        (readPieces (position + 6) rest).2) := by
  rw [readPieces, digits]

end

theorem readPieces_quoted {content : List Char} (quoted : IsQuoted content) (position : Nat)
    (rest : List Char) :
    ∃ pieces stop, readPieces position (content ++ '"' :: rest) = (pieces, .quote stop, rest) := by
  induction quoted generalizing position with
  | nil => exact ⟨[], position + 1, rfl⟩
  | @plain c _ quote backslash printable more ih =>
    obtain ⟨pieces, stop, read⟩ := ih (position + c.utf8Size)
    refine ⟨.plain c :: pieces, stop, ?_⟩
    rw [List.cons_append, readPieces_plain _ _ quote backslash printable, read]
  | @escape c _ _ known more ih =>
    obtain ⟨pieces, stop, read⟩ := ih (position + 2)
    refine ⟨.escape c :: pieces, stop, ?_⟩
    rw [List.cons_append, List.cons_append, readPieces_escape _ _ known, read]
  | @unit _ _ _ _ value _ digits more ih =>
    obtain ⟨pieces, stop, read⟩ := ih (position + 6)
    refine ⟨.unit value (position + 6) :: pieces, stop, ?_⟩
    simp only [List.cons_append, readPieces_unit _ _ digits, read]

/-! ## Texts -/

theorem readPieces_means {content text : List Char} (means : Means content text) (position : Nat)
    (rest : List Char) :
    ∃ pieces stop, readPieces position (content ++ '"' :: rest) = (pieces, .quote stop, rest) ∧
      ∀ ending, decodePieces (.quote ending) pieces = .ok text := by
  induction means generalizing position with
  | nil => exact ⟨[], position + 1, rfl, fun _ => rfl⟩
  | @plain c _ _ quote backslash printable more ih =>
    obtain ⟨pieces, stop, read, decoded⟩ := ih (position + c.utf8Size)
    refine ⟨.plain c :: pieces, stop, ?_, fun ending => ?_⟩
    · rw [List.cons_append, readPieces_plain _ _ quote backslash printable, read]
    · rw [decodePieces, decoded]
      rfl
  | @escape c meant _ _ known more ih =>
    obtain ⟨pieces, stop, read, decoded⟩ := ih (position + 2)
    refine ⟨.escape c :: pieces, stop, ?_, fun ending => ?_⟩
    · rw [List.cons_append, List.cons_append, readPieces_escape _ _ known, read]
    · rw [decodePieces, decoded, known]
      rfl
  | @unit a b c d value _ _ digits notLow notHigh more ih =>
    obtain ⟨pieces, stop, read, decoded⟩ := ih (position + 6)
    refine ⟨.unit value (position + 6) :: pieces, stop, ?_, fun ending => ?_⟩
    · simp only [List.cons_append, readPieces_unit _ _ digits, read]
    · rw [decodePieces.eq_def]
      simp only [notLow, notHigh, Bool.false_eq_true, if_false, decoded]
      rfl
  | @pair a b c d a' b' c' d' high low _ _ first second isHigh isLow more ih =>
    obtain ⟨pieces, stop, read, decoded⟩ := ih (position + 6 + 6)
    refine ⟨.unit high (position + 6) :: .unit low (position + 6 + 6) :: pieces, stop, ?_,
      fun ending => ?_⟩
    · simp only [List.cons_append, readPieces_unit _ _ first, readPieces_unit _ _ second, read]
    · -- The decoder looks for a low surrogate first, and a high one is none.
      have notLow : isLowSurrogate high = false := by
        simp only [isHighSurrogate, isLowSurrogate, Bool.and_eq_true, Bool.and_eq_false_iff,
          decide_eq_true_eq, decide_eq_false_iff_not] at isHigh ⊢
        omega
      rw [decodePieces.eq_def]
      simp only [notLow, isHigh, isLow, Bool.false_eq_true, if_false, if_true, decoded]
      rfl

theorem readQuotation_means {content : List Char} {text : String}
    (means : Means content text.toList) (position : Nat) (rest : List Char) :
    ∃ quotation stop, readQuotation ⟨content ++ '"' :: rest, position⟩ = (quotation, ⟨rest, stop⟩) ∧
      quotation.text = .ok text := by
  obtain ⟨pieces, stop, read, decoded⟩ := readPieces_means means position rest
  refine ⟨⟨position - 1, pieces, .quote stop⟩, stop, ?_, ?_⟩
  · rw [readQuotation, read]
  · rw [Quotation.text, decoded]
    exact congrArg Except.ok (String.ofList_toList)

/-! ## Printed strings -/

theorem hexUnit?_control {number : Nat} (control : number < 32) :
    hexUnit? '0' '0' (hexDigit (number / 16)) (hexDigit (number % 16)) = some number := by
  have every : ∀ number < 32,
      hexUnit? '0' '0' (hexDigit (number / 16)) (hexDigit (number % 16)) = some number := by decide
  exact every number control

theorem Grammar.Means.escapeChar {content text : List Char} (means : Means content text)
    (c : Char) : Means (Json.escapeChar c ++ content) (c :: text) := by
  unfold Json.escapeChar
  split
  · exact .escape rfl means
  · exact .escape rfl means
  · exact .escape rfl means
  · exact .escape rfl means
  · exact .escape rfl means
  · exact .escape rfl means
  · exact .escape rfl means
  · next quote backslash _ _ _ _ _ =>
    by_cases control : c.toNat < 32
    · rw [if_pos control]
      have low : isLowSurrogate c.toNat = false := by
        simp only [isLowSurrogate, Bool.and_eq_false_iff, decide_eq_false_iff_not]
        omega
      have high : isHighSurrogate c.toNat = false := by
        simp only [isHighSurrogate, Bool.and_eq_false_iff, decide_eq_false_iff_not]
        omega
      have means := Means.unit (hexUnit?_control control) low high means
      rwa [Char.ofNat_toNat] at means
    · rw [if_neg control]
      exact .plain quote backslash (Nat.not_lt.1 control) means

theorem means_escaped (text : List Char) : Means (text.flatMap escapeChar) text := by
  induction text with
  | nil => exact .nil
  | cons c text ih => exact ih.escapeChar c

end PracticeClient.Json
