import PracticeClient.Text.Utf8

namespace PracticeClient.Text

theorem cons_lt_cons {a b : Nat} {rest rest' : Bytes} (small : a < 256) (small' : b < 256)
    (first : a < b ∨ a = b ∧ rest < rest') :
    UInt8.ofNat a :: rest < UInt8.ofNat b :: rest' := by
  rw [List.cons_lt_cons_iff, UInt8.lt_iff_toNat_lt, ← UInt8.toNat_inj,
    UInt8.toNat_ofNat_of_lt' small, UInt8.toNat_ofNat_of_lt' small']
  exact first

/-! ## Bytes that follow -/

theorem one_byte_lt {x y : Nat} {rest rest' : Bytes} (less : x % 64 < y % 64) :
    UInt8.ofNat (x % 64 + 0x80) :: rest < UInt8.ofNat (y % 64 + 0x80) :: rest' :=
  cons_lt_cons (by omega) (by omega) (.inl (by omega))

theorem two_bytes_lt {x y : Nat} {rest rest' : Bytes} (less : x % 4096 < y % 4096) :
    UInt8.ofNat (x / 64 % 64 + 0x80) :: UInt8.ofNat (x % 64 + 0x80) :: rest <
      UInt8.ofNat (y / 64 % 64 + 0x80) :: UInt8.ofNat (y % 64 + 0x80) :: rest' := by
  apply cons_lt_cons (by omega) (by omega)
  by_cases first : x / 64 % 64 < y / 64 % 64
  · exact .inl (by omega)
  · exact .inr ⟨by omega, one_byte_lt (by omega)⟩

theorem three_bytes_lt {x y : Nat} {rest rest' : Bytes} (less : x % 262144 < y % 262144) :
    UInt8.ofNat (x / 4096 % 64 + 0x80) :: UInt8.ofNat (x / 64 % 64 + 0x80) ::
        UInt8.ofNat (x % 64 + 0x80) :: rest <
      UInt8.ofNat (y / 4096 % 64 + 0x80) :: UInt8.ofNat (y / 64 % 64 + 0x80) ::
        UInt8.ofNat (y % 64 + 0x80) :: rest' := by
  apply cons_lt_cons (by omega) (by omega)
  by_cases first : x / 4096 % 64 < y / 4096 % 64
  · exact .inl (by omega)
  · exact .inr ⟨by omega, two_bytes_lt (by omega)⟩

/-! ## Characters and texts -/

theorem utf8EncodeChar_lt {c d : Char} (less : c < d) (rest rest' : Bytes) :
    String.utf8EncodeChar c ++ rest < String.utf8EncodeChar d ++ rest' := by
  have less : c.val.toNat < d.val.toNat := less
  have valid : d.val.toNat < 0x110000 := by
    have valid : d.val.toNat < 0xD800 ∨ 0xDFFF < d.val.toNat ∧ d.val.toNat < 0x110000 := d.valid
    omega
  unfold String.utf8EncodeChar
  generalize c.val.toNat = x at less
  generalize d.val.toNat = y at less valid
  have lengths (n : Nat) : n ≤ 0x7F ∨ (¬n ≤ 0x7F ∧ n ≤ 0x7FF) ∨
      (¬n ≤ 0x7F ∧ ¬n ≤ 0x7FF ∧ n ≤ 0xFFFF) ∨ (¬n ≤ 0x7F ∧ ¬n ≤ 0x7FF ∧ ¬n ≤ 0xFFFF) := by omega
  -- A longer encoding has the greater first byte, so only encodings of one length are compared
  -- byte by byte.
  rcases lengths y with one' | ⟨one', two'⟩ | ⟨one', two', three'⟩ | ⟨one', two', three'⟩
  · have one : x ≤ 0x7F := by omega
    simp only [one, one', if_true]
    exact cons_lt_cons (by omega) (by omega) (.inl less)
  · rcases lengths x with one | ⟨one, two⟩ | ⟨one, two, three⟩ | ⟨one, two, three⟩
    all_goals try omega
    all_goals simp only [*, if_true, if_false]
    · exact cons_lt_cons (by omega) (by omega) (.inl (by omega))
    · by_cases first : x / 64 < y / 64
      · exact cons_lt_cons (by omega) (by omega) (.inl (by omega))
      · exact cons_lt_cons (by omega) (by omega) (.inr ⟨by omega, one_byte_lt (by omega)⟩)
  · rcases lengths x with one | ⟨one, two⟩ | ⟨one, two, three⟩ | ⟨one, two, three⟩
    all_goals try omega
    all_goals simp only [*, if_true, if_false]
    · exact cons_lt_cons (by omega) (by omega) (.inl (by omega))
    · exact cons_lt_cons (by omega) (by omega) (.inl (by omega))
    · by_cases first : x / 4096 < y / 4096
      · exact cons_lt_cons (by omega) (by omega) (.inl (by omega))
      · exact cons_lt_cons (by omega) (by omega) (.inr ⟨by omega, two_bytes_lt (by omega)⟩)
  · rcases lengths x with one | ⟨one, two⟩ | ⟨one, two, three⟩ | ⟨one, two, three⟩
    all_goals simp only [*, if_true, if_false]
    · exact cons_lt_cons (by omega) (by omega) (.inl (by omega))
    · exact cons_lt_cons (by omega) (by omega) (.inl (by omega))
    · exact cons_lt_cons (by omega) (by omega) (.inl (by omega))
    · by_cases first : x / 262144 < y / 262144
      · exact cons_lt_cons (by omega) (by omega) (.inl (by omega))
      · exact cons_lt_cons (by omega) (by omega) (.inr ⟨by omega, three_bytes_lt (by omega)⟩)

theorem utf8EncodeChar_ne_nil (c : Char) : String.utf8EncodeChar c ≠ [] := by
  unfold String.utf8EncodeChar
  grind

theorem flatMap_utf8EncodeChar_lt {a b : List Char} (less : a < b) :
    a.flatMap String.utf8EncodeChar < b.flatMap String.utf8EncodeChar := by
  induction less with
  | @nil c rest =>
    rw [List.flatMap_nil, List.flatMap_cons]
    cases spelled : String.utf8EncodeChar c with
    | nil => exact absurd spelled (utf8EncodeChar_ne_nil c)
    | cons byte bytes => exact List.nil_lt_cons byte _
  | rel less =>
    rw [List.flatMap_cons, List.flatMap_cons]
    exact utf8EncodeChar_lt less _ _
  | cons _ ih =>
    rw [List.flatMap_cons, List.flatMap_cons]
    exact List.append_left_lt ih

theorem utf8_lt_utf8 {a b : String} (less : a < b) : utf8 a < utf8 b :=
  flatMap_utf8EncodeChar_lt less

end PracticeClient.Text
