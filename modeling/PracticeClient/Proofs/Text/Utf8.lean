import PracticeClient.Text.Utf8

namespace PracticeClient.Text

/-! ## First bytes -/

def Pending.ofThree (bits : Nat) : Pending :=
  ⟨2, if bits = 0 then 0xA0 else 0x80, if bits = 13 then 0x9F else 0xBF, bits⟩

def Pending.ofFour (bits : Nat) : Pending :=
  ⟨3, if bits = 0 then 0x90 else 0x80, if bits = 4 then 0x8F else 0xBF, bits⟩

theorem begin_one {bits : Nat} (small : bits < 128) :
    begin (UInt8.ofNat bits) = ([some (Char.ofNat bits)], none) := by
  have below : UInt8.ofNat bits < 0x80 := by
    rw [UInt8.lt_iff_toNat_lt, UInt8.toNat_ofNat_of_lt' (Nat.lt_trans small (by decide))]
    exact small
  rw [begin, if_pos below, UInt8.toNat_ofNat_of_lt' (Nat.lt_trans small (by decide))]

theorem begin_two {bits : Nat} (large : 2 ≤ bits) (small : bits < 32) :
    begin (UInt8.ofNat (bits + 0xC0)) = ([], some ⟨1, 0x80, 0xBF, bits⟩) := by
  have every : ∀ bits < 32, 2 ≤ bits →
      begin (UInt8.ofNat (bits + 0xC0)) = ([], some ⟨1, 0x80, 0xBF, bits⟩) := by decide
  exact every bits small large

theorem begin_three {bits : Nat} (small : bits < 16) :
    begin (UInt8.ofNat (bits + 0xE0)) = ([], some (Pending.ofThree bits)) := by
  have every : ∀ bits < 16,
      begin (UInt8.ofNat (bits + 0xE0)) = ([], some (Pending.ofThree bits)) := by decide
  exact every bits small

theorem begin_four {bits : Nat} (small : bits < 5) :
    begin (UInt8.ofNat (bits + 0xF0)) = ([], some (Pending.ofFour bits)) := by
  have every : ∀ bits < 5,
      begin (UInt8.ofNat (bits + 0xF0)) = ([], some (Pending.ofFour bits)) := by decide
  exact every bits small

/-! ## Bytes that follow -/

theorem advance_more {pending : Pending} {bits : Nat} (small : bits < 64)
    (low : pending.low.toNat ≤ bits + 0x80) (high : bits + 0x80 ≤ pending.high.toNat) :
    advance (some pending) (UInt8.ofNat (bits + 0x80)) =
      if pending.owed ≤ 1 then ([some (Char.ofNat (pending.bits * 64 + bits))], none)
      else ([], some ⟨pending.owed - 1, 0x80, 0xBF, pending.bits * 64 + bits⟩) := by
  have value : (UInt8.ofNat (bits + 0x80)).toNat = bits + 0x80 :=
    UInt8.toNat_ofNat_of_lt' (show bits + 0x80 < 256 by omega)
  have within : pending.low ≤ UInt8.ofNat (bits + 0x80) ∧
      UInt8.ofNat (bits + 0x80) ≤ pending.high := by
    rw [UInt8.le_iff_toNat_le, UInt8.le_iff_toNat_le, value]
    exact ⟨low, high⟩
  rw [advance]
  simp only [within, and_self, if_true, value, Nat.add_sub_cancel]

theorem advance_last {bits more : Nat} (small : more < 64) :
    advance (some ⟨1, 0x80, 0xBF, bits⟩) (UInt8.ofNat (more + 0x80)) =
      ([some (Char.ofNat (bits * 64 + more))], none) := by
  refine (advance_more small ?_ ?_).trans (if_pos (Nat.le_refl 1))
  · exact Nat.le_add_left 0x80 more
  · change more + 0x80 ≤ 0xBF
    omega

theorem advance_ofThree {bits more : Nat} (small : more < 64) (overlong : bits = 0 → 32 ≤ more)
    (surrogate : bits = 13 → more < 32) :
    advance (some (.ofThree bits)) (UInt8.ofNat (more + 0x80)) =
      ([], some ⟨1, 0x80, 0xBF, bits * 64 + more⟩) := by
  refine (advance_more small ?_ ?_).trans (if_neg (show ¬2 ≤ 1 by decide))
  · by_cases zero : bits = 0
    · have := overlong zero
      simp only [Pending.ofThree, zero, if_true]
      change 160 ≤ more + 128
      omega
    · simp only [Pending.ofThree, zero, if_false]
      exact Nat.le_add_left 128 more
  · by_cases last : bits = 13
    · have := surrogate last
      simp only [Pending.ofThree, last, if_true]
      change more + 128 ≤ 159
      omega
    · simp only [Pending.ofThree, last, if_false]
      change more + 128 ≤ 191
      omega

theorem advance_ofFour {bits more : Nat} (small : more < 64) (overlong : bits = 0 → 16 ≤ more)
    (beyond : bits = 4 → more < 16) :
    advance (some (.ofFour bits)) (UInt8.ofNat (more + 0x80)) =
      ([], some ⟨2, 0x80, 0xBF, bits * 64 + more⟩) := by
  refine (advance_more small ?_ ?_).trans (if_neg (show ¬3 ≤ 1 by decide))
  · by_cases zero : bits = 0
    · have := overlong zero
      simp only [Pending.ofFour, zero, if_true]
      change 144 ≤ more + 128
      omega
    · simp only [Pending.ofFour, zero, if_false]
      exact Nat.le_add_left 128 more
  · by_cases last : bits = 4
    · have := beyond last
      simp only [Pending.ofFour, last, if_true]
      change more + 128 ≤ 143
      omega
    · simp only [Pending.ofFour, last, if_false]
      change more + 128 ≤ 191
      omega

theorem advance_last_but_one {bits more : Nat} (small : more < 64) :
    advance (some ⟨2, 0x80, 0xBF, bits⟩) (UInt8.ofNat (more + 0x80)) =
      ([], some ⟨1, 0x80, 0xBF, bits * 64 + more⟩) := by
  refine (advance_more small ?_ ?_).trans (if_neg (show ¬2 ≤ 1 by decide))
  · exact Nat.le_add_left 0x80 more
  · change more + 0x80 ≤ 0xBF
    omega

theorem scalars_cons (pending : Option Pending) (byte : UInt8) (rest : Bytes) :
    scalars pending (byte :: rest) =
      (advance pending byte).1 ++ scalars (advance pending byte).2 rest := rfl

/-! ## Characters -/

theorem scalars_utf8EncodeChar (c : Char) (rest : Bytes) :
    scalars none (String.utf8EncodeChar c ++ rest) = some c :: scalars none rest := by
  obtain ⟨value, number⟩ : ∃ value, value = c.val.toNat := ⟨_, rfl⟩
  have valid : value < 0xD800 ∨ 0xDFFF < value ∧ value < 0x110000 := number ▸ c.valid
  have same : Char.ofNat value = c := by rw [number]; exact Char.ofNat_toNat c
  unfold String.utf8EncodeChar
  rw [← number]
  -- One case for each length. What the bytes have of the number adds up to it again.
  by_cases one : value ≤ 0x7F
  · simp only [one, if_true, List.cons_append, List.nil_append, scalars_cons, advance]
    rw [begin_one (by omega), same]
    rfl
  by_cases two : value ≤ 0x7FF
  · simp only [one, two, if_true, if_false, List.cons_append, List.nil_append, scalars_cons]
    have first : advance none (UInt8.ofNat (value / 64 % 0x20 + 0xC0)) =
        ([], some ⟨1, 0x80, 0xBF, value / 64 % 0x20⟩) := begin_two (by omega) (by omega)
    rw [first, advance_last (by omega)]
    have whole : value / 64 % 0x20 * 64 + value % 0x40 = value := by omega
    rw [whole, same]
    rfl
  by_cases three : value ≤ 0xFFFF
  · simp only [one, two, three, if_true, if_false, List.cons_append, List.nil_append, scalars_cons]
    have first : advance none (UInt8.ofNat (value / 4096 % 0x10 + 0xE0)) =
        ([], some (Pending.ofThree (value / 4096 % 0x10))) := begin_three (by omega)
    have second : advance (some (Pending.ofThree (value / 4096 % 0x10)))
        (UInt8.ofNat (value / 64 % 0x40 + 0x80)) =
          ([], some ⟨1, 0x80, 0xBF, value / 4096 % 0x10 * 64 + value / 64 % 0x40⟩) :=
      advance_ofThree (by omega) (by omega) (by omega)
    rw [first, second, advance_last (by omega)]
    have whole : (value / 4096 % 0x10 * 64 + value / 64 % 0x40) * 64 + value % 0x40 = value := by
      omega
    rw [whole, same]
    rfl
  · simp only [one, two, three, if_false, List.cons_append, List.nil_append, scalars_cons]
    have first : advance none (UInt8.ofNat (value / 262144 % 0x08 + 0xF0)) =
        ([], some (Pending.ofFour (value / 262144 % 0x08))) := begin_four (by omega)
    have second : advance (some (Pending.ofFour (value / 262144 % 0x08)))
        (UInt8.ofNat (value / 4096 % 0x40 + 0x80)) =
          ([], some ⟨2, 0x80, 0xBF, value / 262144 % 0x08 * 64 + value / 4096 % 0x40⟩) :=
      advance_ofFour (by omega) (by omega) (by omega)
    rw [first, second, advance_last_but_one (by omega), advance_last (by omega)]
    have whole : ((value / 262144 % 0x08 * 64 + value / 4096 % 0x40) * 64 +
        value / 64 % 0x40) * 64 + value % 0x40 = value := by omega
    rw [whole, same]
    rfl

theorem scalars_flatMap (characters : List Char) (rest : Bytes) :
    scalars none (characters.flatMap String.utf8EncodeChar ++ rest) =
      characters.map some ++ scalars none rest := by
  induction characters with
  | nil => rfl
  | cons c characters ih =>
    rw [List.flatMap_cons, List.append_assoc, scalars_utf8EncodeChar, ih, List.map_cons,
      List.cons_append]

theorem scalars_utf8_append (text : String) (rest : Bytes) :
    scalars none (utf8 text ++ rest) = text.toList.map some ++ scalars none rest :=
  scalars_flatMap text.toList rest

theorem scalars_utf8 (text : String) : scalars none (utf8 text) = text.toList.map some := by
  have whole := scalars_utf8_append text []
  rwa [List.append_nil, show scalars none [] = [] from rfl, List.append_nil] at whole

theorem mapM_id_eq_some_iff {α : Type} {found : List (Option α)} {values : List α} :
    found.mapM id = some values ↔ found = values.map some := by
  induction found generalizing values with
  | nil => cases values <;> simp
  | cons first rest ih =>
    rw [List.mapM_cons]
    cases first with
    | none => cases values <;> simp
    | some value =>
      cases others : rest.mapM id with
      | none =>
        cases values with
        | nil => simp
        | cons other values =>
          have unlike : rest ≠ values.map some := by
            intro same
            cases (ih.2 same).symm.trans others
          simp [unlike]
      | some found =>
        cases values with
        | nil => simp
        | cons other values =>
          have same : found = values ↔ rest = values.map some := by
            rw [← ih, others, Option.some.injEq]
          simp [same]

theorem none_mem_of_mapM {α : Type} {found : List (Option α)} (failed : found.mapM id = none) :
    none ∈ found := by
  induction found with
  | nil => cases failed
  | cons first rest ih =>
    cases first with
    | none => exact List.mem_cons_self
    | some value =>
      rw [List.mapM_cons] at failed
      cases others : rest.mapM id with
      | none => exact List.mem_cons_of_mem _ (ih others)
      | some values =>
        rw [others] at failed
        cases failed

@[simp] theorem decode?_utf8 (text : String) : decode? (utf8 text) = some text := by
  rw [decode?, scalars_utf8, mapM_id_eq_some_iff.2 rfl, Option.map_some, String.ofList_toList]

@[simp] theorem decodeLossy_utf8 (text : String) : decodeLossy (utf8 text) = text := by
  rw [decodeLossy, scalars_utf8, List.map_map]
  exact (congrArg String.ofList (List.map_id text.toList)).trans String.ofList_toList

/-! ## Bytes between characters -/

def Pending.Bounded (pending : Option Pending) : Prop :=
  ∀ lead ∈ pending, 0x80 ≤ lead.low

theorem bounded_begin (byte : UInt8) : Pending.Bounded (begin byte).2 := by
  intro lead pending
  unfold begin at pending
  split at pending
  · cases pending
  · split at pending
    · next announced =>
      cases pending
      unfold Pending.ofLead? at announced
      repeat' split at announced
      all_goals cases announced
      all_goals
        dsimp only
        decide
    · cases pending

theorem bounded_advance {pending : Option Pending} (byte : UInt8) :
    Pending.Bounded (advance pending byte).2 := by
  cases pending with
  | none => exact bounded_begin byte
  | some pending =>
    rw [advance]
    split
    · dsimp only
      split
      · exact nofun
      · rintro _ ⟨⟩
        exact UInt8.le_refl 0x80
    · exact bounded_begin byte

theorem scalars_append_ascii {pending : Option Pending} (bounded : Pending.Bounded pending)
    (bytes : Bytes) {byte : UInt8} (ascii : byte < 0x80) (rest : Bytes) :
    scalars pending (bytes ++ byte :: rest) =
      scalars pending bytes ++ some (Char.ofNat byte.toNat) :: scalars none rest := by
  induction bytes generalizing pending with
  | nil =>
    have own : begin byte = ([some (Char.ofNat byte.toNat)], none) := if_pos ascii
    cases pending with
    | none =>
      rw [List.nil_append, scalars_cons, advance, own]
      rfl
    | some lead =>
      have outside : ¬(lead.low ≤ byte ∧ byte ≤ lead.high) := fun within =>
        UInt8.not_lt.2 (UInt8.le_trans (bounded lead rfl) within.1) ascii
      rw [List.nil_append, scalars_cons, advance, if_neg outside]
      dsimp only
      rw [own]
      rfl
  | cons first bytes ih =>
    rw [List.cons_append, scalars_cons, scalars_cons, ih (bounded_advance first), List.append_assoc]

theorem mem_of_decode? {bytes rest : Bytes} {byte : UInt8} (ascii : byte < 0x80) {text : String}
    (decoded : decode? (bytes ++ byte :: rest) = some text) :
    Char.ofNat byte.toNat ∈ text.toList := by
  obtain ⟨characters, read, rfl⟩ := Option.map_eq_some_iff.1 decoded
  have found := mapM_id_eq_some_iff.1 read
  rw [scalars_append_ascii (nofun : Pending.Bounded none) bytes ascii] at found
  have member : some (Char.ofNat byte.toNat) ∈ characters.map some := found ▸ by simp
  simpa using member

/-! ## Only what was written -/

theorem utf8EncodeChar_ofNat {number : Nat} (valid : number.isValidChar) :
    String.utf8EncodeChar (Char.ofNat number) =
      if number ≤ 0x7F then [UInt8.ofNat number]
      else if number ≤ 0x7FF then
        [UInt8.ofNat (number / 64 % 0x20 + 0xC0), UInt8.ofNat (number % 0x40 + 0x80)]
      else if number ≤ 0xFFFF then
        [UInt8.ofNat (number / 4096 % 0x10 + 0xE0), UInt8.ofNat (number / 64 % 0x40 + 0x80),
          UInt8.ofNat (number % 0x40 + 0x80)]
      else
        [UInt8.ofNat (number / 262144 % 0x08 + 0xF0), UInt8.ofNat (number / 4096 % 0x40 + 0x80),
          UInt8.ofNat (number / 64 % 0x40 + 0x80), UInt8.ofNat (number % 0x40 + 0x80)] := by
  have value : (Char.ofNat number).val.toNat = number := by
    rw [Char.ofNat, dif_pos valid]
    rfl
  unfold String.utf8EncodeChar
  simp only [value]

/-- Bytes that begin a character: whichever follow within the bounds, as many as are owed, they
spell together the character whose bits have been read. -/
def Leads : (more : Nat) → (low high : UInt8) → (bits : Nat) → (seen : Bytes) → Prop
  | 0, low, high, bits, seen => ∀ byte, low ≤ byte → byte ≤ high →
      String.utf8EncodeChar (Char.ofNat (bits * 64 + (byte.toNat - 0x80))) = seen ++ [byte]
  | more + 1, low, high, bits, seen => ∀ byte, low ≤ byte → byte ≤ high →
      Leads more 0x80 0xBF (bits * 64 + (byte.toNat - 0x80)) (seen ++ [byte])

inductive Seen : Option Pending → Bytes → Prop
  | nothing : Seen none []
  | lead {pending : Pending} {seen : Bytes}
    (leads : Leads (pending.owed - 1) pending.low pending.high pending.bits seen) :
    Seen (some pending) seen

theorem ofNat_eq_of_toNat {number : Nat} (byte : UInt8) (same : number = byte.toNat) :
    UInt8.ofNat number = byte := by
  rw [same, UInt8.ofNat_toNat]

theorem encodes_two {bits : Nat} {lead last : UInt8} (first : bits + 0xC0 = lead.toNat)
    (large : 2 ≤ bits) (small : bits < 32) (low : 0x80 ≤ last.toNat) (high : last.toNat ≤ 0xBF) :
    String.utf8EncodeChar (Char.ofNat (bits * 64 + (last.toNat - 0x80))) = [lead, last] := by
  rw [utf8EncodeChar_ofNat (.inl (by omega)), if_neg (by omega), if_pos (by omega)]
  rw [ofNat_eq_of_toNat lead (by omega), ofNat_eq_of_toNat last (by omega)]

theorem encodes_three {bits : Nat} {lead second last : UInt8} (first : bits + 0xE0 = lead.toNat)
    (small : bits < 16) (low : 0x80 ≤ second.toNat) (high : second.toNat ≤ 0xBF)
    (overlong : bits = 0 → 0xA0 ≤ second.toNat) (surrogate : bits = 13 → second.toNat ≤ 0x9F)
    (low' : 0x80 ≤ last.toNat) (high' : last.toNat ≤ 0xBF) :
    String.utf8EncodeChar
        (Char.ofNat ((bits * 64 + (second.toNat - 0x80)) * 64 + (last.toNat - 0x80))) =
      [lead, second, last] := by
  have valid : ((bits * 64 + (second.toNat - 0x80)) * 64 + (last.toNat - 0x80)).isValidChar := by
    unfold Nat.isValidChar
    omega
  rw [utf8EncodeChar_ofNat valid, if_neg (by omega), if_neg (by omega), if_pos (by omega)]
  rw [ofNat_eq_of_toNat lead (by omega), ofNat_eq_of_toNat second (by omega),
    ofNat_eq_of_toNat last (by omega)]

theorem encodes_four {bits : Nat} {lead second third last : UInt8}
    (first : bits + 0xF0 = lead.toNat) (small : bits < 5) (low : 0x80 ≤ second.toNat)
    (high : second.toNat ≤ 0xBF) (overlong : bits = 0 → 0x90 ≤ second.toNat)
    (beyond : bits = 4 → second.toNat ≤ 0x8F) (low' : 0x80 ≤ third.toNat)
    (high' : third.toNat ≤ 0xBF) (low'' : 0x80 ≤ last.toNat) (high'' : last.toNat ≤ 0xBF) :
    String.utf8EncodeChar (Char.ofNat (((bits * 64 + (second.toNat - 0x80)) * 64 +
        (third.toNat - 0x80)) * 64 + (last.toNat - 0x80))) = [lead, second, third, last] := by
  rw [utf8EncodeChar_ofNat (.inr ⟨by omega, by omega⟩), if_neg (by omega), if_neg (by omega),
    if_neg (by omega)]
  rw [ofNat_eq_of_toNat lead (by omega), ofNat_eq_of_toNat second (by omega),
    ofNat_eq_of_toNat third (by omega), ofNat_eq_of_toNat last (by omega)]

theorem leads_three {byte low high : UInt8} {bits : Nat} (first : bits + 0xE0 = byte.toNat)
    (small : bits < 16) (least : 0x80 ≤ low.toNat) (most : high.toNat ≤ 0xBF)
    (overlong : bits = 0 → 0xA0 ≤ low.toNat) (surrogate : bits = 13 → high.toNat ≤ 0x9F) :
    Leads 1 low high bits [byte] := by
  intro second lower upper last lower' upper'
  simp only [UInt8.le_iff_toNat_le, UInt8.reduceToNat] at lower upper lower' upper'
  exact encodes_three first small (by omega) (by omega) (by omega) (by omega) lower' upper'

theorem leads_four {byte low high : UInt8} {bits : Nat} (first : bits + 0xF0 = byte.toNat)
    (small : bits < 5) (least : 0x80 ≤ low.toNat) (most : high.toNat ≤ 0xBF)
    (overlong : bits = 0 → 0x90 ≤ low.toNat) (beyond : bits = 4 → high.toNat ≤ 0x8F) :
    Leads 2 low high bits [byte] := by
  intro second lower upper third lower' upper' last lower'' upper''
  simp only [UInt8.le_iff_toNat_le, UInt8.reduceToNat] at lower upper lower' upper'
  simp only [UInt8.le_iff_toNat_le, UInt8.reduceToNat] at lower'' upper''
  exact encodes_four first small (by omega) (by omega) (by omega) (by omega) lower' upper' lower''
    upper''

/-- A first byte and the bounds that it puts on the second leave no overlong form, no surrogate and
nothing beyond the last character. -/
theorem seen_ofLead? {byte : UInt8} {pending : Pending}
    (lead : Pending.ofLead? byte = some pending) : Seen (some pending) [byte] := by
  refine .lead ?_
  unfold Pending.ofLead? at lead
  simp only [← UInt8.toNat_inj, UInt8.le_iff_toNat_le, UInt8.reduceToNat] at lead
  -- The bounds depend on the first byte, which is split as the decoder does it.
  split at lead
  · cases lead
    dsimp only
    intro last low high
    simp only [UInt8.le_iff_toNat_le, UInt8.reduceToNat] at low high
    exact encodes_two (by omega) (by omega) (by omega) low high
  split at lead
  · cases lead
    dsimp only
    exact leads_three (by omega) (by omega) (by decide) (by decide) (by decide) (by decide)
  split at lead
  · cases lead
    dsimp only
    exact leads_three (by omega) (by omega) (by decide) (by decide) (by decide) (by decide)
  split at lead
  · cases lead
    dsimp only
    exact leads_three (by omega) (by omega) (by decide) (by decide) (by omega) (by omega)
  split at lead
  · cases lead
    dsimp only
    exact leads_four (by omega) (by decide) (by decide) (by decide) (by decide) (by decide)
  split at lead
  · cases lead
    dsimp only
    exact leads_four (by omega) (by omega) (by decide) (by decide) (by omega) (by omega)
  split at lead
  · cases lead
    dsimp only
    exact leads_four (by omega) (by decide) (by decide) (by decide) (by decide) (by decide)
  · cases lead

theorem utf8_of_begin {byte : UInt8} {rest : Bytes}
    (later : ∀ {pending : Option Pending} {seen : Bytes} {characters : List Char},
      Seen pending seen → scalars pending rest = characters.map some →
        seen ++ rest = characters.flatMap String.utf8EncodeChar)
    {characters : List Char}
    (read : (begin byte).1 ++ scalars (begin byte).2 rest = characters.map some) :
    byte :: rest = characters.flatMap String.utf8EncodeChar := by
  unfold begin at read
  split at read
  · next small =>
    cases characters with
    | nil => cases read
    | cons c characters =>
      obtain ⟨same, others⟩ := List.cons.inj read
      have small : byte.toNat ≤ 0x7F := Nat.le_of_lt_succ small
      rw [List.flatMap_cons, ← Option.some.inj same,
        utf8EncodeChar_ofNat (.inl (by omega)), if_pos small, UInt8.ofNat_toNat]
      exact congrArg (byte :: ·) (later .nothing others)
  · split at read
    · next pending lead => exact later (seen_ofLead? lead) read
    · cases characters <;> cases read

theorem utf8_of_scalars {pending : Option Pending} {seen bytes : Bytes} {characters : List Char}
    (before : Seen pending seen) (read : scalars pending bytes = characters.map some) :
    seen ++ bytes = characters.flatMap String.utf8EncodeChar := by
  -- What has been seen of a pending character goes along until its last byte is read.
  induction bytes generalizing pending seen characters with
  | nil =>
    cases before with
    | nothing =>
      cases characters with
      | nil => rfl
      | cons c rest => cases read
    | lead leads =>
      cases characters with
      | nil => cases read
      | cons c rest => cases read
  | cons byte rest ih =>
    rw [scalars_cons] at read
    cases before with
    | nothing => exact utf8_of_begin ih read
    | @lead pending seen leads =>
      rw [advance] at read
      split at read
      · next within =>
        dsimp only at read
        split at read
        · next last =>
          rw [Nat.sub_eq_zero_of_le last] at leads
          cases characters with
          | nil => cases read
          | cons c characters =>
            obtain ⟨same, others⟩ := List.cons.inj read
            rw [List.flatMap_cons, ← Option.some.inj same, leads byte within.1 within.2]
            rw [← ih .nothing others]
            simp
        · next more =>
          -- The byte joins the ones that have been seen, and the same bounds go for the next.
          obtain ⟨owed, less⟩ : ∃ owed, pending.owed - 1 = owed + 1 := ⟨pending.owed - 2, by omega⟩
          rw [less] at leads read
          have begun : Seen (some ⟨owed + 1, 0x80, 0xBF, pending.bits * 64 + (byte.toNat - 0x80)⟩)
              (seen ++ [byte]) := .lead (leads byte within.1 within.2)
          rw [← ih begun read]
          simp
      · cases characters <;> cases read

theorem decode?_eq_some_iff {bytes : Bytes} {text : String} :
    decode? bytes = some text ↔ bytes = utf8 text := by
  constructor
  · intro decoded
    obtain ⟨characters, read, rfl⟩ := Option.map_eq_some_iff.1 decoded
    rw [utf8, String.toList_ofList]
    exact utf8_of_scalars .nothing (mapM_id_eq_some_iff.1 read)
  · rintro rfl
    exact decode?_utf8 text

theorem none_mem_scalars_iff {bytes : Bytes} :
    none ∈ scalars none bytes ↔ ∀ text, bytes ≠ utf8 text := by
  constructor
  · rintro ill text rfl
    rw [scalars_utf8] at ill
    simp at ill
  · intro unspelled
    cases decoded : decode? bytes with
    | some text => exact (unspelled text (decode?_eq_some_iff.1 decoded)).elim
    | none => exact none_mem_of_mapM (Option.map_eq_none_iff.1 decoded)

end PracticeClient.Text
