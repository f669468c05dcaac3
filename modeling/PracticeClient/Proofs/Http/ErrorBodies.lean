import PracticeClient.Http.Error
import PracticeClient.Proofs.Text.Utf8

namespace PracticeClient

namespace Text

/-! ## Bytes of characters -/

def spell (characters : List Char) : Bytes :=
  characters.flatMap String.utf8EncodeChar

theorem spell_cons (c : Char) (rest : List Char) :
    spell (c :: rest) = String.utf8EncodeChar c ++ spell rest := rfl

theorem spell_append (before after : List Char) :
    spell (before ++ after) = spell before ++ spell after :=
  List.flatMap_append

theorem length_spell_cons (c : Char) (rest : List Char) :
    (spell (c :: rest)).length = c.utf8Size + (spell rest).length := by
  rw [spell_cons, List.length_append, String.length_utf8EncodeChar]

theorem utf8_ofList (characters : List Char) :
    utf8 (String.ofList characters) = spell characters := by
  rw [utf8, String.toList_ofList]
  rfl

theorem prefix_of_spell {characters kept : List Char} (begins : spell kept <+: spell characters) :
    kept <+: characters := by
  obtain ⟨rest, whole⟩ := begins
  have all := scalars_utf8 (String.ofList characters)
  rw [utf8_ofList, ← whole, spell, scalars_flatMap, String.toList_ofList] at all
  obtain ⟨rest', same⟩ : kept.map some <+: characters.map some := ⟨_, all⟩
  obtain ⟨before, after, rfl, first, -⟩ := List.map_eq_append_iff.1 same.symm
  rw [List.map_inj_right fun _ _ => Option.some.inj] at first
  exact ⟨after, first ▸ rfl⟩

def Begins (byte : UInt8) : Prop :=
  byte < 0x80 ∨ 0xC0 ≤ byte

theorem begins_lead {number : Nat} (large : 0xC0 ≤ number) (small : number < 0x100) :
    Begins (UInt8.ofNat number) := by
  refine .inr ?_
  rw [UInt8.le_iff_toNat_le, UInt8.toNat_ofNat_of_lt' small]
  exact large

theorem not_begins_follow (number : Nat) : ¬Begins (UInt8.ofNat (number % 64 + 0x80)) := by
  have every : ∀ number < 64,
      ¬(UInt8.ofNat (number + 0x80) < 0x80 ∨ 0xC0 ≤ UInt8.ofNat (number + 0x80)) := by decide
  exact every (number % 64) (Nat.mod_lt number (by decide))

theorem begins_utf8EncodeChar (c : Char) :
    ∃ first rest, String.utf8EncodeChar c = first :: rest ∧ Begins first ∧
      ∀ byte ∈ rest, ¬Begins byte := by
  unfold String.utf8EncodeChar
  dsimp only
  generalize c.val.toNat = value
  split
  · next small =>
    refine ⟨_, [], rfl, .inl ?_, nofun⟩
    rw [UInt8.lt_iff_toNat_lt, UInt8.toNat_ofNat_of_lt' (Nat.lt_of_le_of_lt small (by decide))]
    exact Nat.lt_succ_of_le small
  split
  · refine ⟨_, _, rfl, begins_lead (by omega) (by omega), ?_⟩
    exact List.forall_mem_singleton.2 (not_begins_follow _)
  split
  · refine ⟨_, _, rfl, begins_lead (by omega) (by omega), ?_⟩
    simp only [List.forall_mem_cons]
    exact ⟨not_begins_follow _, not_begins_follow _, nofun⟩
  · refine ⟨_, _, rfl, begins_lead (by omega) (by omega), ?_⟩
    simp only [List.forall_mem_cons]
    exact ⟨not_begins_follow _, not_begins_follow _, not_begins_follow _, nofun⟩

/-! ## Boundaries -/

theorem isBoundary_iff {bytes : Bytes} {offset : Nat} {byte : UInt8}
    (there : bytes[offset]? = some byte) : isBoundary bytes offset = true ↔ Begins byte := by
  simp [isBoundary, there, Begins]

theorem isBoundary_between (before after : List Char) :
    isBoundary (spell (before ++ after)) (spell before).length = true := by
  rw [spell_append]
  cases after with
  | nil => simp [isBoundary, spell]
  | cons c after =>
    obtain ⟨first, rest, spelled, begins, -⟩ := begins_utf8EncodeChar c
    refine (isBoundary_iff ?_).2 begins
    rw [List.getElem?_append_right (Nat.le_refl _), spell_cons, spelled, Nat.sub_self]
    rfl

theorem isBoundary_inside (before : List Char) (c : Char) (after : List Char) {more : Nat}
    (inside : more + 1 < c.utf8Size) :
    isBoundary (spell (before ++ c :: after)) ((spell before).length + more + 1) = false := by
  obtain ⟨first, rest, spelled, -, follow⟩ := begins_utf8EncodeChar c
  have long : more < rest.length := by
    have size := String.length_utf8EncodeChar c
    rw [spelled, List.length_cons] at size
    omega
  have there : (spell (before ++ c :: after))[(spell before).length + more + 1]? =
      some rest[more] := by
    rw [spell_append, Nat.add_assoc, List.getElem?_append_right (Nat.le_add_right ..),
      Nat.add_sub_cancel_left, spell_cons, spelled, List.cons_append, List.getElem?_cons_succ,
      List.getElem?_append_left long, List.getElem?_eq_getElem long]
  rw [Bool.eq_false_iff, ne_eq, isBoundary_iff there]
  exact follow _ (List.getElem_mem long)

/-! ## The search for a boundary -/

/-- The search goes back byte by byte until it is at a boundary. It looks at bytes of the text only,
and from the first one it cannot go back. -/
inductive Descends (bytes : Bytes) : (offset steps stop : Nat) → Prop
  | stay {offset : Nat} (within : offset < bytes.length)
    (boundary : isBoundary bytes offset = true) : Descends bytes offset 0 offset
  | step {offset steps stop : Nat} (within : offset + 1 < bytes.length)
    (inside : isBoundary bytes (offset + 1) = false) (rest : Descends bytes offset steps stop) :
    Descends bytes (offset + 1) (steps + 1) stop

theorem Descends.boundaryAtOrBelow_eq {bytes : Bytes} {offset steps stop : Nat}
    (descends : Descends bytes offset steps stop) : boundaryAtOrBelow bytes offset = stop := by
  induction descends with
  | @stay offset within boundary =>
    cases offset with
    | zero => rfl
    | succ offset => rw [boundaryAtOrBelow, if_pos boundary]
  | step within inside rest ih => rw [boundaryAtOrBelow, if_neg (by simp [inside]), ih]

theorem descends_inside (before : List Char) (c : Char) (after : List Char) {more : Nat}
    (inside : more < c.utf8Size) :
    Descends (spell (before ++ c :: after)) ((spell before).length + more) more
      (spell before).length := by
  have within : (spell before).length + more < (spell (before ++ c :: after)).length := by
    rw [spell_append, List.length_append, length_spell_cons]
    omega
  induction more with
  | zero => exact .stay within (isBoundary_between before (c :: after))
  | succ more ih =>
    exact .step within (isBoundary_inside before c after inside) (ih (by omega) (by omega))

/-! ## Characters within a limit -/

theorem takeBytes_split (budget : Nat) (characters : List Char) :
    ∃ rest, takeBytes budget characters ++ rest = characters ∧
      (spell (takeBytes budget characters)).length ≤ budget ∧
      ∀ c ∈ rest.head?, budget < (spell (takeBytes budget characters)).length + c.utf8Size := by
  fun_induction takeBytes budget characters with
  | case1 budget => exact ⟨[], rfl, Nat.zero_le budget, nofun⟩
  | case2 budget c characters fits ih =>
    obtain ⟨rest, whole, within, beyond⟩ := ih
    rw [length_spell_cons]
    refine ⟨rest, by rw [List.cons_append, whole], by omega, fun next first => ?_⟩
    have := beyond next first
    omega
  | case3 budget c characters large =>
    refine ⟨c :: characters, rfl, Nat.zero_le budget, ?_⟩
    rintro _ ⟨⟩
    simpa [spell] using large

theorem takeBytes_append (kept rest : List Char) :
    takeBytes (spell kept).length (kept ++ rest) = kept := by
  induction kept with
  | nil =>
    cases rest with
    | nil => rfl
    | cons c rest => exact if_neg (Nat.not_le.2 c.utf8Size_pos)
  | cons c kept ih =>
    rw [length_spell_cons, List.cons_append, takeBytes, if_pos (Nat.le_add_right ..),
      Nat.add_sub_cancel_left, ih]

theorem prefix_takeBytes {budget : Nat} {characters other : List Char}
    (begins : other <+: characters) (fits : (spell other).length ≤ budget) :
    other <+: takeBytes budget characters := by
  obtain ⟨rest, whole, -, beyond⟩ := takeBytes_split budget characters
  generalize takeBytes budget characters = kept at whole beyond ⊢
  subst whole
  rcases List.prefix_or_prefix_of_prefix begins (List.prefix_append kept rest) with less | more
  · exact less
  obtain ⟨more, rfl⟩ := more
  cases more with
  | nil => simp
  | cons c more =>
    obtain ⟨after, rfl⟩ := (List.prefix_append_right_inj kept).1 begins
    have := beyond c rfl
    rw [spell_append, List.length_append, length_spell_cons] at fits
    omega

/-! ## Excerpts -/

def marker (length : Nat) : String :=
  s!"... (truncated, {length} total bytes)"

theorem excerpt_of_lt {text : String} (long : 500 < (utf8 text).length) :
    excerpt text =
      String.ofList (takeBytes (boundaryAtOrBelow (utf8 text) 500) text.toList) ++
        marker (utf8 text).length :=
  if_neg (show ¬(utf8 text).length ≤ excerptLimit from Nat.not_le.2 long)

structure Cut (text kept : String) : Prop where
  place : boundaryAtOrBelow (utf8 text) 500 = (utf8 kept).length
  begins : kept.toList <+: text.toList
  search : ∃ steps ≤ 3, Descends (utf8 text) 500 steps (utf8 kept).length
  most : (utf8 kept).length ≤ 500
  least : 497 ≤ (utf8 kept).length
  longest : ∀ longer : String, longer.toList <+: text.toList → (utf8 longer).length ≤ 500 →
    longer.toList <+: kept.toList

theorem excerpt_cut {text : String} (long : 500 < (utf8 text).length) :
    ∃ kept, Cut text kept ∧ excerpt text = kept ++ marker (utf8 text).length := by
  obtain ⟨rest, whole, fits, beyond⟩ := takeBytes_split 500 text.toList
  have longest (longer : List Char) := @prefix_takeBytes 500 text.toList longer
  generalize takeBytes 500 text.toList = kept at whole fits beyond longest
  have size : utf8 (String.ofList kept) = spell kept := utf8_ofList kept
  obtain ⟨c, after, rfl⟩ : ∃ c after, rest = c :: after := by
    cases rest with
    | cons c after => exact ⟨c, after, rfl⟩
    | nil =>
      have same : utf8 text = spell kept := by
        rw [List.append_nil] at whole
        rw [whole]
        rfl
      rw [same] at long
      omega
  have beyond := beyond c rfl
  have small := c.utf8Size_le_four
  -- The limit falls inside of the first character that does not fit, so the search ends before it.
  have search : Descends (utf8 text) 500 (500 - (spell kept).length) (spell kept).length := by
    have inside : 500 - (spell kept).length < c.utf8Size := by omega
    have descends := descends_inside kept c after inside
    rw [whole, Nat.add_sub_cancel' fits] at descends
    exact descends
  have place := search.boundaryAtOrBelow_eq
  refine ⟨String.ofList kept, ⟨?_, ?_, ?_, ?_, ?_, ?_⟩, ?_⟩
  · rw [size]
    exact place
  · exact ⟨c :: after, by rw [String.toList_ofList, whole]⟩
  · rw [size]
    exact ⟨500 - (spell kept).length, by omega, search⟩
  · rw [size]
    exact fits
  · rw [size]
    omega
  · intro longer begins fits
    rw [String.toList_ofList]
    exact longest longer.toList begins fits
  · rw [excerpt_of_lt long, place, ← whole, takeBytes_append]

theorem prefix_of_take {text other kept : String} (begins : kept.toList <+: text.toList)
    (fits : (utf8 kept).length ≤ 500) (same : (utf8 text).take 500 = (utf8 other).take 500) :
    kept.toList <+: other.toList := by
  apply prefix_of_spell
  change utf8 kept <+: utf8 other
  have within : utf8 kept <+: (utf8 text).take 500 := by
    obtain ⟨rest, whole⟩ := begins
    rw [List.prefix_take_iff]
    refine ⟨⟨spell rest, ?_⟩, fits⟩
    rw [utf8, utf8, ← whole, List.flatMap_append]
    rfl
  exact within.trans (same ▸ List.take_prefix 500 (utf8 other))

theorem excerpt_congr {text other : String} (length : (utf8 text).length = (utf8 other).length)
    (same : (utf8 text).take 500 = (utf8 other).take 500) : excerpt text = excerpt other := by
  by_cases long : 500 < (utf8 text).length
  · obtain ⟨kept, cut, shown⟩ := excerpt_cut long
    obtain ⟨kept', cut', shown'⟩ := excerpt_cut (length ▸ long)
    have first := cut'.longest kept (prefix_of_take cut.begins cut.most same) cut.most
    have second := cut.longest kept' (prefix_of_take cut'.begins cut'.most same.symm) cut'.most
    have kept_eq : kept = kept' := String.toList_inj.1 (first.eq_of_length_le second.length_le)
    rw [shown, shown', kept_eq, length]
  · rw [List.take_of_length_le (by omega), List.take_of_length_le (by omega)] at same
    have decoded := congrArg decode? same
    rw [decode?_utf8, decode?_utf8, Option.some.injEq] at decoded
    rw [decoded]

end Text

/-! ## Errors -/

namespace Http.TransportError

open Text

def detail? : TransportError → Option String
  | unauthorized body | accessDenied body | notFound body | serverError body => some body
  | invalidResponse detail | invalidEndpoint detail => some detail
  | rateLimited | network _ => none

/-- What an error of a status has to say: nothing of a limit, an excerpt of the body alone where the
kind of error tells the status, and behind the status otherwise. -/
def remark? (status : Status) (excerpt : String) : Option String :=
  if status.code = 429 then none
  else if status.code ∈ [401, 403, 404] ∨ 500 ≤ status.code ∧ status.code ≤ 599 then some excerpt
  else some s!"Status {status.describe}: {excerpt}"

theorem detail?_ofStatus (status : Status) (body : String) :
    (ofStatus status body).detail? = remark? status (excerpt body) := by
  unfold ofStatus remark?
  simp only [List.mem_cons, List.not_mem_nil, or_false]
  repeat' split
  all_goals first | rfl | omega

structure Excerpts (status : Status) (body : String) : Prop where
  whole : (utf8 body).length ≤ 500 → excerpt body = body
  cut : 500 < (utf8 body).length →
    ∃ kept, Cut body kept ∧ excerpt body = kept ++ marker (utf8 body).length
  same : ∀ other, (utf8 other).length = (utf8 body).length →
    (utf8 other).take 500 = (utf8 body).take 500 → ofStatus status other = ofStatus status body
  carries : (ofStatus status body).detail? = remark? status (excerpt body)
  short : ∃ kept tail, excerpt body = kept ++ tail ∧ kept.toList <+: body.toList ∧
    (utf8 kept).length ≤ 500 ∧ (tail = "" ∨ tail = marker (utf8 body).length)

theorem ofStatus_excerpts (status : Status) (body : String) : Excerpts status body where
  whole few := excerpt_of_le few
  cut many := excerpt_cut many
  same other length same := by rw [ofStatus, ofStatus, excerpt_congr length same]
  carries := detail?_ofStatus status body
  short := by
    by_cases many : 500 < (utf8 body).length
    · obtain ⟨kept, cut, shown⟩ := excerpt_cut many
      exact ⟨kept, _, shown, cut.begins, cut.most, .inr rfl⟩
    · have few := Nat.not_lt.1 many
      refine ⟨body, "", ?_, List.prefix_rfl, few, .inl rfl⟩
      rw [String.append_empty]
      exact excerpt_of_le few

end Http.TransportError

end PracticeClient
