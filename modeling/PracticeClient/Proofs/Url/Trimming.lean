import PracticeClient.Url.Parser

namespace PracticeClient.Url

def isEdge (c : Char) : Bool := c ≤ ' '

/-- What counts of the end of a text as soon as something follows. -/
def trailing (text : List Char) : List Char :=
  (text.reverse.takeWhile isEdge).reverse.filter (!isIgnored ·)

theorem exists_of_toNat_le {c : Char} {most : Nat} (bound : c.toNat ≤ most) :
    ∃ n : Fin (most + 1), c = Char.ofNat n :=
  ⟨⟨c.toNat, Nat.lt_succ_of_le bound⟩, (Char.ofNat_toNat c).symm⟩

theorem exists_of_isEdge {c : Char} (edge : isEdge c = true) : ∃ n : Fin 33, c = Char.ofNat n :=
  exists_of_toNat_le (UInt32.le_iff_toNat_le.1 (of_decide_eq_true edge))

theorem clean_eq (text : List Char) :
    clean text =
      ((text.dropWhile isEdge).reverse.dropWhile isEdge).reverse.filter (!isIgnored ·) := rfl

variable {text : List Char}

theorem isEdge_of_mem_trailing {c : Char} (member : c ∈ trailing text) : isEdge c = true := by
  have inside := List.mem_reverse.1 (List.mem_filter.1 member).1
  exact List.all_eq_true.1 List.all_takeWhile c inside

theorem solid_of_all (solid : text.all isEdge = false) : ∃ c ∈ text, isEdge c = false := by
  obtain ⟨c, member, inside⟩ := List.all_eq_false.1 solid
  exact ⟨c, member, Bool.eq_false_iff.2 inside⟩

theorem dropWhile_solid (solid : ∃ c ∈ text, isEdge c = false) :
    ∃ c ∈ text.dropWhile isEdge, isEdge c = false := by
  obtain ⟨c, member, inside⟩ := solid
  refine ⟨c, ?_, inside⟩
  rw [← @List.takeWhile_append_dropWhile _ isEdge text, List.mem_append] at member
  rcases member with lead | rest
  · have edge := List.all_eq_true.1 List.all_takeWhile c lead
    rw [inside] at edge
    cases edge
  · exact rest

theorem takeWhile_append_of_solid {rest : List Char} (solid : ∃ c ∈ text, isEdge c = false) :
    (text ++ rest).takeWhile isEdge = text.takeWhile isEdge := by
  rw [List.takeWhile_append, if_neg]
  intro whole
  obtain ⟨c, member, inside⟩ := solid
  have same : text.takeWhile isEdge = text := List.IsPrefix.eq_of_length
    (List.takeWhile_prefix isEdge) whole
  rw [← same] at member
  have edge := List.all_eq_true.1 List.all_takeWhile c member
  rw [inside] at edge
  cases edge

theorem clean_slash (solid : ∃ c ∈ text, isEdge c = false) :
    clean (text ++ ['/']) = clean text ++ (trailing text ++ ['/']) := by
  have inner := dropWhile_solid solid
  have filled : (text.dropWhile isEdge).isEmpty = false := by
    obtain ⟨c, member, -⟩ := inner
    cases found : text.dropWhile isEdge with
    | nil => simp [found] at member
    | cons => rfl
  have last : trailing text =
      ((text.dropWhile isEdge).reverse.takeWhile isEdge).reverse.filter (!isIgnored ·) := by
    have reversed : text.reverse =
        (text.dropWhile isEdge).reverse ++ (text.takeWhile isEdge).reverse := by
      rw [← List.reverse_append, List.takeWhile_append_dropWhile]
    obtain ⟨c, member, inside⟩ := inner
    rw [trailing, reversed, takeWhile_append_of_solid ⟨c, List.mem_reverse.2 member, inside⟩]
  have parts : text.dropWhile isEdge =
      ((text.dropWhile isEdge).reverse.dropWhile isEdge).reverse ++
        ((text.dropWhile isEdge).reverse.takeWhile isEdge).reverse := by
    rw [← List.reverse_append, List.takeWhile_append_dropWhile, List.reverse_reverse]
  have whole : clean text ++ trailing text =
      (text.dropWhile isEdge).filter (!isIgnored ·) := by
    rw [clean_eq, last, ← List.filter_append, ← parts]
  rw [← List.append_assoc, whole, clean_eq, List.dropWhile_append, filled]
  simp only [Bool.false_eq_true, if_false, List.reverse_append, List.reverse_singleton,
    List.singleton_append]
  rw [List.dropWhile_cons_of_neg (by decide), List.reverse_cons, List.reverse_reverse,
    List.filter_append]
  rfl

theorem clean_slash_of_blank (blank : ∀ c ∈ text, isEdge c = true) :
    clean (text ++ ['/']) = ['/'] := by
  rw [clean_eq, List.dropWhile_append_of_pos blank]
  rfl

theorem takeScheme?_append {suffix scheme rest : List Char}
    (strange : ∀ c ∈ suffix, c ≠ ':' ∧ isLetter c = false)
    (taken : takeScheme? (text ++ suffix) = some (scheme, rest)) :
    ∃ before, takeScheme? text = some (scheme, before) ∧ rest = before ++ suffix := by
  cases text with
  | nil =>
    cases suffix with
    | nil => cases taken
    | cons c suffix =>
      have other := (strange c List.mem_cons_self).2
      simp [takeScheme?, other] at taken
  | cons c text =>
    rw [List.cons_append, takeScheme?] at taken
    split at taken
    · next letter =>
      rw [← List.cons_append, List.dropWhile_append, List.takeWhile_append] at taken
      rw [takeScheme?, if_pos letter]
      cases dropped : (c :: text).dropWhile isSchemeChar with
      | nil =>
        -- The colon would have to stand in what is added.
        rw [dropped] at taken
        simp only [List.isEmpty_nil, if_true] at taken
        split at taken
        · next rest colon =>
          have member : ':' ∈ suffix := List.dropWhile_suffix isSchemeChar |>.mem (by
            rw [colon]
            exact List.mem_cons_self)
          exact ((strange ':' member).1 rfl).elim
        · cases taken
      | cons d before =>
        have short : ((c :: text).takeWhile isSchemeChar).length ≠ (c :: text).length := by
          intro whole
          have parts := congrArg List.length
            (@List.takeWhile_append_dropWhile _ isSchemeChar (c :: text))
          rw [List.length_append, dropped, whole] at parts
          simp at parts
        rw [dropped, if_neg short] at taken
        simp only [List.isEmpty_cons, Bool.false_eq_true, if_false, List.cons_append] at taken
        split at taken
        · next colon =>
          cases colon
          cases taken
          exact ⟨before, rfl, rfl⟩
        · cases taken
    · cases taken

theorem suffix_of_takeScheme? {scheme rest : List Char}
    (taken : takeScheme? text = some (scheme, rest)) :
    rest <:+ text := by
  unfold takeScheme? at taken
  split at taken
  · cases taken
  · split at taken
    · split at taken
      · next colon =>
        cases taken
        exact (List.suffix_cons ':' _).trans (colon ▸ List.dropWhile_suffix isSchemeChar)
      · cases taken
    · cases taken

end PracticeClient.Url
