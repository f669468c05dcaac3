import PracticeClient.Proofs.Json.Numerals
import PracticeClient.Proofs.Json.Quotation

namespace PracticeClient.Json

open Grammar

/-! ## Gaps -/

theorem skipGap_append {gap : List Char} (blank : Blank gap) {c : Char} (solid : isGap c = false)
    (rest : List Char) (position : Nat) :
    (Cursor.mk (gap ++ c :: rest) position).skipGap = ⟨c :: rest, position + gap.length⟩ := by
  have taken : (gap ++ c :: rest).takeWhile isGap = gap := by
    rw [List.takeWhile_append_of_pos blank, List.takeWhile_cons_of_neg (by simp [solid]),
      List.append_nil]
  have dropped : (gap ++ c :: rest).dropWhile isGap = c :: rest := by
    rw [List.dropWhile_append_of_pos blank, List.dropWhile_cons_of_neg (by simp [solid])]
  rw [Cursor.skipGap, taken, dropped]

theorem skipGap_end {gap : List Char} (blank : Blank gap) (position : Nat) :
    (Cursor.mk gap position).skipGap.rest = [] := by
  have dropped := @List.dropWhile_append_of_pos _ isGap gap [] blank
  rwa [List.append_nil] at dropped

theorem isNumeric_of_isGap {c : Char} (gap : isGap c = true) : isNumeric c = false := by
  simp only [isGap, Bool.or_eq_true, beq_iff_eq] at gap
  rcases gap with ((rfl | rfl) | rfl) | rfl <;> decide

theorem endsNumeral_append {gap : List Char} (blank : Blank gap) {c : Char}
    (other : isNumeric c = false) (rest : List Char) : EndsNumeral (gap ++ c :: rest) := by
  cases gap with
  | nil => exact endsNumeral_cons other rest
  | cons first gap => exact endsNumeral_cons (isNumeric_of_isGap (blank _ List.mem_cons_self)) _

structure Delimits (c : Char) : Prop where
  solid : isGap c = false
  other : isNumeric c = false

theorem delimits_comma : Delimits ',' := ⟨rfl, rfl⟩

theorem delimits_bracket : Delimits ']' := ⟨rfl, rfl⟩

theorem delimits_brace : Delimits '\x7d' := ⟨rfl, rfl⟩

/-! ## Where trees come from -/

structure Quotation.Of (quotation : Quotation) (content : List Char) : Prop where
  skips : quotation.skip = .ok ()
  read : ∃ tail position stop,
    readQuotation ⟨content ++ '"' :: tail, position⟩ = (quotation, ⟨tail, stop⟩)

structure Tree.Of (tree : Tree) (text : List Char) : Prop where
  skips : tree.skip = .ok ()
  read : ∃ fuel tail position stop, 2 * text.length ≤ fuel + 2 ∧ EndsNumeral tail ∧
    readTree (fuel + 1) ⟨text ++ tail, position⟩ = (tree, ⟨tail, stop⟩)

inductive Members.Of : Members → List Entry → Prop
  | close (stop : Nat) : Of (.close stop) []
  | member {key : Quotation} {name : List Char} {tree : Tree} {value : List Char}
    {members : Members} {entries : List Entry} (opening after : Nat) (named : key.Of name)
    (real : tree.Of value) (rest : Of members entries) :
    Of (.member opening key after tree members) ((name, value) :: entries)

theorem Members.Of.skips {members : Members} {entries : List Entry} (of : members.Of entries) :
    members.skip = .ok () := by
  induction of with
  | close stop => rfl
  | member opening after named real rest ih =>
    rw [Members.skip, named.skips, real.skips, ih]
    rfl

/-! ## Reading by the grammar -/

structure ReadsItem (value text : List Char) (fuel : Nat) (c : Char) (tail : List Char)
    (start : Cursor) (tree : Tree) : Prop where
  begins : ∃ first rest, start.rest = first :: rest ∧ first ≠ ']'
  reads : ∃ next stop, readTree (fuel + 1) start = (tree, next) ∧
    next.skipGap = ⟨c :: tail, stop⟩
  real : tree.Of value

structure ReadsMember (entry : Entry) (fuel : Nat) (c : Char) (tail : List Char) (start : Cursor)
    (key : Quotation) (after : Nat) (tree : Tree) : Prop where
  reads : ∃ name next item last stop, start.rest = '"' :: name ∧
    readQuotation ⟨name, start.position + 1⟩ = (key, next) ∧
    next.skipGap = ⟨':' :: item, after⟩ ∧
    readTree (fuel + 1) (Cursor.mk item (after + 1)).skipGap = (tree, last) ∧
    last.skipGap = ⟨c :: tail, stop⟩
  named : key.Of entry.1
  real : tree.Of entry.2

def Reads : Symbol → List Char → Prop
  | .value, text => (∃ first rest, text = first :: rest ∧ isGap first = false ∧ first ≠ ']') ∧
    ∀ fuel tail position, 2 * text.length ≤ fuel + 2 → EndsNumeral tail →
      ∃ tree stop, readTree (fuel + 1) ⟨text ++ tail, position⟩ = (tree, ⟨tail, stop⟩) ∧
        tree.skip = .ok ()
  | .item value, text => text ≠ [] ∧
    ∀ fuel c tail position, 2 * text.length ≤ fuel + 2 → Delimits c →
      ∃ tree, ReadsItem value text fuel c tail (Cursor.mk (text ++ c :: tail) position).skipGap tree
  | .items [], text => Blank text
  | .items (_ :: _), text => ∀ fuel tail position, 2 * text.length ≤ fuel →
    let start := (Cursor.mk (text ++ ']' :: tail) position).skipGap
    (∃ first rest, start.rest = first :: rest ∧ first ≠ ']') ∧
      ∃ items stop, readItems fuel start = (items, ⟨tail, stop⟩) ∧ items.skip = .ok ()
  | .member entry, text => text ≠ [] ∧
    ∀ fuel c tail position, 2 * text.length ≤ fuel + 2 → Delimits c →
      ∃ key after tree,
        ReadsMember entry fuel c tail (Cursor.mk (text ++ c :: tail) position).skipGap key after tree
  | .members [], text => Blank text
  | .members (entry :: entries), text => ∀ fuel opening tail position, 2 * text.length ≤ fuel →
    let start := (Cursor.mk (text ++ '\x7d' :: tail) position).skipGap
    (∃ rest, start.rest = '"' :: rest) ∧
      ∃ members stop, readMembers fuel opening start = (members, ⟨tail, stop⟩) ∧
        members.Of (entry :: entries)

/-! ## Values -/

theorem exists_parts {text : List Char} (numeral : IsNumeral text) :
    ∃ negative whole fraction power, IsWhole whole ∧ IsFraction fraction ∧ IsPower power ∧
      text = signed negative (whole ++ (fraction ++ power)) := by
  cases numeral with
  | positive unsigned =>
    cases unsigned with
    | parts first second third => exact ⟨false, _, _, _, first, second, third, rfl⟩
  | negative unsigned =>
    cases unsigned with
    | parts first second third => exact ⟨true, _, _, _, first, second, third, rfl⟩

theorem signed_append (negative : Bool) (text tail : List Char) :
    signed negative text ++ tail = signed negative (text ++ tail) := by
  cases negative <;> rfl

theorem digit_unlike {c : Char} (digit : c.isDigit = true) :
    c ≠ 'n' ∧ c ≠ 't' ∧ c ≠ 'f' ∧ c ≠ '"' ∧ c ≠ '[' ∧ c ≠ '\x7b' ∧ isGap c = false := by
  refine ⟨?_, ?_, ?_, ?_, ?_, ?_, ?_⟩
  any_goals
    rintro rfl
    exact absurd digit (by decide)
  cases gap : isGap c with
  | false => rfl
  | true =>
    have other := isNumeric_of_isGap gap
    simp [isNumeric, digit] at other

theorem readTree_digit {c : Char} (digit : c.isDigit = true) (fuel : Nat) (rest : List Char)
    (position : Nat) : readTree (fuel + 1) ⟨c :: rest, position⟩ =
      (.number (readNumeral ⟨c :: rest, position⟩).1, (readNumeral ⟨c :: rest, position⟩).2) := by
  obtain ⟨n, t, f, quote, bracket, brace, -⟩ := digit_unlike digit
  rw [readTree]
  split <;> simp_all

theorem readTree_minus (fuel : Nat) (rest : List Char) (position : Nat) :
    readTree (fuel + 1) ⟨'-' :: rest, position⟩ =
      (.number (readNumeral ⟨'-' :: rest, position⟩).1,
        (readNumeral ⟨'-' :: rest, position⟩).2) := rfl

theorem reads_number {text : List Char} (numeral : IsNumeral text) : Reads .value text := by
  obtain ⟨negative, whole, fraction, power, first, second, third, rfl⟩ := exists_parts numeral
  obtain ⟨c, rest, begun, digit⟩ : ∃ c rest, whole = c :: rest ∧ c.isDigit = true := by
    obtain ⟨filled, all⟩ := isDigit_of_isWhole first
    obtain ⟨c, rest, rfl⟩ := List.exists_cons_of_ne_nil filled
    exact ⟨c, rest, rfl, all c List.mem_cons_self⟩
  constructor
  · cases negative with
    | true => exact ⟨'-', _, rfl, rfl, by decide⟩
    | false =>
      refine ⟨c, rest ++ (fraction ++ power), by rw [begun]; rfl, (digit_unlike digit).2.2.2.2.2.2, ?_⟩
      rintro rfl
      exact absurd digit (by decide)
  · intro fuel tail position _ ends
    obtain ⟨digits, written, stop, read, -, -⟩ :=
      readNumeral_parts first second third negative ends position
    refine ⟨.number ⟨negative, whole.map digitValue, digits, written, position, stop, none⟩, stop,
      ?_, rfl⟩
    rw [signed_append, List.append_assoc, List.append_assoc]
    cases negative with
    | true =>
      simp only [signed] at read ⊢
      rw [readTree_minus, read]
    | false =>
      simp only [signed, begun, List.cons_append] at read ⊢
      rw [readTree_digit digit, read]

theorem reads_string {content : List Char} (quoted : IsQuoted content) :
    Reads .value ('"' :: (content ++ ['"'])) := by
  refine ⟨⟨'"', _, rfl, rfl, by decide⟩, ?_⟩
  intro fuel tail position _ _
  obtain ⟨pieces, stop, read⟩ := readPieces_quoted quoted (position + 1) tail
  refine ⟨.string ⟨position + 1 - 1, pieces, .quote stop⟩, stop, ?_, rfl⟩
  simp only [List.cons_append, List.append_assoc, List.nil_append, readTree, readQuotation, read]

theorem reads_array {values : List (List Char)} {inside : List Char}
    (reads : Reads (.items values) inside) : Reads .value ('[' :: (inside ++ [']'])) := by
  refine ⟨⟨'[', _, rfl, rfl, by decide⟩, ?_⟩
  intro fuel tail position enough _
  cases values with
  | nil =>
    have blank : Blank inside := reads
    have skipped := skipGap_append blank (show isGap ']' = false from rfl) tail (position + 1)
    refine ⟨.array position (.close (position + 1 + inside.length + 1)),
      position + 1 + inside.length + 1, ?_, rfl⟩
    simp only [List.cons_append, List.append_assoc, List.nil_append, readTree, skipped]
  | cons value values =>
    -- Each level of nesting takes two units of fuel, and at least one character.
    have less : 2 * inside.length ≤ fuel := by
      simp only [List.length_cons, List.length_append, List.length_nil] at enough
      omega
    obtain ⟨⟨first, rest, begins, more⟩, items, stop, read, skips⟩ :=
      reads fuel tail (position + 1) less
    refine ⟨.array position items, stop, ?_, skips⟩
    simp only [List.cons_append, List.append_assoc, List.nil_append, readTree]
    generalize (Cursor.mk (inside ++ ']' :: tail) (position + 1)).skipGap = start at begins read ⊢
    split
    · next none => cases none.symm.trans begins
    · next closed =>
      cases closed.symm.trans begins
      exact absurd rfl more
    · rw [read]

theorem readTree_object {entries : List Entry} {inside : List Char}
    (reads : Reads (.members entries) inside) {fuel : Nat} (enough : 2 * inside.length ≤ fuel)
    (tail : List Char) (position : Nat) :
    ∃ members stop, readTree (fuel + 1) ⟨'\x7b' :: (inside ++ '\x7d' :: tail), position⟩ =
      (.object position members, ⟨tail, stop⟩) ∧ members.Of entries := by
  cases entries with
  | nil =>
    have blank : Blank inside := reads
    have skipped := skipGap_append blank delimits_brace.solid tail (position + 1)
    refine ⟨.close (position + 1 + inside.length + 1), position + 1 + inside.length + 1, ?_,
      .close _⟩
    simp only [readTree, skipped]
  | cons entry entries =>
    obtain ⟨⟨rest, begins⟩, members, stop, read, of⟩ :=
      reads fuel (position + 1) tail (position + 1) enough
    refine ⟨members, stop, ?_, of⟩
    simp only [readTree]
    generalize (Cursor.mk (inside ++ '\x7d' :: tail) (position + 1)).skipGap = start
      at begins read ⊢
    split
    · next none => cases none.symm.trans begins
    · next closed => cases closed.symm.trans begins
    · rw [read]

theorem reads_object {entries : List Entry} {inside : List Char}
    (reads : Reads (.members entries) inside) :
    Reads .value ('\x7b' :: (inside ++ ['\x7d'])) := by
  refine ⟨⟨'\x7b', _, rfl, rfl, by decide⟩, ?_⟩
  intro fuel tail position enough _
  have less : 2 * inside.length ≤ fuel := by
    simp only [List.length_cons, List.length_append, List.length_nil] at enough
    omega
  obtain ⟨members, stop, read, of⟩ := readTree_object reads less tail position
  refine ⟨.object position members, stop, ?_, of.skips⟩
  rw [List.cons_append, List.append_assoc]
  exact read

/-! ## Items and members -/

theorem reads_item {before value after : List Char} (blank : Blank before)
    (reads : Reads .value value) (blank' : Blank after) :
    Reads (.item value) (before ++ (value ++ after)) := by
  obtain ⟨⟨first, rest, begins, solid, more⟩, reads⟩ := reads
  refine ⟨by simp [begins], ?_⟩
  intro fuel c tail position enough delimits
  have less : 2 * value.length ≤ fuel + 2 := by
    simp only [List.length_append] at enough
    omega
  have ends := endsNumeral_append blank' delimits.other tail
  have start : (Cursor.mk (before ++ (value ++ after) ++ c :: tail) position).skipGap =
      ⟨value ++ (after ++ c :: tail), position + before.length⟩ := by
    rw [List.append_assoc, List.append_assoc, begins, List.cons_append]
    exact skipGap_append blank solid _ _
  obtain ⟨tree, stop, read, skips⟩ :=
    reads fuel (after ++ c :: tail) (position + before.length) less ends
  rw [start]
  refine ⟨tree, ⟨first, _, by rw [begins]; rfl, more⟩, ?_, skips, ?_⟩
  · exact ⟨_, _, read, skipGap_append blank' delimits.solid tail stop⟩
  · exact ⟨fuel, _, _, _, less, ends, read⟩

theorem reads_member {before name after value text : List Char} (blank : Blank before)
    (quoted : IsQuoted name) (blank' : Blank after) (reads : Reads (.item value) text) :
    Reads (.member (name, value)) (before ++ '"' :: (name ++ '"' :: (after ++ ':' :: text))) := by
  refine ⟨by simp, ?_⟩
  intro fuel c tail position enough delimits
  have less : 2 * text.length ≤ fuel + 2 := by
    simp only [List.length_append, List.length_cons] at enough
    omega
  have start : (Cursor.mk (before ++ '"' :: (name ++ '"' :: (after ++ ':' :: text)) ++ c :: tail)
      position).skipGap =
        ⟨'"' :: (name ++ '"' :: (after ++ ':' :: (text ++ c :: tail))), position + before.length⟩ := by
    simp only [List.append_assoc, List.cons_append]
    exact skipGap_append blank rfl _ _
  obtain ⟨pieces, stop, readName⟩ := readPieces_quoted quoted (position + before.length + 1)
    (after ++ ':' :: (text ++ c :: tail))
  have readKey : readQuotation ⟨name ++ '"' :: (after ++ ':' :: (text ++ c :: tail)),
      position + before.length + 1⟩ =
        (⟨position + before.length + 1 - 1, pieces, .quote stop⟩,
          ⟨after ++ ':' :: (text ++ c :: tail), stop⟩) := by
    rw [readQuotation, readName]
  obtain ⟨tree, item⟩ := reads.2 fuel c tail (stop + after.length + 1) less delimits
  obtain ⟨last, final, readValue, behind⟩ := item.reads
  rw [start]
  refine ⟨_, stop + after.length, tree, ?_, ⟨rfl, _, _, _, readKey⟩, item.real⟩
  exact ⟨_, _, _, last, final, rfl, readKey,
    skipGap_append blank' (show isGap ':' = false from rfl) _ stop, readValue, behind⟩

theorem reads_lastItem {value text : List Char} (reads : Reads (.item value) text) :
    Reads (.items [value]) text := by
  intro fuel tail position enough start
  have long := List.length_pos_iff.2 reads.1
  obtain ⟨fuel, rfl⟩ : ∃ less, fuel = less + 2 := ⟨fuel - 2, by omega⟩
  obtain ⟨tree, item⟩ := reads.2 fuel ']' tail position enough delimits_bracket
  obtain ⟨next, stop, read, behind⟩ := item.reads
  refine ⟨item.begins, .item tree (.close (stop + 1)), stop + 1, ?_, ?_⟩
  · rw [readItems]
    simp only [start, read, behind]
  · rw [Items.skip, item.real.skips]
    rfl

theorem reads_moreItems {value next text rest : List Char} {values : List (List Char)}
    (reads : Reads (.item value) text) (more : Reads (.items (next :: values)) rest) :
    Reads (.items (value :: next :: values)) (text ++ ',' :: rest) := by
  intro fuel tail position enough start
  have long := List.length_pos_iff.2 reads.1
  rw [List.length_append, List.length_cons] at enough
  obtain ⟨fuel, rfl⟩ : ∃ less, fuel = less + 2 := ⟨fuel - 2, by omega⟩
  obtain ⟨tree, item⟩ := reads.2 fuel ',' (rest ++ ']' :: tail) position (by omega) delimits_comma
  obtain ⟨after, stop, read, behind⟩ := item.reads
  obtain ⟨⟨first, rest', begins, open_⟩, items, final, readRest, skips⟩ :=
    more (fuel + 1) tail (stop + 1) (by omega)
  have same : text ++ ',' :: rest ++ ']' :: tail = text ++ ',' :: (rest ++ ']' :: tail) := by simp
  simp only [start, same]
  refine ⟨item.begins, .item tree items, final, ?_, ?_⟩
  · rw [readItems]
    simp only [read, behind]
    generalize (Cursor.mk (rest ++ ']' :: tail) (stop + 1)).skipGap = following
      at begins readRest ⊢
    -- A bracket here would be a comma too many, but an item begins with something else.
    split
    · next none => cases none.symm.trans begins
    · next closed =>
      cases closed.symm.trans begins
      exact absurd rfl open_
    · rw [readRest]
  · rw [Items.skip, item.real.skips, skips]
    rfl

theorem reads_lastMember {entry : Entry} {text : List Char} (reads : Reads (.member entry) text) :
    Reads (.members [entry]) text := by
  intro fuel opening tail position enough start
  have long := List.length_pos_iff.2 reads.1
  obtain ⟨fuel, rfl⟩ : ∃ less, fuel = less + 2 := ⟨fuel - 2, by omega⟩
  obtain ⟨key, after, tree, member⟩ := reads.2 fuel '\x7d' tail position enough delimits_brace
  obtain ⟨name, next, item, last, stop, begins, readKey, colon, readValue, behind⟩ := member.reads
  refine ⟨⟨name, begins⟩, .member opening key after tree (.close (stop + 1)), stop + 1, ?_,
    .member _ _ member.named member.real (.close _)⟩
  simp only [start]
  generalize (Cursor.mk (text ++ '\x7d' :: tail) position).skipGap = cursor at begins readKey ⊢
  obtain ⟨_, place⟩ := cursor
  subst begins
  rw [readMembers]
  simp only [readKey, colon, readValue, behind]

theorem reads_moreMembers {entry next : Entry} {text rest : List Char} {entries : List Entry}
    (reads : Reads (.member entry) text) (more : Reads (.members (next :: entries)) rest) :
    Reads (.members (entry :: next :: entries)) (text ++ ',' :: rest) := by
  intro fuel opening tail position enough start
  have long := List.length_pos_iff.2 reads.1
  rw [List.length_append, List.length_cons] at enough
  obtain ⟨fuel, rfl⟩ : ∃ less, fuel = less + 2 := ⟨fuel - 2, by omega⟩
  obtain ⟨key, after, tree, member⟩ :=
    reads.2 fuel ',' (rest ++ '\x7d' :: tail) position (by omega) delimits_comma
  obtain ⟨name, beyond, item, last, stop, begins, readKey, colon, readValue, behind⟩ := member.reads
  obtain ⟨⟨rest', quote⟩, members, final, readRest, of⟩ :=
    more (fuel + 1) (stop + 1) tail (stop + 1) (by omega)
  have same : text ++ ',' :: rest ++ '\x7d' :: tail = text ++ ',' :: (rest ++ '\x7d' :: tail) := by
    simp
  simp only [start, same]
  refine ⟨⟨name, begins⟩, .member opening key after tree members, final, ?_,
    .member _ _ member.named member.real of⟩
  generalize (Cursor.mk (text ++ ',' :: (rest ++ '\x7d' :: tail)) position).skipGap = cursor
    at begins readKey ⊢
  obtain ⟨_, place⟩ := cursor
  subst begins
  rw [readMembers]
  simp only [readKey, colon, readValue, behind]
  generalize (Cursor.mk (rest ++ '\x7d' :: tail) (stop + 1)).skipGap = following
    at quote readRest ⊢
  split
  · next none => cases none.symm.trans quote
  · next closed => cases closed.symm.trans quote
  · rw [readRest]

theorem reads_of_derives {symbol : Symbol} {text : List Char} (derives : Derives symbol text) :
    Reads symbol text := by
  induction derives with
  | null =>
    refine ⟨⟨'n', _, rfl, rfl, by decide⟩, fun fuel tail position _ _ => ?_⟩
    exact ⟨.null (position + 4), position + 4, by simp [readTree, wordTree, readWord], rfl⟩
  | true =>
    refine ⟨⟨'t', _, rfl, rfl, by decide⟩, fun fuel tail position _ _ => ?_⟩
    exact ⟨.bool true (position + 4), position + 4, by simp [readTree, wordTree, readWord], rfl⟩
  | false =>
    refine ⟨⟨'f', _, rfl, rfl, by decide⟩, fun fuel tail position _ _ => ?_⟩
    exact ⟨.bool false (position + 5), position + 5, by simp [readTree, wordTree, readWord], rfl⟩
  | number numeral => exact reads_number numeral
  | string quoted => exact reads_string quoted
  | array items ih => exact reads_array ih
  | object members ih => exact reads_object ih
  | item blank real blank' ih => exact reads_item blank ih blank'
  | noItems blank => exact blank
  | lastItem item ih => exact reads_lastItem ih
  | moreItems item more ih ihMore => exact reads_moreItems ih ihMore
  | member blank quoted blank' item ih => exact reads_member blank quoted blank' ih
  | noMembers blank => exact blank
  | lastMember member ih => exact reads_lastMember ih
  | moreMembers member more ih ihMore => exact reads_moreMembers ih ihMore

/-! ## Whole texts -/

theorem ofText_of_isObject {text : String} {entries : List Entry}
    (object : IsObject text.toList entries) :
    ∃ start members, Document.ofText text = ⟨.object start members, none⟩ ∧
      members.Of entries := by
  generalize characters : text.toList = list at object
  cases object with
  | @object before inside after _ blank derives blank' =>
    have skipped := skipGap_append blank (show isGap '\x7b' = false from rfl)
      (inside ++ '\x7d' :: after) 0
    have enough : 2 * inside.length ≤ 2 * text.toList.length + 1 := by
      simp only [characters, List.length_append, List.length_cons]
      omega
    obtain ⟨members, stop, read, of⟩ :=
      readTree_object (reads_of_derives derives) enough after (0 + before.length)
    refine ⟨0 + before.length, members, ?_, of⟩
    rw [← characters] at skipped
    rw [Document.ofText]
    simp only [skipped, read, skipGap_end blank', List.isEmpty_nil, if_true]

end PracticeClient.Json
