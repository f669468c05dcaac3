import Mathlib.Data.List.Forall2
import PracticeClient.Proofs.Json.Members
import PracticeClient.Proofs.Json.ObjectsOfTexts
import PracticeClient.Proofs.Json.Soundness

namespace PracticeClient.Json

open Grammar

/-! ## A name -/

theorem Spelled.means {ending : Ending} {pieces : List Piece} {content characters : List Char}
    (spelled : Spelled pieces content) (decoded : decodePieces ending pieces = .ok characters) :
    Means content characters := by
  fun_induction decodePieces ending pieces generalizing content characters with
  | case1 =>
    cases spelled
    cases decoded
    exact .nil
  | case2 | case5 | case7 | case8 | case9 | case10 | case11 => cases decoded
  | case3 c rest ih =>
    obtain ⟨others, read, rfl⟩ := ok_of_map decoded
    cases spelled with
    | plain quote backslash printable more =>
      exact .plain quote backslash printable (ih more read)
  | case4 c rest ih =>
    obtain ⟨others, read, rfl⟩ := ok_of_map decoded
    cases spelled with
    | escape known more =>
      rw [known]
      exact .escape known (ih more read)
  | case6 unit stop notLow high low stop' rest isLow ih =>
    obtain ⟨others, read, rfl⟩ := ok_of_map decoded
    cases spelled with
    | unit digits _ more =>
      cases more with
      | unit digits' _ more => exact .pair digits digits' high isLow (ih more read)
  | case12 unit stop rest notLow notHigh ih =>
    obtain ⟨others, read, rfl⟩ := ok_of_map decoded
    cases spelled with
    | unit digits _ more =>
      exact .unit digits (Bool.eq_false_iff.2 notLow) (Bool.eq_false_iff.2 notHigh) (ih more read)

theorem means_iff {quotation : Quotation} {content : List Char} (of : quotation.Of content)
    {text : String} : Means content text.toList ↔ quotation.text = .ok text := by
  constructor
  · exact of.means
  · intro decoded
    obtain ⟨characters, read', rfl⟩ := ok_of_map decoded
    obtain ⟨stop, closed⟩ := quote_of_decodePieces read'
    obtain ⟨tail, position, stop', read⟩ := of.read
    have spelled := @spelled_readPieces position (content ++ '"' :: tail) stop
    unfold readQuotation at read
    dsimp only at read
    generalize readPieces position (content ++ '"' :: tail) = pieces at read spelled
    obtain ⟨pieces, ending, rest⟩ := pieces
    cases read
    obtain ⟨content', spelled, same⟩ := spelled closed
    cases List.append_cancel_right same
    rw [String.toList_ofList]
    exact spelled.means read'

/-! ## All names -/

abbrev Named (entry : Entry) (member : String × Value) : Prop :=
  ∀ name : String, Means entry.1 name.toList ↔ member.1 = name

theorem named_of_members {members : Members} {entries : List Entry} (of : members.Of entries)
    {depth : Nat} {values : List (String × Value)} (decoded : members.values depth = .ok values) :
    List.Forall₂ Named entries values := by
  induction of generalizing values with
  | close stop =>
    cases decoded
    exact .nil
  | member opening after named real rest ih =>
    obtain ⟨name, read, decoded⟩ := ok_of_bind decoded
    obtain ⟨value, -, decoded⟩ := ok_of_bind decoded
    obtain ⟨others, more, last⟩ := ok_of_bind decoded
    cases last
    refine .cons (fun other => ?_) (ih more)
    rw [means_iff named, read, Except.ok.injEq]

/-! ## Objects -/

theorem not_isNumeral_brace (rest : List Char) : ¬IsNumeral ('\x7b' :: rest) := by
  intro numeral
  obtain ⟨negative, whole, fraction, power, first, -, -, same⟩ := exists_parts numeral
  obtain ⟨filled, digits⟩ := isDigit_of_isWhole first
  obtain ⟨c, whole, rfl⟩ := List.exists_cons_of_ne_nil filled
  cases negative with
  | true => cases same
  | false =>
    cases same
    exact absurd (digits _ List.mem_cons_self) (by decide)

theorem isObject_of_ofText {text : String} {start : Nat} {members : Members}
    (document : Document.ofText text = ⟨.object start members, none⟩)
    (skips : members.skip = .ok ()) : ∃ entries, IsObject text.toList entries := by
  have is : IsText text.toList := by
    rw [← skips_iff, document]
    exact ⟨skips, rfl⟩
  have brace := head?_of_object (show readTree (2 * text.toList.length + 2)
    (Cursor.mk text.toList 0).skipGap = (.object start members, _) from
      Prod.ext (congrArg Document.tree document) rfl)
  generalize text.toList = characters at is brace
  cases is with
  | @value before value after blank derives blank' =>
    obtain ⟨⟨first, rest, rfl, solid, -⟩, -⟩ := reads_of_derives derives
    rw [List.cons_append, skipGap_append blank solid] at brace
    cases brace
    cases derives with
    | number numeral => exact (not_isNumeral_brace rest numeral).elim
    | object members =>
      rw [List.cons_append, List.append_assoc]
      exact ⟨_, .object blank members blank'⟩

/-! ## Names that occur once -/

/-- No two members of a text that is an object have a name, however they spell it. -/
def NamedOnce (name text : String) : Prop :=
  ∀ entries, IsObject text.toList entries → entries.Pairwise fun entry other =>
    ¬(Means entry.1 name.toList ∧ Means other.1 name.toList)

def Members.names : Members → List String
  | .member _ key _ _ rest => key.text.toOption.toList ++ rest.names
  | _ => []

def Tree.names : Tree → List String
  | .object _ members => members.names
  | _ => []

theorem Members.names_of_values (members : Members) {depth : Nat} {values : List (String × Value)}
    (decoded : members.values depth = .ok values) : members.names = values.map Prod.fst := by
  cases members with
  | close stop =>
    cases decoded
    rfl
  | member opening key after value rest =>
    obtain ⟨name, read, decoded⟩ := ok_of_bind decoded
    obtain ⟨value, -, decoded⟩ := ok_of_bind decoded
    obtain ⟨others, more, last⟩ := ok_of_bind decoded
    cases last
    rw [Members.names, read, rest.names_of_values more]
    rfl
  | noKey | broken => cases decoded

section

variable {entries : List Entry} {values : List (String × Value)}
  (named : List.Forall₂ Named entries values) (name : String)

include named

theorem exists_means_iff :
    (∃ entry ∈ entries, Means entry.1 name.toList) ↔ name ∈ values.map Prod.fst := by
  induction named with
  | nil => simp
  | cons first rest ih => simp [← ih, first name, eq_comm]

theorem pairwise_iff :
    (entries.Pairwise fun entry other => ¬(Means entry.1 name.toList ∧ Means other.1 name.toList)) ↔
      (values.map Prod.fst).count name ≤ 1 := by
  induction named with
  | nil => simp
  | @cons entry value entries values first rest ih =>
    have later := exists_means_iff rest name
    rw [List.pairwise_cons, ih, List.map_cons, List.count_cons]
    by_cases here : value.1 = name
    · have none : (∀ other ∈ entries, ¬(Means entry.1 name.toList ∧ Means other.1 name.toList)) ↔
          (values.map Prod.fst).count name = 0 := by
        rw [List.count_eq_zero, ← later]
        simp [(first name).2 here]
      rw [none]
      simp only [here, beq_self_eq_true, if_true]
      omega
    · have other : ¬Means entry.1 name.toList := fun means => here ((first name).1 means)
      simp [here, other]

end

theorem namedOnce_iff {text : String} {value : Value} (parsed : parse text = .ok value)
    (name : String) : NamedOnce name text ↔ (Document.ofText text).tree.names.count name ≤ 1 := by
  obtain ⟨tree, document, decoded⟩ := document_of_parse parsed
  have few {start : Nat} {members : Members} {entries : List Entry}
      (object : tree = .object start members) (of : members.Of entries) :
      (entries.Pairwise fun entry other =>
        ¬(Means entry.1 name.toList ∧ Means other.1 name.toList)) ↔ tree.names.count name ≤ 1 := by
    subst object
    obtain ⟨values, decoded, -⟩ := ok_of_map decoded
    rw [Tree.names, members.names_of_values decoded]
    exact pairwise_iff (named_of_members of decoded) name
  rw [document]
  constructor
  · intro once
    cases tree with
    | object start members =>
      obtain ⟨values, read, -⟩ := ok_of_map decoded
      obtain ⟨entries, object⟩ := isObject_of_ofText document (Members.skip_of_values members read)
      obtain ⟨start', members', document', of⟩ := ofText_of_isObject object
      cases document.symm.trans document'
      exact (few rfl of).1 (once entries object)
    | _ => exact Nat.zero_le 1
  · intro less entries object
    obtain ⟨start, members, document', of⟩ := ofText_of_isObject object
    cases document.symm.trans document'
    exact (few rfl of).2 less

end PracticeClient.Json
