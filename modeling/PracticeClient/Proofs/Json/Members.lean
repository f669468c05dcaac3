import PracticeClient.Proofs.Json.Acceptance

namespace PracticeClient.Json

open Grammar

inductive Value.IsLeaf : Value → Prop
  | null : IsLeaf .null
  | natural {number : Nat} (small : number ≤ Numeral.greatestWord) :
    IsLeaf (.number (.integer number))
  | string (text : String) : IsLeaf (.string text)

inductive Tree.Spells : Tree → Value → Prop
  | null (stop : Nat) : Spells (.null stop) .null
  | number {numeral : Numeral} {number : Number} (read : numeral.number = .ok number) :
    Spells (.number numeral) (.number number)
  | string {quotation : Quotation} {text : String} (read : quotation.text = .ok text) :
    Spells (.string quotation) (.string text)

inductive Members.Spell : Members → List (String × Value) → Prop
  | close (stop : Nat) : Spell (.close stop) []
  | member {key : Quotation} {name : String} {tree : Tree} {value : Value} {members : Members}
    {entries : List (String × Value)} (opening after : Nat) (read : key.text = .ok name)
    (spells : tree.Spells value) (rest : Spell members entries) :
    Spell (.member opening key after tree members) ((name, value) :: entries)

theorem Tree.Spells.value {tree : Tree} {value : Value} (spells : tree.Spells value)
    (depth : Nat) : tree.value depth = .ok value := by
  cases spells with
  | null => rfl
  | number read => rw [Tree.value, read]; rfl
  | string read => rw [Tree.value, read]; rfl

theorem Members.Spell.values {members : Members} {entries : List (String × Value)}
    (spell : members.Spell entries) (depth : Nat) : members.values depth = .ok entries := by
  induction spell with
  | close stop => rfl
  | member opening after read spells rest ih =>
    rw [Members.values, read, spells.value, ih]
    rfl

theorem Members.Spell.value {members : Members} {entries : List (String × Value)}
    (spell : members.Spell entries) (start : Nat) :
    (Tree.object start members).value greatestDepth = .ok (.ofMembers entries) := by
  change (members.values 126).map Value.ofMembers = _
  rw [spell.values]
  rfl

/-! ## What a spelling stands for -/

section

variable {content : List Char} {text : String}

theorem Quotation.Of.means {quotation : Quotation} (of : quotation.Of content)
    (means : Means content text.toList) : quotation.text = .ok text := by
  obtain ⟨tail, position, stop, read⟩ := of.read
  obtain ⟨other, stop', read', same⟩ := readQuotation_means means position tail
  cases read.symm.trans read'
  exact same

variable {tree : Tree}

theorem Tree.Of.string (of : tree.Of ('"' :: (content ++ ['"'])))
    (means : Means content text.toList) : tree.Spells (.string text) := by
  obtain ⟨fuel, tail, position, stop, -, -, read⟩ := of.read
  obtain ⟨quotation, stop', readQuotation, same⟩ := readQuotation_means means (position + 1) tail
  rw [List.cons_append, List.append_assoc, List.singleton_append, readTree] at read
  simp only [readQuotation] at read
  cases read
  exact .string same

theorem Tree.Of.natural {number : Nat} (of : tree.Of (Nat.toDigits 10 number))
    (small : number ≤ Numeral.greatestWord) : tree.Spells (.number (.integer number)) := by
  obtain ⟨fuel, tail, position, stop, -, ends, read⟩ := of.read
  obtain ⟨numeral, stop', readNumeral, same⟩ := readNumeral_toDigits small ends position
  obtain ⟨first, rest, begun⟩ := List.exists_cons_of_ne_nil
    (Nat.toDigits_ne_nil : Nat.toDigits 10 number ≠ [])
  have digit : first.isDigit = true := isDigit_of_mem (begun ▸ List.mem_cons_self)
  rw [begun, List.cons_append] at read readNumeral
  rw [readTree_digit digit, readNumeral] at read
  cases read
  exact .number same

theorem Tree.Of.null (of : tree.Of ['n', 'u', 'l', 'l']) : tree.Spells .null := by
  obtain ⟨fuel, tail, position, stop, -, -, read⟩ := of.read
  simp only [List.cons_append, List.nil_append, readTree, wordTree, readWord, beq_self_eq_true,
    if_true] at read
  cases read
  exact .null _

theorem Tree.Of.object {entries : List Entry} {inside : List Char}
    (of : tree.Of ('\x7b' :: (inside ++ ['\x7d'])))
    (derives : Derives (.members entries) inside) :
    ∃ start members, tree = .object start members ∧ members.Of entries := by
  obtain ⟨fuel, tail, position, stop, enough, -, read⟩ := of.read
  have less : 2 * inside.length ≤ fuel := by
    simp only [List.length_cons, List.length_append, List.length_nil] at enough
    omega
  obtain ⟨members, stop', read', real⟩ :=
    readTree_object (reads_of_derives derives) less tail position
  rw [List.cons_append, List.append_assoc, List.singleton_append] at read
  cases read.symm.trans read'
  exact ⟨position, members, rfl, real⟩

end

/-! ## Values without parts -/

variable {value : Value}

theorem derives_leaf (leaf : value.IsLeaf) : Derives .value value.print := by
  cases leaf with
  | null => exact .null
  | @natural number small =>
    have numeral : IsNumeral (Nat.toDigits 10 number ++ ([] ++ [])) :=
      .positive (.parts (isWhole_toDigits number) .none .none)
    rw [List.append_nil, List.append_nil] at numeral
    exact .number numeral
  | string text => exact .string (means_escaped text.toList).isQuoted

theorem spells_leaf (leaf : value.IsLeaf) {tree : Tree} (of : tree.Of value.print) :
    tree.Spells value := by
  cases leaf with
  | null => exact of.null
  | natural small => exact of.natural small
  | string text => exact of.string (means_escaped text.toList)

/-! ## Members -/

/-- The blanks of an object: before a key, after a colon, and before the closing brace. -/
structure Layout where
  line : List Char
  space : List Char
  last : List Char
  line_blank : ∀ c ∈ line, isGap c = true
  space_blank : ∀ c ∈ space, isGap c = true
  last_blank : ∀ c ∈ last, isGap c = true

namespace Layout

def printMember (layout : Layout) (entry : String × Value) : List Char :=
  layout.line ++ (printString entry.1 ++ ':' :: (layout.space ++ entry.2.print))

def printRest (layout : Layout) : List (String × Value) → List Char
  | [] => layout.last ++ ['\x7d']
  | entry :: rest => ',' :: (layout.printMember entry ++ layout.printRest rest)

def print (layout : Layout) : List (String × Value) → List Char
  | [] => ['\x7b', '\x7d']
  | entry :: rest => '\x7b' :: (layout.printMember entry ++ layout.printRest rest)

end Layout

def spelled (entry : String × Value) : Entry :=
  (entry.1.toList.flatMap escapeChar, entry.2.print)

theorem spell_of_members {entries : List (String × Value)}
    (leaves : ∀ entry ∈ entries, entry.2.IsLeaf) {members : Members}
    (of : members.Of (entries.map spelled)) : members.Spell entries := by
  induction entries generalizing members with
  | nil =>
    cases of
    exact .close _
  | cons entry rest ih =>
    cases of with
    | member opening after named real more =>
      refine .member opening after (named.means (means_escaped entry.1.toList)) ?_ ?_
      · exact spells_leaf (leaves entry List.mem_cons_self) real
      · exact ih (fun entry member => leaves entry (List.mem_cons_of_mem _ member)) more

variable (layout : Layout)

theorem derives_member {entry : String × Value} (leaf : entry.2.IsLeaf) {gap : List Char}
    (blank : Blank gap) :
    Derives (.member (spelled entry)) (layout.printMember entry ++ gap) := by
  have printed : layout.printMember entry ++ gap =
      layout.line ++ '"' :: (entry.1.toList.flatMap escapeChar ++ '"' :: ([] ++ ':' ::
        (layout.space ++ (entry.2.print ++ gap)))) := by
    simp [Layout.printMember, printString]
  rw [printed]
  exact .member layout.line_blank (means_escaped _).isQuoted nofun
    (.item layout.space_blank (derives_leaf leaf) blank)

theorem derives_members (entry : String × Value) (rest : List (String × Value))
    (leaves : ∀ member ∈ entry :: rest, member.2.IsLeaf) :
    ∃ inside, layout.printMember entry ++ layout.printRest rest = inside ++ ['\x7d'] ∧
      Derives (.members ((entry :: rest).map spelled)) inside := by
  induction rest generalizing entry with
  | nil =>
    refine ⟨layout.printMember entry ++ layout.last, ?_, .lastMember ?_⟩
    · rw [Layout.printRest, List.append_assoc]
    · exact derives_member layout (leaves entry List.mem_cons_self) layout.last_blank
  | cons next rest ih =>
    obtain ⟨inside, printed, derives⟩ := ih next fun member there =>
      leaves member (List.mem_cons_of_mem _ there)
    refine ⟨layout.printMember entry ++ ',' :: inside, ?_, .moreMembers ?_ derives⟩
    · rw [Layout.printRest, printed]
      simp
    · have first := derives_member layout (leaves entry List.mem_cons_self) (nofun : Blank [])
      rwa [List.append_nil] at first

/-! ## Whole texts -/

theorem isObject_print {entries : List (String × Value)}
    (leaves : ∀ entry ∈ entries, entry.2.IsLeaf) :
    IsObject (layout.print entries) (entries.map spelled) := by
  have whole {inside : List Char} {spellings : List Entry}
      (derives : Derives (.members spellings) inside) :
      IsObject ('\x7b' :: (inside ++ ['\x7d'])) spellings :=
    .object (nofun : Blank []) derives (nofun : Blank [])
  cases entries with
  | nil => exact whole (.noMembers (nofun : Blank []))
  | cons entry rest =>
    obtain ⟨inside, printed, derives⟩ := derives_members layout entry rest leaves
    rw [Layout.print, printed]
    exact whole derives

theorem ofText_printed {entries : List (String × Value)}
    (leaves : ∀ entry ∈ entries, entry.2.IsLeaf) :
    ∃ start members, Document.ofText (String.ofList (layout.print entries)) =
      ⟨.object start members, none⟩ ∧ members.Spell entries := by
  have object : IsObject (String.ofList (layout.print entries)).toList (entries.map spelled) := by
    rw [String.toList_ofList]
    exact isObject_print layout leaves
  obtain ⟨start, members, read, of⟩ := ofText_of_isObject object
  exact ⟨start, members, read, spell_of_members leaves of⟩

theorem decode_of_ofText {α : Type} {text : String} {tree : Tree}
    (document : Document.ofText text = ⟨tree, none⟩) (read : Tree → Except Fault α) :
    decode read text = read tree := by
  rw [decode, document]
  cases read tree <;> rfl

theorem readMembers_known {δ : Type} {format : RecordFormat δ} {field : Field δ} {key : Quotation}
    {draft : δ} (opening after : Nat) (tree : Tree) (rest : Members)
    (named : key.text = .ok field.name)
    (known : format.fields.find? (fun other => other.name == field.name) = some field)
    (fresh : field.isSet draft = false) :
    format.readMembers (.member opening key after tree rest) draft =
      field.read tree draft >>= format.readMembers rest := by
  rw [RecordFormat.readMembers, named]
  simp only [bind, Except.bind, known, fresh, Bool.false_eq_true, if_false]

theorem readMembers_field {δ : Type} {format : RecordFormat δ} {field : Field δ}
    {key : Quotation} {draft draft' : δ} {tree : Tree} {rest : Members} (opening after : Nat)
    (named : key.text = .ok field.name)
    (known : format.fields.find? (fun other => other.name == field.name) = some field)
    (fresh : field.isSet draft = false) (read : field.read tree draft = .ok draft') :
    format.readMembers (.member opening key after tree rest) draft =
      format.readMembers rest draft' := by
  rw [readMembers_known opening after tree rest named known fresh, read]
  rfl

theorem readMembers_unknown {δ : Type} {format : RecordFormat δ} {key : Quotation} {name : String}
    {tree : Tree} (rest : Members) (draft : δ) (opening after : Nat) (named : key.text = .ok name)
    (unknown : format.fields.find? (fun field => field.name == name) = none)
    (skips : tree.skip = .ok ()) :
    format.readMembers (.member opening key after tree rest) draft =
      format.readMembers rest draft := by
  rw [RecordFormat.readMembers, named]
  simp only [bind, Except.bind, unknown, skips]

/-! ## The compact form -/

def Layout.compact : Layout where
  line := []
  space := []
  last := []
  line_blank := List.forall_mem_nil _
  space_blank := List.forall_mem_nil _
  last_blank := List.forall_mem_nil _

theorem printMembers_eq (entries : List (String × Value)) :
    Value.printMembers entries = Layout.compact.printRest entries := by
  induction entries with
  | nil => rfl
  | cons entry rest ih =>
    rw [Value.printMembers, ih]
    simp [Layout.printRest, Layout.printMember, Layout.compact]

theorem compact_eq_ofList (entries : List (String × Value)) :
    (Value.object entries).compact = String.ofList (Layout.compact.print entries) := by
  rw [Value.compact]
  congr 1
  cases entries with
  | nil => rfl
  | cons entry rest =>
    rw [Value.print, printMembers_eq]
    simp [Layout.print, Layout.printMember, Layout.compact]

theorem document_of_compact {entries : List (String × Value)}
    (leaves : ∀ entry ∈ entries, entry.2.IsLeaf) :
    ∃ start members, Document.ofText (Value.object entries).compact =
      ⟨.object start members, none⟩ ∧ members.Spell entries := by
  rw [compact_eq_ofList]
  exact ofText_printed .compact leaves

theorem parse_compact {entries : List (String × Value)}
    (leaves : ∀ entry ∈ entries, entry.2.IsLeaf) :
    parse (Value.object entries).compact = .ok (.ofMembers entries) := by
  obtain ⟨start, members, document, spell⟩ := document_of_compact leaves
  rw [parse, decode_of_ofText document, spell.value]

/-! ## The indented form -/

theorem isGap_of_mem_indent {depth : Nat} {c : Char} (member : c ∈ Value.indent depth) :
    isGap c = true := by
  rw [Value.indent, List.mem_cons] at member
  rcases member with rfl | member
  · rfl
  · rw [List.eq_of_mem_replicate member]
    rfl

def Layout.indented (depth : Nat) : Layout where
  line := Value.indent (depth + 1)
  space := [' ']
  last := Value.indent depth
  line_blank _ := isGap_of_mem_indent
  space_blank _ member := by
    rw [List.mem_singleton.1 member]
    rfl
  last_blank _ := isGap_of_mem_indent

theorem printIndented_leaf (leaf : value.IsLeaf) (depth : Nat) :
    value.printIndented depth = value.print := by
  cases leaf <;> simp only [Value.printIndented, Value.print]

theorem printIndentedMembers_eq (depth : Nat) {entries : List (String × Value)}
    (leaves : ∀ entry ∈ entries, entry.2.IsLeaf) :
    Value.printIndentedMembers depth entries = (Layout.indented depth).printRest entries := by
  induction entries with
  | nil => rfl
  | cons entry rest ih =>
    rw [Value.printIndentedMembers, printIndented_leaf (leaves entry List.mem_cons_self),
      ih fun entry member => leaves entry (List.mem_cons_of_mem _ member)]
    simp [Layout.printRest, Layout.printMember, Layout.indented]

theorem pretty_eq_ofList {entries : List (String × Value)}
    (leaves : ∀ entry ∈ entries, entry.2.IsLeaf) :
    (Value.object entries).pretty = String.ofList ((Layout.indented 0).print entries) := by
  rw [Value.pretty]
  congr 1
  cases entries with
  | nil => rfl
  | cons entry rest =>
    rw [Value.printIndented, printIndented_leaf (leaves entry List.mem_cons_self),
      printIndentedMembers_eq 0 fun entry member => leaves entry (List.mem_cons_of_mem _ member)]
    simp [Layout.print, Layout.printMember, Layout.indented]

end PracticeClient.Json
