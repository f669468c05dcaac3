import PracticeClient.Proofs.Json.Acceptance

namespace PracticeClient.Json

open Grammar

theorem blank_skipGap (cursor : Cursor) :
    ∃ gap, Blank gap ∧ cursor.rest = gap ++ cursor.skipGap.rest :=
  ⟨cursor.rest.takeWhile isGap, List.all_eq_true.1 List.all_takeWhile,
    List.takeWhile_append_dropWhile.symm⟩

/-! ## Numbers -/

theorem areDigits_takeDigits (cursor : Cursor) :
    ∃ digits, AreDigits digits ∧ (takeDigits cursor).1 = digits.map digitValue ∧
      cursor.rest = digits ++ (takeDigits cursor).2.rest :=
  ⟨cursor.rest.takeWhile Char.isDigit, List.all_eq_true.1 List.all_takeWhile, rfl,
    List.takeWhile_append_dropWhile.symm⟩

theorem isWhole_of_wholeBreak {digits : List Char} (all : AreDigits digits) {start next : Cursor}
    (unbroken : wholeBreak (digits.map digitValue) start next = none) : IsWhole digits := by
  cases digits with
  | nil => cases unbroken
  | cons first rest =>
    by_cases zero : first = '0'
    · subst zero
      cases rest with
      | nil => exact .zero
      | cons second rest => cases unbroken
    · exact .positive zero all

theorem isFraction_readFraction (cursor : Cursor) (unbroken : (readFraction cursor).2.1 = none) :
    ∃ text, IsFraction text ∧ cursor.rest = text ++ (readFraction cursor).2.2.rest := by
  unfold readFraction at unbroken ⊢
  split
  · next rest point =>
    rw [point] at unbroken
    obtain ⟨digits, all, values, same⟩ := areDigits_takeDigits ⟨rest, cursor.position + 1⟩
    refine ⟨'.' :: digits, .point ?_ all, ?_⟩
    · rintro rfl
      simp [values] at unbroken
    · rw [point, List.cons_append, ← same]
  · exact ⟨[], .none, rfl⟩

theorem isSign_readSign (cursor : Cursor) :
    ∃ sign, IsSign sign ∧ cursor.rest = sign ++ (readSign cursor).2.rest := by
  unfold readSign
  split
  · next minus => exact ⟨['-'], .minus, minus⟩
  · next plus => exact ⟨['+'], .plus, plus⟩
  · exact ⟨[], .none, rfl⟩

theorem isPower_readPower (cursor : Cursor) (unbroken : (readPower cursor).2.1 = none) :
    ∃ text, IsPower text ∧ cursor.rest = text ++ (readPower cursor).2.2.rest := by
  obtain ⟨characters, position⟩ := cursor
  cases characters with
  | nil => exact ⟨[], .none, rfl⟩
  | cons letter rest =>
    rw [readPower] at unbroken ⊢
    by_cases known : (letter == 'e' || letter == 'E') = true
    · simp only [known, if_true] at unbroken ⊢
      obtain ⟨sign, signed, begun⟩ := isSign_readSign ⟨rest, position + 1⟩
      obtain ⟨digits, all, values, same⟩ :=
        areDigits_takeDigits (readSign ⟨rest, position + 1⟩).2
      refine ⟨letter :: (sign ++ digits), .power (by simpa using known) signed ?_ all, ?_⟩
      · rintro rfl
        simp [values] at unbroken
      · rw [List.cons_append, List.append_assoc, ← same, ← begun]
    · simp only [known]
      exact ⟨[], .none, rfl⟩

theorem signed_unsigned (cursor : Cursor) :
    let negative := cursor.rest.head? == some '-'
    cursor.rest = signed negative
      (if negative then (⟨cursor.rest.drop 1, cursor.position + 1⟩ : Cursor) else cursor).rest := by
  obtain ⟨characters, position⟩ := cursor
  cases characters with
  | nil => rfl
  | cons c rest => 
    by_cases minus : c = '-'
    · simp [minus, signed]
    · simp [beq_eq_false_iff_ne.2 minus, signed]

theorem isNumeral_signed {negative : Bool} {text : List Char} (unsigned : IsUnsigned text) :
    IsNumeral (signed negative text) := by
  cases negative with
  | false => exact .positive unsigned
  | true => exact .negative unsigned

theorem isNumeral_readNumeral (cursor : Cursor) (unbroken : (readNumeral cursor).1.broken = none) :
    ∃ text, IsNumeral text ∧ cursor.rest = text ++ (readNumeral cursor).2.rest := by
  have sign := signed_unsigned cursor
  revert unbroken
  unfold readNumeral
  dsimp only at sign ⊢
  -- The sign, the digits, the fraction and the power, each read from where the last one ended.
  generalize (cursor.rest.head? == some '-') = negative at sign ⊢
  generalize (if negative then (⟨cursor.rest.drop 1, cursor.position + 1⟩ : Cursor)
    else cursor) = unsigned at sign ⊢
  obtain ⟨digits, all, values, begun⟩ := areDigits_takeDigits unsigned
  rw [values]
  generalize (takeDigits unsigned).2 = next at begun ⊢
  split
  · exact nofun
  next solid =>
  have first : IsWhole digits := isWhole_of_wholeBreak all solid
  have fraction := isFraction_readFraction next
  generalize readFraction next = read at fraction ⊢
  obtain ⟨_, broken, following⟩ := read
  cases broken with
  | some cause => exact nofun
  | none =>
    have power := isPower_readPower following
    dsimp only
    generalize readPower following = read at power ⊢
    obtain ⟨_, broken, last⟩ := read
    cases broken with
    | some cause => exact nofun
    | none =>
      intro
      obtain ⟨second, isFraction, continued⟩ := fraction rfl
      obtain ⟨third, isPower, ended⟩ := power rfl
      refine ⟨signed negative (digits ++ (second ++ third)),
        isNumeral_signed (.parts first isFraction isPower), ?_⟩
      rw [signed_append, List.append_assoc, List.append_assoc, ← ended, ← continued, ← begun]
      exact sign

/-! ## Strings and words -/

inductive Spelled : List Piece → List Char → Prop
  | nil : Spelled [] []
  | plain {c : Char} {pieces : List Piece} {content : List Char} (quote : c ≠ '"')
    (backslash : c ≠ '\\') (printable : 32 ≤ c.toNat) (more : Spelled pieces content) :
    Spelled (.plain c :: pieces) (c :: content)
  | escape {c meant : Char} {pieces : List Piece} {content : List Char}
    (known : unescape? c = some meant) (more : Spelled pieces content) :
    Spelled (.escape c :: pieces) ('\\' :: c :: content)
  | unit {a b c d : Char} {value : Nat} {pieces : List Piece} {content : List Char}
    (digits : hexUnit? a b c d = some value) (stop : Nat) (more : Spelled pieces content) :
    Spelled (.unit value stop :: pieces) ('\\' :: 'u' :: a :: b :: c :: d :: content)

theorem Spelled.isQuoted {pieces : List Piece} {content : List Char}
    (spelled : Spelled pieces content) : IsQuoted content := by
  induction spelled with
  | nil => exact .nil
  | plain quote backslash printable more ih => exact .plain quote backslash printable ih
  | escape known more ih => exact .escape known ih
  | unit digits stop more ih => exact .unit digits ih

theorem spelled_readPieces {position : Nat} {text : List Char} {stop : Nat}
    (closed : (readPieces position text).2.1 = .quote stop) :
    ∃ content, Spelled (readPieces position text).1 content ∧
      text = content ++ '"' :: (readPieces position text).2.2 := by
  fun_induction readPieces position text with
  | case1 | case2 | case4 | case5 | case7 | case9 => cases closed
  | case3 position a b c d rest value digits pieces ending after read ih =>
    rw [read] at ih
    obtain ⟨content, spelled, same⟩ := ih closed
    exact ⟨'\\' :: 'u' :: a :: b :: c :: d :: content, .unit digits _ spelled, by rw [same]; rfl⟩
  | case6 position c rest _ _ meant known pieces ending after read ih =>
    rw [read] at ih
    obtain ⟨content, spelled, same⟩ := ih closed
    exact ⟨'\\' :: c :: content, .escape known spelled, by rw [same]; rfl⟩
  | case8 position c rest _ _ _ quote => exact ⟨[], .nil, by rw [beq_iff_eq.1 quote]; rfl⟩
  | case10 position c rest single unit escape other printable pieces ending after read ih =>
    rw [read] at ih
    obtain ⟨content, spelled, same⟩ := ih closed
    have backslash : c ≠ '\\' := by
      rintro rfl
      cases rest with
      | nil => exact single rfl rfl
      | cons c rest => exact escape c rest rfl rfl
    exact ⟨c :: content, .plain (by simpa using other) backslash (Nat.not_lt.1 printable) spelled,
      by rw [same]; rfl⟩

theorem isQuoted_readQuotation (cursor : Cursor) (skips : (readQuotation cursor).1.skip = .ok ()) :
    ∃ content, IsQuoted content ∧
      cursor.rest = content ++ '"' :: (readQuotation cursor).2.rest := by
  have spelled (stop : Nat) := @spelled_readPieces cursor.position cursor.rest stop
  unfold readQuotation at skips ⊢
  generalize readPieces cursor.position cursor.rest = read at skips spelled ⊢
  obtain ⟨pieces, ending, rest⟩ := read
  cases ending with
  | quote stop =>
    obtain ⟨content, spelled, same⟩ := spelled stop rfl
    exact ⟨content, spelled.isQuoted, same⟩
  | fault fault => cases skips

theorem readWord_eq_ok {word : List Char} {cursor next : Cursor}
    (read : readWord word cursor = .ok next) : cursor.rest = word ++ next.rest := by
  induction word generalizing cursor with
  | nil =>
    cases read
    rfl
  | cons wanted word ih =>
    obtain ⟨characters, position⟩ := cursor
    cases characters with
    | nil => cases read
    | cons c rest =>
      rw [readWord] at read
      by_cases same : c = wanted
      · subst same
        simp only [beq_self_eq_true, if_true] at read
        have := ih read
        simpa using this
      · simp [same] at read

theorem rest_wordTree {word : List Char} {tree : Nat → Tree} {cursor : Cursor}
    (skips : (wordTree word tree cursor).1.skip = .ok ()) :
    cursor.rest = word ++ (wordTree word tree cursor).2.rest := by
  unfold wordTree at skips ⊢
  cases read : readWord word cursor with
  | ok next => exact readWord_eq_ok read
  | error fault =>
    rw [read] at skips
    cases skips

/-! ## Trees -/

theorem skip_bind {first second : Except Fault Unit} :
    (do first; second) = .ok () ↔ first = .ok () ∧ second = .ok () := by
  cases first with
  | error fault => exact ⟨nofun, nofun⟩
  | ok done => exact ⟨fun later => ⟨rfl, later⟩, And.right⟩

/-- Whether what is read by so much fuel follows the grammar if nothing is wrong with it. Items and
members do so with any gap before them. -/
structure Sound (fuel : Nat) : Prop where
  tree : ∀ cursor, (readTree fuel cursor).1.skip = .ok () →
    ∃ value, Derives .value value ∧ cursor.rest = value ++ (readTree fuel cursor).2.rest
  items : ∀ cursor, (readItems fuel cursor).1.skip = .ok () →
    ∃ value values inside, (∀ gap, Blank gap → Derives (.items (value :: values)) (gap ++ inside)) ∧
      cursor.rest = inside ++ ']' :: (readItems fuel cursor).2.rest
  members : ∀ opening cursor, (readMembers fuel opening cursor).1.skip = .ok () →
    ∃ entry entries inside,
      (∀ gap, Blank gap → Derives (.members (entry :: entries)) (gap ++ inside)) ∧
        cursor.rest = inside ++ '\x7d' :: (readMembers fuel opening cursor).2.rest

theorem derives_word {word : List Char} {tree : Nat → Tree} {c : Char}
    (derives : Derives .value (c :: word)) {rest : List Char} {position : Nat}
    (skips : (wordTree word tree ⟨rest, position⟩).1.skip = .ok ()) :
    ∃ value, Derives .value value ∧
      c :: rest = value ++ (wordTree word tree ⟨rest, position⟩).2.rest :=
  ⟨c :: word, derives, congrArg (c :: ·) (rest_wordTree skips)⟩

theorem derives_readTree {fuel : Nat} (sound : Sound fuel) {cursor : Cursor}
    (skips : (readTree (fuel + 1) cursor).1.skip = .ok ()) :
    ∃ value, Derives .value value ∧ cursor.rest = value ++ (readTree (fuel + 1) cursor).2.rest := by
  obtain ⟨characters, position⟩ := cursor
  revert skips
  unfold readTree
  dsimp only
  -- One case for each way to begin, in the order of the parser.
  split
  · intro skips
    cases skips
  · exact derives_word .null
  · exact derives_word .true
  · exact derives_word .false
  · next rest =>
    intro skips
    obtain ⟨content, quoted, same⟩ := isQuoted_readQuotation _ skips
    refine ⟨_, .string quoted, ?_⟩
    dsimp only at same ⊢
    rw [List.cons_append, List.append_assoc]
    exact congrArg ('"' :: ·) same
  · next rest =>
    obtain ⟨gap, blank, same⟩ := blank_skipGap ⟨rest, position + 1⟩
    have items := sound.items (Cursor.mk rest (position + 1)).skipGap
    generalize (Cursor.mk rest (position + 1)).skipGap = first at same items ⊢
    dsimp only at same
    split
    · intro skips
      cases skips
    · next after closed =>
      intro
      refine ⟨_, .array (.noItems blank), ?_⟩
      rw [same, closed]
      simp
    · intro skips
      obtain ⟨value, values, inside, derives, read⟩ := items skips
      refine ⟨_, .array (derives gap blank), ?_⟩
      rw [same, read]
      simp
  · next rest =>
    obtain ⟨gap, blank, same⟩ := blank_skipGap ⟨rest, position + 1⟩
    have members := sound.members (position + 1) (Cursor.mk rest (position + 1)).skipGap
    generalize (Cursor.mk rest (position + 1)).skipGap = first at same members ⊢
    dsimp only at same
    split
    · intro skips
      cases skips
    · next after closed =>
      intro
      refine ⟨_, .object (.noMembers blank), ?_⟩
      rw [same, closed]
      simp
    · intro skips
      obtain ⟨entry, entries, inside, derives, read⟩ := members skips
      refine ⟨_, .object (derives gap blank), ?_⟩
      rw [same, read]
      simp
  · next c rest _ _ _ _ _ _ =>
    split
    · intro skips
      obtain ⟨text, numeral, same⟩ := isNumeral_readNumeral ⟨c :: rest, position⟩ (by
        dsimp only at skips
        rw [Tree.skip] at skips
        split at skips
        · assumption
        · cases skips)
      exact ⟨text, .number numeral, same⟩
    · intro skips
      cases skips

theorem derives_item {fuel : Nat} (sound : Sound fuel) (cursor : Cursor)
    (skips : (readTree fuel cursor).1.skip = .ok ()) :
    ∃ value inside, (∀ gap, Blank gap → Derives (.item value) (gap ++ inside)) ∧
      cursor.rest = inside ++ (readTree fuel cursor).2.skipGap.rest := by
  obtain ⟨value, derives, same⟩ := sound.tree cursor skips
  obtain ⟨after, blank', behind⟩ := blank_skipGap (readTree fuel cursor).2
  exact ⟨value, value ++ after, fun gap blank => .item blank derives blank',
    by rw [same, List.append_assoc, ← behind]⟩

theorem derives_readItems {fuel : Nat} (sound : Sound fuel) {cursor : Cursor}
    (skips : (readItems (fuel + 1) cursor).1.skip = .ok ()) :
    ∃ value values inside, (∀ gap, Blank gap → Derives (.items (value :: values)) (gap ++ inside)) ∧
      cursor.rest = inside ++ ']' :: (readItems (fuel + 1) cursor).2.rest := by
  revert skips
  unfold readItems
  dsimp only
  have item := derives_item sound cursor
  generalize readTree fuel cursor = read at item ⊢
  obtain ⟨tree, next⟩ := read
  generalize next.skipGap = last at item ⊢
  dsimp only at item
  split
  · intro skips
    cases (skip_bind.1 skips).2
  · next tail closed =>
    intro skips
    obtain ⟨value, inside, derives, same⟩ := item (skip_bind.1 skips).1
    exact ⟨value, [], inside, fun gap blank => .lastItem (derives gap blank), by rw [same, closed]⟩
  · next rest comma =>
    -- The gap behind a comma belongs to the item that follows it.
    obtain ⟨before, blank', behind⟩ := blank_skipGap ⟨rest, last.position + 1⟩
    have items := sound.items (Cursor.mk rest (last.position + 1)).skipGap
    generalize (Cursor.mk rest (last.position + 1)).skipGap = following at behind items ⊢
    dsimp only at behind
    split
    · intro skips
      cases (skip_bind.1 skips).2
    · intro skips
      cases (skip_bind.1 skips).2
    · intro skips
      obtain ⟨skips, others⟩ := skip_bind.1 skips
      obtain ⟨value, inside, derives, same⟩ := item skips
      obtain ⟨second, values, inside', derives', read⟩ := items others
      refine ⟨value, second :: values, inside ++ ',' :: (before ++ inside'),
        fun gap blank => ?_, ?_⟩
      · rw [← List.append_assoc]
        exact .moreItems (derives gap blank) (derives' before blank')
      · rw [same, comma, behind, read]
        simp
  · intro skips
    cases (skip_bind.1 skips).2

theorem derives_named {fuel : Nat} (sound : Sound fuel) {text rest : List Char} {start place : Nat}
    (named : (readQuotation ⟨text, start⟩).1.skip = .ok ())
    (colon : (readQuotation ⟨text, start⟩).2.skipGap.rest = ':' :: rest)
    (real : (readTree fuel (Cursor.mk rest place).skipGap).1.skip = .ok ()) :
    ∃ entry inside, (∀ gap, Blank gap → Derives (.member entry) (gap ++ inside)) ∧
      '"' :: text = inside ++ (readTree fuel (Cursor.mk rest place).skipGap).2.skipGap.rest := by
  obtain ⟨name, quoted, same⟩ := isQuoted_readQuotation _ named
  obtain ⟨beyond, blank', behind⟩ := blank_skipGap (readQuotation ⟨text, start⟩).2
  obtain ⟨before, blank, opened⟩ := blank_skipGap ⟨rest, place⟩
  generalize (Cursor.mk rest place).skipGap = item at opened real ⊢
  obtain ⟨value, inside, derives, same'⟩ := derives_item sound item real
  refine ⟨(name, value), '"' :: (name ++ '"' :: (beyond ++ ':' :: (before ++ inside))),
    fun gap blank'' => .member blank'' quoted blank' (derives before blank), ?_⟩
  dsimp only at same opened
  rw [same, behind, colon, opened, same']
  simp

theorem derives_readMembers {fuel : Nat} (sound : Sound fuel) {opening : Nat} {cursor : Cursor}
    (skips : (readMembers (fuel + 1) opening cursor).1.skip = .ok ()) :
    ∃ entry entries inside,
      (∀ gap, Blank gap → Derives (.members (entry :: entries)) (gap ++ inside)) ∧
        cursor.rest = inside ++ '\x7d' :: (readMembers (fuel + 1) opening cursor).2.rest := by
  obtain ⟨characters, position⟩ := cursor
  revert skips
  unfold readMembers
  dsimp only
  split
  · next text =>
    have colonless (key : Quotation) (after : Nat) (fault : Fault) (members : Members) :
        (Members.member opening key after (.unreached fault) members).skip ≠ .ok () := by
      intro skips
      cases (skip_bind.1 (skip_bind.1 skips).2).1
    split
    · exact fun skips => (colonless _ _ _ _ skips).elim
    · exact fun skips => (colonless _ _ _ _ skips).elim
    · next rest colon =>
      have member (place : Nat) (named : (readQuotation ⟨text, position + 1⟩).1.skip = .ok ()) :=
        @derives_named fuel sound text rest (position + 1) place named colon
      generalize (readQuotation ⟨text, position + 1⟩).2.skipGap.position + 1 = place
      have member := member place
      -- From here on it counts what has been read, and no longer how.
      generalize readQuotation ⟨text, position + 1⟩ = read at member
      obtain ⟨key, next⟩ := read
      generalize readTree fuel (Cursor.mk rest place).skipGap = read at member ⊢
      obtain ⟨tree, last⟩ := read
      generalize last.skipGap = last at member ⊢
      dsimp only at member ⊢
      split
      · intro skips
        cases (skip_bind.1 (skip_bind.1 skips).2).2
      · next tail closed =>
        intro skips
        obtain ⟨named, skips⟩ := skip_bind.1 skips
        obtain ⟨entry, inside, derives, same⟩ := member named (skip_bind.1 skips).1
        exact ⟨entry, [], inside, fun gap blank => .lastMember (derives gap blank),
          by rw [same, closed]⟩
      · next rest comma =>
        obtain ⟨before, blank, behind⟩ := blank_skipGap ⟨rest, last.position + 1⟩
        have members := sound.members (last.position + 1)
          (Cursor.mk rest (last.position + 1)).skipGap
        generalize (Cursor.mk rest (last.position + 1)).skipGap = following at behind members ⊢
        dsimp only at behind
        split
        · intro skips
          cases (skip_bind.1 (skip_bind.1 skips).2).2
        · intro skips
          cases (skip_bind.1 (skip_bind.1 skips).2).2
        · intro skips
          obtain ⟨named, skips⟩ := skip_bind.1 skips
          obtain ⟨real, others⟩ := skip_bind.1 skips
          obtain ⟨entry, inside, derives, same⟩ := member named real
          obtain ⟨second, entries, inside', derives', read⟩ := members others
          refine ⟨entry, second :: entries, inside ++ ',' :: (before ++ inside'),
            fun gap blank' => ?_, ?_⟩
          · rw [← List.append_assoc]
            exact .moreMembers (derives gap blank') (derives' before blank)
          · rw [same, comma, behind, read]
            simp
      · intro skips
        cases (skip_bind.1 (skip_bind.1 skips).2).2
    · exact fun skips => (colonless _ _ _ _ skips).elim
  · intro skips
    cases skips

theorem sound (fuel : Nat) : Sound fuel := by
  induction fuel with
  | zero => exact ⟨nofun, nofun, nofun⟩
  | succ fuel ih =>
    exact ⟨fun _ => derives_readTree ih, fun _ => derives_readItems ih,
      fun _ _ => derives_readMembers ih⟩

/-! ## Whole texts -/

inductive Grammar.IsText : List Char → Prop
  | value {before value after : List Char} (blank : Blank before) (derives : Derives .value value)
    (blank' : Blank after) : IsText (before ++ (value ++ after))

structure Document.Skips (document : Document) : Prop where
  tree : document.tree.skip = .ok ()
  whole : document.trailing = none

theorem endsNumeral_blank {gap : List Char} (blank : Blank gap) : EndsNumeral gap :=
  fun c first => isNumeric_of_isGap (blank c (List.mem_of_head? first))

theorem skips_iff (text : String) : (Document.ofText text).Skips ↔ IsText text.toList := by
  generalize document : Document.ofText text = read
  unfold Document.ofText at document
  dsimp only at document
  subst document
  obtain ⟨before, blank, begun⟩ := blank_skipGap ⟨text.toList, 0⟩
  constructor
  · rintro ⟨skips, whole⟩
    obtain ⟨value, derives, read⟩ := (sound _).tree _ skips
    obtain ⟨after, blank', behind⟩ := blank_skipGap
      (readTree (2 * text.toList.length + 2) (Cursor.mk text.toList 0).skipGap).2
    dsimp only at begun whole
    split at whole
    · next none =>
      rw [List.isEmpty_iff.1 none, List.append_nil] at behind
      rw [begun, read, behind]
      exact .value blank derives blank'
    · cases whole
  · intro is
    generalize text.toList = characters at is begun ⊢
    cases is with
    | @value before' value after blank' derives blank'' =>
    obtain ⟨⟨first, rest, begins, solid, -⟩, reads⟩ := reads_of_derives derives
    have start : (Cursor.mk (before' ++ (value ++ after)) 0).skipGap =
        ⟨value ++ after, 0 + before'.length⟩ := by
      rw [begins]
      exact skipGap_append blank' solid _ 0
    obtain ⟨tree, stop, read, skips⟩ := reads (2 * (before' ++ (value ++ after)).length + 1) after
      (0 + before'.length) (by simp only [List.length_append]; omega) (endsNumeral_blank blank'')
    rw [start, read]
    exact ⟨skips, by simp [skipGap_end blank'']⟩

/-! ## Values -/

theorem ok_of_map {α β : Type} {f : α → β} {result : Except Fault α} {b : β}
    (mapped : result.map f = .ok b) : ∃ a, result = .ok a ∧ f a = b := by
  cases result with
  | error fault => cases mapped
  | ok a => exact ⟨a, rfl, Except.ok.inj mapped⟩

theorem ok_of_bind {α β : Type} {f : α → Except Fault β} {result : Except Fault α} {b : β}
    (bound : result >>= f = .ok b) : ∃ a, result = .ok a ∧ f a = .ok b := by
  cases result with
  | error fault => cases bound
  | ok a => exact ⟨a, rfl, bound⟩

theorem quote_of_decodePieces {ending : Ending} {pieces : List Piece} {characters : List Char}
    (decoded : decodePieces ending pieces = .ok characters) : ∃ stop, ending = .quote stop := by
  fun_induction decodePieces ending pieces generalizing characters with
  | case1 stop closed => exact ⟨stop, closed⟩
  | case2 | case5 | case7 | case8 | case9 | case10 | case11 => cases decoded
  | case3 c rest ih | case4 c rest ih | case12 unit stop rest _ _ ih =>
    obtain ⟨_, decoded, -⟩ := ok_of_map decoded
    exact ih decoded
  | case6 unit stop _ _ low stop' rest _ ih =>
    obtain ⟨_, decoded, -⟩ := ok_of_map decoded
    exact ih decoded

theorem Quotation.skip_of_text {quotation : Quotation} {text : String}
    (decoded : quotation.text = .ok text) : quotation.skip = .ok () := by
  obtain ⟨characters, decoded, -⟩ := ok_of_map decoded
  obtain ⟨stop, closed⟩ := quote_of_decodePieces decoded
  rw [Quotation.skip, closed]

theorem unbroken_of_number {numeral : Numeral} {number : Number}
    (decoded : numeral.number = .ok number) : numeral.broken = none := by
  unfold Numeral.number at decoded
  split at decoded
  · cases decoded
  · assumption

mutual

theorem Tree.skip_of_value {depth : Nat} (tree : Tree) {value : Value}
    (decoded : tree.value depth = .ok value) : tree.skip = .ok () := by
  match tree with
  | .null _ => rfl
  | .bool _ _ => rfl
  | .number numeral =>
    obtain ⟨number, decoded, -⟩ := ok_of_map decoded
    rw [Tree.skip, unbroken_of_number decoded]
  | .string quotation =>
    obtain ⟨text, decoded, -⟩ := ok_of_map decoded
    exact Quotation.skip_of_text decoded
  | .array start items =>
    cases depth with
    | zero => cases decoded
    | succ depth =>
      obtain ⟨values, decoded, -⟩ := ok_of_map decoded
      exact Items.skip_of_values items decoded
  | .object start members =>
    cases depth with
    | zero => cases decoded
    | succ depth =>
      obtain ⟨values, decoded, -⟩ := ok_of_map decoded
      exact Members.skip_of_values members decoded
  | .garbled _ _ => cases decoded
  | .missing _ => cases decoded
  | .unreached _ => cases decoded

theorem Items.skip_of_values {depth : Nat} (items : Items) {values : List Value}
    (decoded : items.values depth = .ok values) : items.skip = .ok () := by
  match items with
  | .close _ => rfl
  | .item value rest =>
    obtain ⟨first, read, decoded⟩ := ok_of_bind decoded
    obtain ⟨others, decoded, -⟩ := ok_of_bind decoded
    exact skip_bind.2 ⟨Tree.skip_of_value value read, Items.skip_of_values rest decoded⟩
  | .broken _ => cases decoded

theorem Members.skip_of_values {depth : Nat} (members : Members) {values : List (String × Value)}
    (decoded : members.values depth = .ok values) : members.skip = .ok () := by
  match members with
  | .close _ => rfl
  | .member _ key _ value rest =>
    obtain ⟨name, named, decoded⟩ := ok_of_bind decoded
    obtain ⟨first, read, decoded⟩ := ok_of_bind decoded
    obtain ⟨others, decoded, -⟩ := ok_of_bind decoded
    exact skip_bind.2 ⟨Quotation.skip_of_text named,
      skip_bind.2 ⟨Tree.skip_of_value value read, Members.skip_of_values rest decoded⟩⟩
  | .noKey _ _ _ => cases decoded
  | .broken _ _ => cases decoded

end

theorem document_of_parse {text : String} {value : Value} (parsed : parse text = .ok value) :
    ∃ tree, Document.ofText text = ⟨tree, none⟩ ∧ tree.value greatestDepth = .ok value := by
  obtain ⟨read, decoded, last⟩ := ok_of_bind parsed
  generalize Document.ofText text = document at decoded last
  obtain ⟨tree, trailing⟩ := document
  cases trailing with
  | some position => cases last
  | none =>
    cases last
    exact ⟨tree, rfl, decoded⟩

theorem isText_of_parse {text : String} {value : Value} (parsed : parse text = .ok value) :
    IsText text.toList := by
  obtain ⟨tree, document, decoded⟩ := document_of_parse parsed
  rw [← skips_iff, document]
  exact ⟨Tree.skip_of_value tree decoded, rfl⟩

end PracticeClient.Json
