import PracticeClient.Proofs.Client.Replies
import PracticeClient.Proofs.Json.Names

namespace PracticeClient

namespace Json

theorem toOption_bind {ε α β : Type} (result : Except ε α) (f : α → Except ε β) :
    (result >>= f).toOption = result.toOption.bind fun a => (f a).toOption := by
  cases result <;> rfl

theorem toOption_map {ε α β : Type} (f : α → β) (result : Except ε α) :
    (result.map f).toOption = result.toOption.map f := by
  cases result <;> rfl

theorem toOption_eq_some {ε α : Type} {result : Except ε α} {a : α} :
    result.toOption = some a ↔ result = .ok a := by
  cases result <;> simp [Except.toOption]

theorem fit_of_value {α : Type} {tree : Tree} {depth : Nat} {value : Value}
    (decoded : tree.value depth = .ok value) (fit : Shape → Except Misfit α) :
    (tree.fit fit).toOption = (fit value.shape).toOption := by
  obtain ⟨place, shape⟩ : ∃ place, tree.shape = .ok (value.shape, place) := by
    cases tree with
    | null stop | bool b stop =>
      cases decoded
      exact ⟨stop, rfl⟩
    | number numeral =>
      obtain ⟨number, read, rfl⟩ := ok_of_map decoded
      exact ⟨numeral.stop, by rw [Tree.shape, read]; rfl⟩
    | string quotation =>
      obtain ⟨text, read, rfl⟩ := ok_of_map decoded
      exact ⟨quotation.stop, by rw [Tree.shape, read]; rfl⟩
    | array start items | object start members =>
      cases depth with
      | zero => cases decoded
      | succ depth =>
        obtain ⟨parts, -, rfl⟩ := ok_of_map decoded
        exact ⟨start, rfl⟩
    | garbled | missing | unreached => cases decoded
  simp only [Tree.fit, shape, bind, Except.bind]
  cases fit value.shape <;> rfl

end Json

namespace LoginResponse

open Json

def successField : Json.Field Draft := format.fields[0]

def tokenField : Json.Field Draft := format.fields[1]

theorem find?_success :
    format.fields.find? (fun field => field.name == successField.name) = some successField := rfl

theorem find?_token :
    format.fields.find? (fun field => field.name == tokenField.name) = some tokenField := rfl

theorem read_success {tree : Tree} {depth : Nat} {value : Value}
    (decoded : tree.value depth = .ok value) (draft : Draft) :
    (successField.read tree draft).toOption = value.shape.byte.toOption.map fun success =>
      { draft with success := some success } := by
  rw [← fit_of_value decoded]
  exact toOption_map (fun success => { draft with success := some success }) (tree.fit Shape.byte)

theorem read_token {tree : Tree} {depth : Nat} {value : Value}
    (decoded : tree.value depth = .ok value) (draft : Draft) :
    (tokenField.read tree draft).toOption = value.shape.text?.toOption.map fun token =>
      { draft with token := some token } := by
  rw [← fit_of_value decoded]
  exact toOption_map (fun token => { draft with token := some token }) (tree.fit Shape.text?)

/-! ## Members -/

def filled {α : Type} (fit : Shape → Except Misfit α) (name : String)
    (members : List (String × Value)) : Option α → Option (Option α)
  | some held => some (some held)
  | none =>
    match Entries.get? name members with
    | some value => (fit value.shape).toOption.map some
    | none => some none

section

variable {α : Type} (fit : Shape → Except Misfit α) (members : List (String × Value))

theorem filled_nil (name : String) (held : Option α) : filled fit name [] held = some held := by
  cases held <;> rfl

theorem filled_cons {name other : String} (differ : other ≠ name) (value : Value)
    (held : Option α) : filled fit name ((other, value) :: members) held =
      filled fit name members held := by
  cases held with
  | some held => rfl
  | none => rw [filled, filled, Entries.get?_cons, if_neg differ]

theorem filled_here (name : String) (value : Value) :
    filled fit name ((name, value) :: members) none = (fit value.shape).toOption.map some := by
  rw [filled, Entries.get?_cons, if_pos rfl]

end

def completed (members : List (String × Value)) (draft : Draft) : Option Draft :=
  (filled Shape.byte "success" members draft.success).bind fun success =>
    (filled Shape.text? "token" members draft.token).bind fun token =>
      if success.isSome then some ⟨success, token⟩ else none

/-- A field occurs once at most, in what has been read and what is still to be read together. -/
def Once {α : Type} (held : Option α) (name : String) (members : List (String × Value)) : Prop :=
  held.toList.length + (members.map Prod.fst).count name ≤ 1

theorem Once.skip {α : Type} {held : Option α} {name other : String} {value : Value}
    {members : List (String × Value)} (once : Once held name ((other, value) :: members))
    (differ : other ≠ name) : Once held name members := by
  rw [Once, List.map_cons, List.count_cons_of_ne differ] at once
  exact once

theorem Once.take {α : Type} {held : Option α} {name : String} {value : Value}
    {members : List (String × Value)} (once : Once held name ((name, value) :: members)) :
    held = none ∧ ∀ found : α, Once (some found) name members := by
  rw [Once, List.map_cons, List.count_cons_self] at once
  cases held with
  | none =>
    refine ⟨rfl, fun found => ?_⟩
    rw [Once]
    simp only [Option.toList_some, Option.toList_none, List.length_cons, List.length_nil] at once ⊢
    omega
  | some held =>
    simp only [Option.toList_some, List.length_cons, List.length_nil] at once
    omega

theorem readMembers_completed (tree : Json.Members) {depth : Nat}
    {members : List (String × Value)} (decoded : tree.values depth = .ok members) (draft : Draft)
    (success : Once draft.success "success" members) (token : Once draft.token "token" members) :
    (format.readMembers tree draft).toOption = completed members draft := by
  cases tree with
  | close stop =>
    cases decoded
    rw [completed, filled_nil, filled_nil]
    obtain ⟨number, text⟩ := draft
    cases number <;> rfl
  | member opening key after value rest =>
    obtain ⟨name, named, decoded⟩ := ok_of_bind decoded
    obtain ⟨found, real, decoded⟩ := ok_of_bind decoded
    obtain ⟨others, more, last⟩ := ok_of_bind decoded
    cases last
    -- As each name occurs once at most, a known one finds its field empty.
    by_cases first : name = "success"
    · subst first
      obtain ⟨none, success⟩ := success.take
      rw [readMembers_known opening after value rest named find?_success
        (congrArg Option.isSome none), toOption_bind, read_success real, completed, none,
        filled_here, filled_cons _ _ (by decide)]
      cases found.shape.byte.toOption with
      | none => rfl
      | some number =>
        exact readMembers_completed rest more _ (success number) (token.skip (by decide))
    by_cases second : name = "token"
    · subst second
      obtain ⟨none, token⟩ := token.take
      rw [readMembers_known opening after value rest named find?_token
        (congrArg Option.isSome none), toOption_bind, read_token real, completed, none,
        filled_here, filled_cons _ _ (by decide)]
      cases found.shape.text?.toOption with
      | none => simp
      | some text =>
        exact readMembers_completed rest more _ (success.skip (by decide)) (token text)
    · have unknown : format.fields.find? (fun field => field.name == name) = none := by
        simp [format, Ne.symm first, Ne.symm second]
      have skips := Tree.skip_of_value value real
      rw [readMembers_unknown rest draft opening after named unknown skips, completed,
        filled_cons _ _ first, filled_cons _ _ second]
      exact readMembers_completed rest more draft (success.skip first) (token.skip second)
  | noKey | broken => cases decoded

theorem completed_congr {members members' : List (String × Value)}
    (success : Entries.get? "success" members' = Entries.get? "success" members)
    (token : Entries.get? "token" members' = Entries.get? "token" members) :
    completed members' .blank = completed members .blank := by
  simp only [completed, Draft.blank, filled, success, token]

def ofDraft (draft : Draft) : LoginResponse :=
  ⟨draft.success.getD 0, draft.token.getD none⟩

theorem ofTree_eq (tree : Tree) :
    (ofTree tree).toOption = (format.read tree).toOption.map ofDraft := by
  unfold ofTree
  cases format.read tree <;> rfl

theorem ofMembers_completed (members : List (String × Value)) :
    (ofMembers members).toOption = (completed members .blank).map ofDraft := by
  rw [ofMembers_eq, completed, Draft.blank, filled, filled]
  cases Entries.get? "success" members with
  | none =>
    cases Entries.get? "token" members with
    | none => rfl
    | some text =>
      simp only [readToken]
      cases text.shape.text? <;> rfl
  | some number =>
    dsimp only
    cases number.shape.byte with
    | error misfit => rfl
    | ok number =>
      cases Entries.get? "token" members with
      | none => rfl
      | some text =>
        simp only [readToken]
        cases text.shape.text? <;> rfl

/-! ## Items -/

theorem finish_of_values {items : Items} {depth : Nat} {values : List Value}
    (decoded : items.values depth = .ok values) :
    (RecordFormat.finish items).toOption = if values.isEmpty then some () else none := by
  cases items with
  | close stop =>
    cases decoded
    rfl
  | broken cause => cases decoded
  | item first rest =>
    obtain ⟨value, -, decoded⟩ := ok_of_bind decoded
    obtain ⟨others, -, last⟩ := ok_of_bind decoded
    cases last
    rfl

theorem readItems_ofItems {items : Items} {depth : Nat} {values : List Value}
    (decoded : items.values depth = .ok values) :
    ((format.readItems 0 format.fields items format.blank).toOption).map ofDraft =
      (ofItems values).toOption := by
  cases items with
  | close stop =>
    cases decoded
    rfl
  | broken cause => cases decoded
  | item first rest =>
    obtain ⟨success, real, decoded⟩ := ok_of_bind decoded
    obtain ⟨others, more, last⟩ := ok_of_bind decoded
    cases last
    change ((successField.read first format.blank >>=
      format.readItems 1 [tokenField] rest).toOption).map ofDraft = _
    rw [toOption_bind, read_success real]
    cases rest with
    | close stop =>
      cases more
      rw [ofItems]
      cases success.shape.byte <;> rfl
    | broken cause => cases more
    | item second rest =>
      obtain ⟨token, real', decoded⟩ := ok_of_bind more
      obtain ⟨others', more', last⟩ := ok_of_bind decoded
      cases last
      rw [ofItems]
      cases success.shape.byte with
      | error misfit => rfl
      | ok number =>
        change ((tokenField.read second ⟨some number, none⟩ >>=
          format.readItems 2 [] rest).toOption).map ofDraft = _
        rw [toOption_bind, read_token real']
        cases token.shape.text? with
        | error misfit => rfl
        | ok text =>
          change ((format.readItems 2 [] rest ⟨some number, some text⟩).toOption).map ofDraft = _
          rw [RecordFormat.readItems, toOption_map, finish_of_values more']
          cases others' <;> rfl

/-! ## Both ways -/

theorem ofTree_eq_ofValue {tree : Tree} {depth : Nat} {value : Value}
    (decoded : tree.value depth = .ok value) (success : tree.names.count "success" ≤ 1)
    (token : tree.names.count "token" ≤ 1) : (ofTree tree).toOption = (ofValue value).toOption := by
  rw [ofTree_eq]
  cases tree with
  | array start items =>
    cases depth with
    | zero => cases decoded
    | succ depth =>
      obtain ⟨values, read, rfl⟩ := ok_of_map decoded
      exact readItems_ofItems read
  | object start members =>
    cases depth with
    | zero => cases decoded
    | succ depth =>
      obtain ⟨values, read, rfl⟩ := ok_of_map decoded
      rw [Tree.names, members.names_of_values read] at success token
      have once {α : Type} {name : String} (few : (values.map Prod.fst).count name ≤ 1) :
          Once (none : Option α) name values := by
        rw [Once, Option.toList_none, List.length_nil, Nat.zero_add]
        exact few
      change ((format.readMembers members .blank).toOption).map ofDraft = (ofMembers _).toOption
      rw [readMembers_completed members read .blank (once success) (once token),
        ofMembers_completed, completed_congr (Table.get?_ofList_of_count success)
          (Table.get?_ofList_of_count token)]
  | null stop | bool b stop =>
    cases decoded
    rfl
  | number numeral =>
    obtain ⟨number, read, rfl⟩ := ok_of_map decoded
    simp only [RecordFormat.read, Tree.fit, Tree.shape, read]
    rfl
  | string quotation =>
    obtain ⟨text, read, rfl⟩ := ok_of_map decoded
    simp only [RecordFormat.read, Tree.fit, Tree.shape, read]
    rfl
  | garbled | missing | unreached => cases decoded

theorem decodes_alike {text : String} {value : Value} (parsed : parse text = .ok value)
    (success : NamedOnce "success" text) (token : NamedOnce "token" text)
    (response : LoginResponse) :
    decode ofTree text = .ok response ↔ ofValue value = .ok response := by
  rw [namedOnce_iff parsed] at success token
  obtain ⟨tree, document, decoded⟩ := document_of_parse parsed
  rw [document] at success token
  rw [decode_of_ofText document, ← toOption_eq_some, ofTree_eq_ofValue decoded success token,
    toOption_eq_some]

def escapedBody : String :=
  "\x7b\"t\\u006fken\": \"a\", \"seen\": [1e3, \x7b\"token\": null\x7d], \"success\": 1\x7d"

theorem decodes_alike_escaped :
    ∃ value, parse escapedBody = .ok value ∧ NamedOnce "success" escapedBody ∧
      NamedOnce "token" escapedBody ∧ decode ofTree escapedBody = .ok ⟨1, some "a"⟩ ∧
      ofValue value = .ok ⟨1, some "a"⟩ := by
  obtain ⟨value, parsed⟩ : ∃ value, parse escapedBody = .ok value := by
    have there : (parse escapedBody).toOption.isSome = true := by decide +kernel
    obtain ⟨value, parsed⟩ := Option.isSome_iff_exists.1 there
    exact ⟨value, toOption_eq_some.1 parsed⟩
  have success : NamedOnce "success" escapedBody := (namedOnce_iff parsed _).2 (by decide +kernel)
  have token : NamedOnce "token" escapedBody := (namedOnce_iff parsed _).2 (by decide +kernel)
  have read : decode ofTree escapedBody = .ok ⟨1, some "a"⟩ :=
    toOption_eq_some.1 (by decide +kernel)
  exact ⟨value, parsed, success, token, read, (decodes_alike parsed success token _).1 read⟩

example : (decode ofTree "\x7b\"success\":0,\"success\":1\x7d").toOption = none ∧
    ((parse "\x7b\"success\":0,\"success\":1\x7d").toOption.bind fun value =>
      (ofValue value).toOption) = some ⟨1, none⟩ := by
  decide +kernel

end LoginResponse

end PracticeClient
