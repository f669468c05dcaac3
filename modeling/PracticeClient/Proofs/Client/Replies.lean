import PracticeClient.LoginReply

namespace PracticeClient

open Json

/-! ## Members -/

namespace Entries

variable {α : Type} {entries entries' : List (String × α)}

theorem get?_eq_some {key : String} {value : α} (unique : (entries.map Prod.fst).Nodup) :
    get? key entries = some value ↔ (key, value) ∈ entries := by
  induction entries with
  | nil => simp [get?]
  | cons entry rest ih =>
    obtain ⟨name, held⟩ := entry
    rw [List.map_cons, List.nodup_cons] at unique
    obtain ⟨once, unique⟩ := unique
    rw [get?_cons, List.mem_cons, Prod.mk.injEq]
    split
    · next same =>
      subst same
      have elsewhere : (name, value) ∉ rest := fun member =>
        once (List.mem_map.2 ⟨(name, value), member, rfl⟩)
      simp [elsewhere, eq_comm]
    · next differs =>
      rw [ih unique]
      simp [Ne.symm differs]

theorem get?_perm (same : entries.Perm entries') (unique : (entries.map Prod.fst).Nodup)
    (key : String) : get? key entries' = get? key entries := by
  have unique' : (entries'.map Prod.fst).Nodup := (same.map Prod.fst).nodup_iff.1 unique
  apply Option.ext
  intro value
  rw [get?_eq_some unique, get?_eq_some unique', same.mem_iff]

end Entries

/-! ## Wanted shapes -/

namespace Json

theorem shape_eq_number {value : Value} {number : Json.Number} :
    value.shape = .number number ↔ value = .number number := by
  cases value <;> simp [Value.shape]

theorem natural_eq_ok {shape : Shape} {bound n : Nat} {range : String} :
    shape.natural bound range = .ok n ↔ shape = .number (.integer n) ∧ n ≤ bound := by
  unfold Shape.natural
  split
  · next found =>
    split
    · next fits => grind
    · next beyond => grind
  · next negative =>
    constructor
    · intro read
      cases read
    · rintro ⟨same, -⟩
      simp only [Shape.number.injEq, Number.integer.injEq] at same
      exact absurd same (negative n)
  · next other _ =>
    constructor
    · intro read
      cases read
    · rintro ⟨rfl, -⟩
      exact absurd rfl (other n)

theorem byte_eq_ok {shape : Shape} {byte : UInt8} :
    shape.byte = .ok byte ↔ shape = .number (.integer byte.toNat) := by
  unfold Shape.byte
  constructor
  · intro read
    cases found : shape.natural 255 "u8" with
    | error misfit => simp [found, Except.map] at read
    | ok n =>
      obtain ⟨rfl, fits⟩ := natural_eq_ok.1 found
      simp only [found, Except.map, Except.ok.injEq] at read
      subst read
      have small : n % 256 = n := Nat.mod_eq_of_lt (by omega)
      simp [small]
  · rintro rfl
    have fits : byte.toNat ≤ 255 := Nat.le_of_lt_succ byte.toNat_lt
    rw [natural_eq_ok.2 ⟨rfl, fits⟩]
    simp [Except.map]

theorem text?_eq_ok {value : Value} {text : Option String} :
    value.shape.text? = .ok text ↔ value = valueOf text := by
  cases value <;> cases text <;> simp [Value.shape, Shape.text?, Shape.text, Except.map, valueOf]

end Json

/-! ## Responses -/

namespace LoginResponse

inductive Says : Value → LoginResponse → Prop
  | object {members : List (String × Value)} {response : LoginResponse}
    (success : Entries.get? "success" members =
      some (.number (.integer response.success.toNat)))
    (token : (Entries.get? "token" members).getD .null = valueOf response.token) :
    Says (.object members) response
  | alone (success : UInt8) :
    Says (.array [.number (.integer success.toNat)]) ⟨success, none⟩
  | pair (response : LoginResponse) :
    Says (.array [.number (.integer response.success.toNat), valueOf response.token]) response

theorem ofItems_eq_ok {items : List Value} {response : LoginResponse} :
    ofItems items = .ok response ↔ Says (.array items) response := by
  obtain ⟨success, token⟩ := response
  constructor
  · intro read
    match items with
    | [] => cases read
    | [first] =>
      cases byte : first.shape.byte with
      | error misfit => simp [ofItems, byte, bind, Except.bind] at read
      | ok number =>
        rw [ofItems, byte] at read
        cases read
        rw [shape_eq_number.1 (byte_eq_ok.1 byte)]
        exact .alone success
    | first :: second :: rest =>
      cases byte : first.shape.byte with
      | error misfit => simp [ofItems, byte, bind, Except.bind] at read
      | ok number =>
        cases text : second.shape.text? with
        | error misfit => simp [ofItems, byte, text, bind, Except.bind] at read
        | ok found =>
          cases rest with
          | cons third rest => simp [ofItems, byte, text, bind, Except.bind] at read
          | nil =>
            rw [ofItems, byte, text] at read
            cases read
            rw [shape_eq_number.1 (byte_eq_ok.1 byte), text?_eq_ok.1 text]
            exact .pair ⟨success, token⟩
  · intro told
    cases told with
    | alone =>
      rw [ofItems, byte_eq_ok.2 (shape_eq_number.2 rfl)]
      rfl
    | pair =>
      rw [ofItems, byte_eq_ok.2 (shape_eq_number.2 rfl), text?_eq_ok.2 rfl]
      rfl

def readToken : Option Value → Except Misfit (Option String)
  | some value => value.shape.text?
  | none => .ok none

theorem readToken_eq_ok {value : Option Value} {token : Option String} :
    readToken value = .ok token ↔ value.getD .null = valueOf token := by
  cases value with
  | none => cases token <;> simp [readToken, valueOf]
  | some value => exact text?_eq_ok

theorem ofMembers_eq (members : List (String × Value)) :
    ofMembers members = match Entries.get? "success" members with
      | some value => value.shape.byte.bind fun success =>
          (readToken (Entries.get? "token" members)).map fun token => ⟨success, token⟩
      | none => (readToken (Entries.get? "token" members)).bind fun _ =>
          .error (.missingField "success") := by
  unfold ofMembers
  cases Entries.get? "success" members with
  | none => cases Entries.get? "token" members <;> rfl
  | some value =>
    dsimp only
    cases value.shape.byte with
    | error misfit => rfl
    | ok success => cases Entries.get? "token" members <;> rfl

theorem ofMembers_eq_ok {members : List (String × Value)} {response : LoginResponse} :
    ofMembers members = .ok response ↔ Says (.object members) response := by
  have told : Says (.object members) response ↔
      Entries.get? "success" members = some (.number (.integer response.success.toNat)) ∧
        readToken (Entries.get? "token" members) = .ok response.token := by
    rw [readToken_eq_ok]
    constructor
    · intro told
      cases told with
      | object success token => exact ⟨success, token⟩
    · rintro ⟨success, token⟩
      exact .object success token
  rw [told, ofMembers_eq]
  generalize readToken (Entries.get? "token" members) = token
  cases Entries.get? "success" members with
  | none => cases token <;> simp [Except.bind]
  | some value =>
    rw [Option.some.injEq, ← shape_eq_number, ← byte_eq_ok]
    dsimp only
    cases value.shape.byte with
    | error misfit => simp [Except.bind]
    | ok success =>
      cases token with
      | error misfit => simp [Except.bind, Except.map]
      | ok token =>
        obtain ⟨success', token'⟩ := response
        simp [Except.bind, Except.map]

theorem ofValue_eq_ok {body : Value} {response : LoginResponse} :
    ofValue body = .ok response ↔ Says body response := by
  have other (unlike : ∀ items, body ≠ .array items) (unlike' : ∀ members, body ≠ .object members) :
      ¬Says body response := by
    intro told
    cases told with
    | object => exact unlike' _ rfl
    | alone => exact unlike _ rfl
    | pair => exact unlike _ rfl
  cases body with
  | array items => exact ofItems_eq_ok
  | object members => exact ofMembers_eq_ok
  | _ =>
    simp only [ofValue, reduceCtorEq, false_iff]
    apply other <;> simp

end LoginResponse

/-! ## Replies -/

namespace LoginReply

theorem ofResponse_eq_accepted {response : LoginResponse} {token : String} :
    ofResponse response = .accepted token ↔ response = ⟨1, some token⟩ ∧ token ≠ "" := by
  obtain ⟨success, held⟩ := response
  by_cases one : success = 1
  · cases held with
    | none => simp [ofResponse, one]
    | some text =>
      by_cases empty : text = ""
      · simp only [ofResponse, one, empty, if_true, reduceCtorEq, false_iff, not_and, ne_eq,
          LoginResponse.mk.injEq, true_and, Option.some.injEq]
        intro same filled
        exact filled same.symm
      · simp only [ofResponse, one, empty, if_true, if_false, accepted.injEq,
          LoginResponse.mk.injEq, true_and, Option.some.injEq]
        constructor
        · rintro rfl
          exact ⟨rfl, empty⟩
        · exact And.left
  · by_cases zero : success = 0 <;> simp [ofResponse, one, zero]

theorem ofResponse_eq_rejected {response : LoginResponse} :
    ofResponse response = .rejected ↔ response.success = 0 := by
  obtain ⟨success, held⟩ := response
  by_cases one : success = 1
  · cases held with
    | none => simp [ofResponse, one]
    | some text => by_cases empty : text = "" <;> simp [ofResponse, one, empty]
  · by_cases zero : success = 0 <;> simp [ofResponse, one, zero]

theorem interpret_of_ok {body : Value} {reply : LoginReply}
    (clear : ∀ reason, reply ≠ .malformed reason) :
    interpret body = reply ↔ ∃ response, LoginResponse.Says body response ∧
      ofResponse response = reply := by
  unfold interpret
  cases read : LoginResponse.ofValue body with
  | error misfit =>
    constructor
    · intro same
      exact absurd same.symm (clear _)
    · rintro ⟨response, told, -⟩
      rw [LoginResponse.ofValue_eq_ok.2 told] at read
      cases read
  | ok response =>
    constructor
    · intro same
      exact ⟨response, LoginResponse.ofValue_eq_ok.1 read, same⟩
    · rintro ⟨response', told, same⟩
      rw [LoginResponse.ofValue_eq_ok.2 told] at read
      cases read
      exact same

/-- A body that accepts a login: one and a token that is not empty, as members or in a row. -/
inductive Accepts : Value → (token : String) → Prop
  | object {members : List (String × Value)} {token : String}
    (success : Entries.get? "success" members = some (.number (.integer 1)))
    (given : Entries.get? "token" members = some (.string token)) (filled : token ≠ "") :
    Accepts (.object members) token
  | array {token : String} (filled : token ≠ "") :
    Accepts (.array [.number (.integer 1), .string token]) token

def IsNullOrText (value : Value) : Prop :=
  value = .null ∨ ∃ text, value = .string text

/-- A body that turns a login down: zero and, if there is a token at all, null or any text. -/
inductive TurnsDown : Value → Prop
  | object {members : List (String × Value)}
    (success : Entries.get? "success" members = some (.number (.integer 0)))
    (token : ∀ value, Entries.get? "token" members = some value → IsNullOrText value) :
    TurnsDown (.object members)
  | alone : TurnsDown (.array [.number (.integer 0)])
  | pair {value : Value} (token : IsNullOrText value) :
    TurnsDown (.array [.number (.integer 0), value])

theorem accepts_iff {body : Value} {token : String} :
    Accepts body token ↔ LoginResponse.Says body ⟨1, some token⟩ ∧ token ≠ "" := by
  constructor
  · intro accepts
    cases accepts with
    | object success given filled =>
      refine ⟨.object success ?_, filled⟩
      rw [given]
      rfl
    | array filled => exact ⟨.pair ⟨1, some token⟩, filled⟩
  · rintro ⟨told, filled⟩
    cases told with
    | object success given =>
      refine .object success ?_ filled
      rename_i members
      cases held : Entries.get? "token" members with
      | none => simp [held, valueOf] at given
      | some value =>
        rw [held] at given
        exact congrArg some given
    | pair => exact .array filled

theorem isNullOrText_iff {value : Value} : IsNullOrText value ↔ ∃ text, value = valueOf text := by
  constructor
  · rintro (null | ⟨text, same⟩)
    · exact ⟨none, null⟩
    · exact ⟨some text, same⟩
  · rintro ⟨text, rfl⟩
    cases text with
    | none => exact .inl rfl
    | some text => exact .inr ⟨text, rfl⟩

theorem turnsDown_iff {body : Value} :
    TurnsDown body ↔ ∃ token, LoginResponse.Says body ⟨0, token⟩ := by
  constructor
  · intro refuses
    cases refuses with
    | @object members success token =>
      cases held : Entries.get? "token" members with
      | none =>
        refine ⟨none, .object success ?_⟩
        rw [held]
        rfl
      | some value =>
        obtain ⟨text, same⟩ := isNullOrText_iff.1 (token value held)
        refine ⟨text, .object success ?_⟩
        rw [held]
        exact same
    | alone => exact ⟨none, .alone 0⟩
    | pair token =>
      obtain ⟨text, rfl⟩ := isNullOrText_iff.1 token
      exact ⟨text, .pair ⟨0, text⟩⟩
  · rintro ⟨token, told⟩
    cases told with
    | object success given =>
      refine .object success ?_
      intro value held
      rw [held] at given
      exact isNullOrText_iff.2 ⟨token, given⟩
    | alone => exact .alone
    | pair => exact .pair (isNullOrText_iff.2 ⟨token, rfl⟩)

theorem interpret_eq_accepted {body : Value} {token : String} :
    interpret body = .accepted token ↔ Accepts body token := by
  rw [interpret_of_ok (by simp), accepts_iff]
  simp only [ofResponse_eq_accepted]
  constructor
  · rintro ⟨response, told, rfl, filled⟩
    exact ⟨told, filled⟩
  · rintro ⟨told, filled⟩
    exact ⟨_, told, rfl, filled⟩

theorem interpret_eq_rejected {body : Value} : interpret body = .rejected ↔ TurnsDown body := by
  rw [interpret_of_ok (by simp), turnsDown_iff]
  simp only [ofResponse_eq_rejected]
  constructor
  · rintro ⟨⟨success, token⟩, told, rfl⟩
    exact ⟨token, told⟩
  · rintro ⟨token, told⟩
    exact ⟨_, told, rfl⟩

theorem interpret_eq_malformed {body : Value} :
    (∃ reason, interpret body = .malformed reason) ↔
      (∀ token, ¬Accepts body token) ∧ ¬TurnsDown body := by
  simp only [← interpret_eq_accepted, ← interpret_eq_rejected]
  cases interpret body <;> simp

theorem interpret_congr {members members' : List (String × Value)}
    (success : Entries.get? "success" members' = Entries.get? "success" members)
    (token : Entries.get? "token" members' = Entries.get? "token" members) :
    interpret (.object members') = interpret (.object members) := by
  simp only [interpret, LoginResponse.ofValue, LoginResponse.ofMembers, success, token]

theorem number_of_spelling {numeral : Numeral} {number : Json.Number}
    (read : numeral.number = .ok number)
    (marked : numeral.fraction.isSome = true ∨ numeral.power.isSome = true) :
    ∃ value, number = .real value := by
  have unwhole : numeral.whole? = none := by
    unfold Numeral.whole?
    split
    · next fraction power _ => simp [fraction, power] at marked
    · rfl
  have real {significand : Nat} {power : Int}
      (read : numeral.real significand power = .ok number) : ∃ value, number = .real value := by
    unfold Numeral.real at read
    split at read
    · cases read
      exact ⟨_, rfl⟩
    · cases read
  unfold Numeral.number at read
  rw [unwhole] at read
  split at read
  · cases read
  · dsimp only at read
    split at read
    · exact real read
    · split at read
      · exact real read
      · split at read
        · cases read
          exact ⟨_, rfl⟩
        · cases read

/-- How bodies are told apart: which accept a login with which token, which turn it down, and that
all others are malformed. The order of members does not matter, nor do members of other names; a
number with a point or a power is neither one nor zero. -/
structure Sorts (reply : Value → LoginReply) : Prop where
  accepted : ∀ body token, reply body = .accepted token ↔ Accepts body token
  rejected : ∀ body, reply body = .rejected ↔ TurnsDown body
  malformed : ∀ body, (∃ reason, reply body = .malformed reason) ↔
    (∀ token, ¬Accepts body token) ∧ ¬TurnsDown body
  order : ∀ members members' : List (String × Value), members.Perm members' →
    (members.map Prod.fst).Nodup → reply (.object members') = reply (.object members)
  unknown : ∀ (members : List (String × Value)) name value, name ≠ "success" → name ≠ "token" →
    reply (.object ((name, value) :: members)) = reply (.object members)
  spelled : ∀ (numeral : Numeral) number members, numeral.number = .ok number →
    numeral.fraction.isSome = true ∨ numeral.power.isSome = true →
    Entries.get? "success" members = some (.number number) →
    ∃ reason, reply (.object members) = .malformed reason

theorem interpret_sorts : Sorts interpret where
  accepted body token := interpret_eq_accepted
  rejected body := interpret_eq_rejected
  malformed body := interpret_eq_malformed
  order members members' same unique :=
    interpret_congr (Entries.get?_perm same unique _) (Entries.get?_perm same unique _)
  unknown members name value unlike unlike' := by
    apply interpret_congr
    · rw [Entries.get?_cons, if_neg unlike]
    · rw [Entries.get?_cons, if_neg unlike']
  spelled numeral number members read marked held := by
    obtain ⟨value, rfl⟩ := number_of_spelling read marked
    rw [interpret_eq_malformed]
    constructor
    · intro token accepts
      cases accepts with
      | object success => simp [held] at success
    · intro refuses
      cases refuses with
      | object success => simp [held] at success

end LoginReply

end PracticeClient
