import PracticeClient.Json.Decoding

namespace PracticeClient

structure LoginResponse where
  success : UInt8
  token : Option String
  deriving DecidableEq, Repr

namespace LoginResponse

structure Draft where
  success : Option UInt8
  token : Option (Option String)

def Draft.blank : Draft := ⟨none, none⟩

def formatName : String := "struct LoginResponse"

def format : Json.RecordFormat Draft where
  name := formatName
  blank := .blank
  fields := [
    { name := "success"
      required := true
      isSet := fun draft => draft.success.isSome
      read := fun tree draft => do
        let success ← tree.fit Json.Shape.byte
        pure { draft with success := some success } },
    { name := "token"
      required := false
      isSet := fun draft => draft.token.isSome
      read := fun tree draft => do
        let token ← tree.fit Json.Shape.text?
        pure { draft with token := some token } }]

def ofTree (tree : Json.Tree) : Except Json.Fault LoginResponse := do
  let draft ← format.read tree
  pure ⟨draft.success.getD 0, draft.token.getD none⟩

def ofItems : List Json.Value → Except Json.Misfit LoginResponse
  | [] => .error (.invalidLength 0 s!"{formatName} with 2 elements")
  | [success] => do
    let success ← success.shape.byte
    pure ⟨success, none⟩
  | success :: token :: rest => do
    let success ← success.shape.byte
    let token ← token.shape.text?
    if rest.isEmpty then pure ⟨success, token⟩
    else .error (.invalidLength (rest.length + 2) "fewer elements in array")

def ofMembers (members : List (String × Json.Value)) : Except Json.Misfit LoginResponse := do
  let success ← match Entries.get? "success" members with
    | some value => value.shape.byte.map some
    | none => pure none
  let token ← match Entries.get? "token" members with
    | some value => value.shape.text?
    | none => pure none
  match success with
  | some success => pure ⟨success, token⟩
  | none => .error (.missingField "success")

def ofValue : Json.Value → Except Json.Misfit LoginResponse
  | .array items => ofItems items
  | .object members => ofMembers members
  | value => .error (.invalidType value.shape formatName)

def members (response : LoginResponse) : List (String × Json.Value) :=
  ("success", .number (.integer response.success.toNat)) ::
    (response.token.map fun token => ("token", .string token)).toList

def toValue (response : LoginResponse) : Json.Value :=
  .object response.members

def describe (response : LoginResponse) : String :=
  let token := match response.token with
    | some token => s!"Some({Text.quote token})"
    | none => "None"
  s!"LoginResponse \x7b success: {response.success.toNat}, token: {token} \x7d"

end LoginResponse

inductive LoginReply where
  | accepted (token : String)
  | rejected
  | malformed (reason : String)
  deriving DecidableEq, Repr

namespace LoginReply

def ofResponse (response : LoginResponse) : LoginReply :=
  if response.success = 1 then
    match response.token with
    | some token => if token = "" then .malformed "success without a token" else .accepted token
    | none => .malformed "success without a token"
  else if response.success = 0 then .rejected
  else .malformed s!"unexpected success value {response.success.toNat}"

def interpret (body : Json.Value) : LoginReply :=
  match LoginResponse.ofValue body with
  | .ok response => ofResponse response
  | .error misfit => .malformed misfit.message

end LoginReply

end PracticeClient
