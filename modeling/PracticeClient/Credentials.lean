import PracticeClient.Json.Value
import PracticeClient.Text.Quoted

namespace PracticeClient

structure LoginForm where
  username : String
  password : String
  deriving DecidableEq, Repr

structure LoginRequest where
  username : String
  password : String
  deriving DecidableEq, Repr

namespace LoginForm

def empty : LoginForm := ⟨"", ""⟩

instance : Inhabited LoginForm := ⟨empty⟩

def isEmpty (form : LoginForm) : Bool :=
  form.username.isEmpty && form.password.isEmpty

def take (form : LoginForm) : LoginRequest × LoginForm :=
  (⟨form.username, form.password⟩, empty)

theorem take_request (form : LoginForm) : form.take.1 = ⟨form.username, form.password⟩ := rfl

theorem take_form (form : LoginForm) : form.take.2 = empty := rfl

end LoginForm

def describeCredentials (holder username : String) : String :=
  s!"{holder} \x7b username: {Text.quote username}, password: \"<redacted>\" \x7d"

def LoginForm.describe (form : LoginForm) : String :=
  describeCredentials "LoginForm" form.username

namespace LoginRequest

def describe (request : LoginRequest) : String :=
  describeCredentials "LoginRequest" request.username

def members (request : LoginRequest) : List (String × Json.Value) :=
  [("username", .string request.username), ("password", .string request.password)]

def toValue (request : LoginRequest) : Json.Value :=
  .object request.members

def body (request : LoginRequest) : Json.Value :=
  .ofMembers request.members

theorem body_eq (request : LoginRequest) :
    request.body = .object [("password", .string request.password),
      ("username", .string request.username)] := by
  have before : "password" < "username" := by decide
  simp [body, members, Json.Value.ofMembers, Table.ofList, Table.insertMany, Table.insert,
    Table.empty, Entries.insert, before]

end LoginRequest

end PracticeClient
