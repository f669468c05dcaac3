import PracticeClient.Client.Effect

namespace PracticeClient.Session

def tokenKey : String := "token"

def usernameKey : String := "username"

def isAuthenticated : Client Bool := do
  match ← Client.store (.get tokenKey) with
  | none => pure false
  | some _ =>
    let username ← Client.store (.get usernameKey)
    pure username.isSome

def currentUsername : Client (Option String) :=
  Client.store (.get usernameKey)

def establishing (token username : String) : StoreCall :=
  .setMany [(tokenKey, token), (usernameKey, username)]

def clearing : StoreCall :=
  .removeMany [tokenKey, usernameKey]

def establish (token username : String) : Client Unit := do
  Client.store (establishing token username)
  Client.log (.debug "Session established" [("username", username)])

def clear : Client Unit := do
  Client.store clearing
  Client.log (.debug "Session cleared" [])

end PracticeClient.Session
