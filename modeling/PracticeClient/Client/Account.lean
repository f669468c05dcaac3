import PracticeClient.Client.Session
import PracticeClient.Credentials
import PracticeClient.LoginReply

/-!
# Signing in and out

A login posts its credentials and follows the reply: an accepted one establishes the session, a
rejected or malformed one is refused, and if none comes the server is unreachable. Each way the
user is told once. Overlapping logins do not wait for each other; the last reply decides.
-/

namespace PracticeClient

inductive LoginOutcome where
  | established
  | rejected
  | unreachable
  deriving DecidableEq, Repr

def LoginOutcome.describe : LoginOutcome → String
  | established => "Established"
  | rejected => "Rejected"
  | unreachable => "Unreachable"

namespace Account

def loginEndpoint : String := "login"

def welcome (username : String) : String := s!"Welcome back, {username}"

def signInError : String := "Sign in error"

def connectivityError : String :=
  "Internal error while signing in: make sure your internet connection is working and, if the " ++
  "error persists, contact an administrator."

def farewell : String := "Goodbye"

def accept (token username : String) : Client LoginOutcome := do
  Session.establish token username
  let current := (← Session.currentUsername).getD username
  Client.log (.info "Login successful" [("username", current)])
  Client.notify .success (welcome current)
  pure .established

def reject (username : String) : Client LoginOutcome := do
  Client.log (.info "Login rejected by server" [("username", username)])
  Client.notify .danger signInError
  pure .rejected

def rejectMalformed (username reason : String) : Client LoginOutcome := do
  Client.log (.warn "Malformed login response, treating as rejection"
    [("username", username), ("reason", reason)])
  Client.notify .danger signInError
  pure .rejected

def giveUp (error : Http.TransportError) : Client LoginOutcome := do
  Client.log (.error "Login request failed" [("error", error.message)])
  Client.notify .danger connectivityError
  pure .unreachable

def conclude (username : String) : Except Http.TransportError Json.Value → Client LoginOutcome
  | .error error => giveUp error
  | .ok body =>
    match LoginReply.interpret body with
    | .accepted token => accept token username
    | .rejected => reject username
    | .malformed reason => rejectMalformed username reason

def login (request : LoginRequest) : Client LoginOutcome := do
  Client.log (.debug "Sending login request" [("username", request.username)])
  let answer ← Client.post loginEndpoint request.body
  conclude request.username answer

def overlapWarning (pending : Nat) : LogEntry :=
  .warn "Login dispatched while another is pending, last response wins"
    [("pending", toString pending)]

def logout : Client Unit := do
  Session.clear
  Client.log (.info "Logged out" [])
  Client.notify .success farewell

end Account

end PracticeClient
