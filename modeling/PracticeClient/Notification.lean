import PracticeClient.Journal
import PracticeClient.Json.Decoding

namespace PracticeClient

inductive Severity where
  | success
  | danger
  deriving DecidableEq, Repr

namespace Severity

def name : Severity → String
  | success => "success"
  | danger => "danger"

def names : List (String × Severity) :=
  [(success.name, success), (danger.name, danger)]

def ofTree : Json.Tree → Except Json.Fault Severity :=
  Json.Tree.choice names

def toValue (severity : Severity) : Json.Value :=
  .string severity.name

end Severity

structure Notification where
  severity : Severity
  text : String
  deriving DecidableEq, Repr

namespace Notification

def logEntry (notification : Notification) : LogEntry :=
  match notification.severity with
  | .success => .info "Notification" [("text", notification.text)]
  | .danger => .warn "Notification" [("text", notification.text)]

def terminalLine (notification : Notification) : String :=
  match notification.severity with
  | .success => s!"✓ {notification.text}"
  | .danger => s!"✗ {notification.text}"

end Notification

end PracticeClient
