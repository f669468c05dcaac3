import PracticeClient.Text.Quoted

namespace PracticeClient

inductive Level where
  | debug
  | info
  | warn
  | error
  deriving DecidableEq, Repr

/-- Whether a level is let through if nothing else is said. -/
def Level.isGrave : Level → Bool
  | debug => false
  | info => false
  | warn => true
  | error => true

structure LogEntry where
  level : Level
  message : String
  details : List (String × String)
  deriving DecidableEq, Repr

namespace LogEntry

def debug (message : String) (details : List (String × String)) : LogEntry :=
  ⟨.debug, message, details⟩

def info (message : String) (details : List (String × String)) : LogEntry :=
  ⟨.info, message, details⟩

def warn (message : String) (details : List (String × String)) : LogEntry :=
  ⟨.warn, message, details⟩

def error (message : String) (details : List (String × String)) : LogEntry :=
  ⟨.error, message, details⟩

end LogEntry

end PracticeClient
