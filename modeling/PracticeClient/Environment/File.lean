import PracticeClient.Environment.Assignment
import PracticeClient.Environment.Lines
import PracticeClient.Storage.System

/-!
# Environment files

A file in the working directory, or in the nearest directory above that has one, adds variables to
the environment. What is set already stays, so earlier lines come before later ones; a line that
makes no sense ends the reading.
-/

namespace PracticeClient.Environment

def canHold (value : String) : Bool :=
  !value.toList.contains '\x00'

def adopt? (env : Environment) (name value : String) : Option Environment :=
  if (env.get? name).isSome then some env
  else if canHold value then some (env.set name value)
  else none

def adoptLines? : List (Option (List Char)) → Environment → Option Environment
  | [], env => some env
  | none :: _, env => some env
  | some line :: rest, env =>
    match Statement.ofLine env line with
    | .nothing => adoptLines? rest env
    | .malformed => some env
    | .assignment name value =>
      match env.adopt? name value with
      | some env => adoptLines? rest env
      | none => none

def adoptContent? (content : Bytes) (env : Environment) : Option Environment :=
  adoptLines? (lines content) env

def fileName : String := ".env"

/-- The content of the first file in some directories. A directory of its name is passed over. -/
def find : List Path → System (Option Bytes)
  | [] => pure none
  | directory :: rest => do
    match ← System.file (.read (directory.child fileName)) with
    | .ok content => pure (some content)
    | .error .notFound => find rest
    | .error .isDirectory => find rest
    | .error _ => pure none

def load? (env : Environment) (directory : Path) : System (Option Environment) := do
  match ← find directory.ancestors with
  | some content => pure (adoptContent? content env)
  | none => pure (some env)

end PracticeClient.Environment
