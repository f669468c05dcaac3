namespace PracticeClient.Cli

inductive Command where
  | login (username : Option String)
  | logout
  | status
  | submissions
  | help
  deriving DecidableEq, Repr

inductive UsageError where
  | tooManyNames
  | unknownCommand (name : String)
  | unexpectedArgument (argument : String)
  deriving DecidableEq, Repr

def usage : String := "Usage: pws <command>

Commands:
  login [username]   Sign in (password from PWS_PASSWORD or prompt)
  logout             Sign out and forget the session
  status             Show who is signed in
  submissions        Load your submissions
  help               Show this message"

def UsageError.message : UsageError → String
  | tooManyNames => s!"login takes at most one argument\n\n{usage}"
  | unknownCommand name => s!"Unknown command '{name}'\n\n{usage}"
  | unexpectedArgument argument => s!"Unexpected argument '{argument}'\n\n{usage}"

namespace Command

def ofName? (name : String) : Option Command :=
  if name = "status" then some .status
  else if name = "logout" then some .logout
  else if name = "submissions" then some .submissions
  else if name = "help" ∨ name = "-h" ∨ name = "--help" then some .help
  else none

def parse : List String → Except UsageError Command
  | [] => .ok .status
  | name :: arguments =>
    if name = "login" then
      match arguments with
      | [] => .ok (.login none)
      | [username] => .ok (.login (some username))
      | _ => .error .tooManyNames
    else
      match ofName? name, arguments with
      | none, _ => .error (.unknownCommand name)
      | some command, [] => .ok command
      | some _, argument :: _ => .error (.unexpectedArgument argument)

end Command

end PracticeClient.Cli
