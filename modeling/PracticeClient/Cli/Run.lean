import PracticeClient.Cli.Command
import PracticeClient.Cli.Console
import PracticeClient.Client.Account
import PracticeClient.Client.Submissions
import PracticeClient.Config.File
import PracticeClient.Environment.File

/-!
# Runs

A run reads its environment file, parses its arguments, loads its configuration, opens its store and
finds its server before it carries out its command, whichever that is. Help needs none of these but
the first two.
-/

namespace PracticeClient.Cli

variable [Idna]

structure Invocation where
  arguments : List String
  environment : Environment
  directory : Path

inductive ExitStatus where
  | success
  | failure
  deriving DecidableEq, Repr

def ExitStatus.code : ExitStatus → UInt8
  | success => 0
  | failure => 1

def ExitStatus.ofBool (done : Bool) : ExitStatus :=
  if done then .success else .failure

inductive RunError where
  | usage (error : UsageError)
  | noStore (error : ConfigError)
  | address (error : Http.AddressError)
  | unreadableInput (error : FileError)
  | noPassword (error : TerminalError)
  | noCredentials
  deriving DecidableEq, Repr

namespace RunError

def message : RunError → String
  | usage error => error.message
  | noStore error => error.message
  | address error => error.message
  | unreadableInput error => error.message
  | noPassword _ => "Failed to read password"
  | noCredentials => "Username and password required"

def cause? : RunError → Option String
  | usage _ => none
  | noStore error => error.cause?
  | address error => some error.cause.message
  | unreadableInput _ => none
  | noPassword error => some error.message
  | noCredentials => none

def text (error : RunError) : String :=
  match error.cause? with
  | some cause => s!"Error: {error.message}\n\nCaused by:\n    {cause}\n"
  | none => s!"Error: {error.message}\n"

end RunError

/-! ## Starting -/

def logName : String := "pws.log"

def logFile? (env : Environment) : Option Path :=
  if (env.get? "PWS_LOG_FILE").isSome then
    (Config.cacheDirectory env).toOption.map (·.child logName)
  else none

def openLog (path : Path) : System (Except FileError Unit) := do
  match ← System.file (.touch path) with
  | .ok () => pure (.ok ())
  | .error _ =>
    match ← FileStore.createParent path with
    | .error error => pure (.error error)
    | .ok () => System.file (.touch path)

def logSetting (env : Environment) : LogSetting :=
  ⟨env.get? "RUST_LOG", logFile? env⟩

/-- Starts the log. A run that cannot open the file of its log comes to grief. -/
def startLog (env : Environment) : Console Unit :=
  match logFile? env with
  | none => Console.startLog (logSetting env)
  | some path => do
    match ← Console.ofSystem (openLog path) with
    | .ok () => Console.startLog (logSetting env)
    | .error _ => Console.crash

/-- The configuration of a run. One that cannot be loaded counts as missing, and the environment
has the last word on the server. -/
def configure (env : Environment) : Console Config := do
  let loaded ← match ← Console.ofSystem (Config.loadOwn env) with
    | .ok config => pure config
    | .error error => do
      Console.log (.warn "Failed to load config, using defaults" [("error", error.message)])
      pure .standard
  let config := { loaded with baseUrl := (env.get? "PWS_BASE_URL").getD loaded.baseUrl }
  Console.log (.debug "Config loaded"
    [("base_url", config.baseUrl), ("storage", config.storage.describe)])
  pure config

/-! ## Commands -/

structure Setting where
  environment : Environment
  config : Config
  transport : Http.Transport
  store : Store

/-- What the commands of a configuration are carried out with. The store comes before the server. -/
def Setting.find (env : Environment) (config : Config) : Except RunError Setting := do
  let store ← (config.openStore env).mapError .noStore
  let transport ← (Http.Transport.ofAddress config.baseUrl).mapError .address
  pure ⟨env, config, transport, store⟩

def Setting.perform {α : Type} (setting : Setting) (client : Client α) :
    Console (α × Console.Progress) :=
  Console.ofClient setting.transport setting.store client

def usernameQuestion : Option String → String
  | some username => s!"Username [{username}]: "
  | none => "Username: "

def answeredName (line : String) (last : Option String) : String :=
  let name := Text.trim line
  if name = "" then last.getD "" else name

def askUsername (last : Option String) : Console (Except RunError String) := do
  Console.print (usernameQuestion last)
  match ← Console.readLine with
  | .ok line => pure (.ok (answeredName line last))
  | .error error => pure (.error (.unreadableInput error))

def findUsername (setting : Setting) (argument : Option String) :
    Console (Except RunError String) :=
  match argument.or (setting.environment.get? "PWS_USERNAME") with
  | some username => pure (.ok username)
  | none => askUsername setting.config.lastUsername

def findPassword (setting : Setting) : Console (Except RunError String) :=
  match setting.environment.get? "PWS_PASSWORD" with
  | some password => pure (.ok password)
  | none => do
    match ← Console.askPassword "Password: " with
    | .ok password => pure (.ok password)
    | .error error => pure (.error (.noPassword error))

def findCredentials (setting : Setting) (argument : Option String) :
    Console (Except RunError LoginForm) := do
  match ← findUsername setting argument with
  | .error error => pure (.error error)
  | .ok username =>
    match ← findPassword setting with
    | .error error => pure (.error error)
    | .ok password =>
      if username = "" ∨ password = "" then pure (.error .noCredentials)
      else pure (.ok ⟨username, password⟩)

def remember (setting : Setting) (username : String) : Console Unit := do
  let config := { setting.config with lastUsername := some username }
  match ← Console.ofSystem (config.saveOwn setting.environment) with
  | .ok () => pure ()
  | .error error => Console.log (.warn "Failed to save config" [("error", error.message)])

def login (setting : Setting) (argument : Option String) :
    Console (Except RunError ExitStatus) := do
  match ← findCredentials setting argument with
  | .error error => pure (.error error)
  | .ok form =>
    let (outcome, _) ← setting.perform (Account.login form.take.1)
    Console.log (.info "Login finished" [("outcome", outcome.describe)])
    if outcome = .established then remember setting form.username
    pure (.ok (.ofBool (outcome = .established)))

def logout (setting : Setting) : Console ExitStatus := do
  let _ ← setting.perform Account.logout
  pure .success

def signedIn : Client (Option String) := do
  match ← Session.currentUsername with
  | none => pure none
  | some username =>
    let authenticated ← Session.isAuthenticated
    pure (if authenticated then some username else none)

def status (setting : Setting) : Console ExitStatus := do
  let (username, _) ← setting.perform signedIn
  match username with
  | some username =>
    Console.print s!"Signed in as {username}\n"
    pure .success
  | none =>
    Console.print "Not signed in\n"
    pure .failure

def submissions (setting : Setting) : Console ExitStatus := do
  let (_, progress) ← setting.perform (Submissions.load (pure ()))
  pure (.ofBool progress.arrived)

def carryOut (setting : Setting) : Command → Console (Except RunError ExitStatus)
  | .login argument => login setting argument
  | .logout => do pure (.ok (← logout setting))
  | .status => do pure (.ok (← status setting))
  | .submissions => do pure (.ok (← submissions setting))
  | .help => pure (.ok .success)

/-! ## Whole runs -/

def runCommand (env : Environment) (command : Command) : Console (Except RunError ExitStatus) := do
  let config ← configure env
  match Setting.find env config with
  | .error error => pure (.error error)
  | .ok setting => carryOut setting command

def runArguments (env : Environment) (arguments : List String) :
    Console (Except RunError ExitStatus) :=
  match Command.parse arguments with
  | .error error => pure (.error (.usage error))
  | .ok .help => do
    Console.print (usage ++ "\n")
    pure (.ok .success)
  | .ok command => runCommand env command

def conclude : Except RunError ExitStatus → Console ExitStatus
  | .ok status => pure status
  | .error error => do
    Console.report error.text
    pure .failure

def run (invocation : Invocation) : Console ExitStatus := do
  match ← Console.ofSystem (invocation.environment.load? invocation.directory) with
  | none => Console.crash
  | some env =>
    startLog env
    conclude (← runArguments env invocation.arguments)

end PracticeClient.Cli
