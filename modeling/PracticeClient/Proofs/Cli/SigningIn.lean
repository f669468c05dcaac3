import PracticeClient.Proofs.Cli.Outcomes
import PracticeClient.Proofs.Cli.Posting
import PracticeClient.Proofs.Cli.Stages
import PracticeClient.Proofs.Storage.KeptSession

namespace PracticeClient.Cli.View

open FileStore Http

variable {α : Type} {path : Path}

def SignedIn (files : FileSystem) (path : Path) (user : Option String) : Prop :=
  ∃ session : Option (String × String),
    session.map Prod.snd = user ∧ KeepsSession files path session

theorem SignedIn.of_stands {files after : FileSystem} {user : Option String}
    (signed : SignedIn files path user)
    (stands : ∀ content, Stands files path content → Stands after path content) :
    SignedIn after path user := by
  obtain ⟨session, named, kept⟩ := signed
  exact ⟨session, named, stands _ kept⟩

/-! ## The client over a file -/

section

variable {transport : Transport} {progress : Console.Progress} {view : View}
  {user : Option String}

theorem ends_file [Idna] {good : SystemOp → Machine → Prop}
    {holds : Option (α × Console.Progress) → View → Prop} (call : StoreCall)
    {next : call.Answer → Client α} (file : progress.store = .file path)
    (ends : (perform path call).Along good Machine.quiet view.machine →
      Ends good holds
        (carry transport progress (next ((perform path call).run Machine.quiet view.machine).1))
        { view with machine := ((perform path call).run Machine.quiet view.machine).2 }) :
    Ends good holds (carry transport progress (.step (.store call) next)) view := by
  obtain ⟨store, arrived⟩ := progress
  obtain rfl : store = .file path := file
  apply ends_store
  intro along
  rw [Store.call_file]
  exact ends ((Program.along_bind _ _ _).1 along).1

def LoggedIn (path : Path) (user : Option String) (username : String) :
    Option (LoginOutcome × Console.Progress) → View → Prop
  | some (.established, _), after => SignedIn after.machine.files path (some username)
  | _, after => SignedIn after.machine.files path user

theorem ends_accept [Idna] (file : progress.store = .file path)
    (signed : SignedIn view.machine.files path user) (token username : String) :
    Ends (Serves path) (LoggedIn path user username)
      (carry transport progress (Account.accept token username)) view := by
  obtain ⟨session, -, kept⟩ := signed
  refine ends_file (Session.establishing token username) file ?_
  intro serves
  have kept := kept.establish serves
  refine ends_log ?_
  refine ends_file (.get Session.usernameKey) file ?_
  intro serves
  obtain ⟨-, kept⟩ := kept.get serves
  refine ends_log ?_
  refine ends_of_execute (execute_notify ..) ?_
  rw [LoggedIn, said_machine]
  exact ⟨_, rfl, kept⟩

theorem ends_login [Idna] (file : progress.store = .file path)
    (signed : SignedIn view.machine.files path user) (request : LoginRequest) :
    Ends (Serves path) (LoggedIn path user request.username)
      (carry transport progress (Account.login request)) view := by
  refine ends_log (ends_post ?_)
  intro answer server
  change Ends _ _ (carry transport progress (Account.conclude request.username answer)) _
  have refused (entry : LogEntry) (notification : Notification) {outcome : LoginOutcome}
      (differs : outcome ≠ .established) :
      Ends (Serves path) (LoggedIn path user request.username)
        (carry transport progress (.step (.log entry) fun _ =>
          .step (.notify notification) fun _ => .done outcome)) { view with server } := by
    refine ends_of_execute (execute_refusal ..) ?_
    cases outcome with
    | established => exact absurd rfl differs
    | _ =>
      rw [LoggedIn, said_machine]
      · exact signed
      · simp
  cases answer with
  | error error => exact refused _ _ (by decide)
  | ok body =>
    rw [Account.conclude]
    cases LoginReply.interpret body with
    | rejected => exact refused _ _ (by decide)
    | malformed reason => exact refused _ _ (by decide)
    | accepted token =>
      apply ends_accept file
      exact signed

theorem ends_logout [Idna] {directory : Path} {name : String} (ends : EndsWithName directory)
    (solid : Path.isDot name = false) (file : progress.store = .file (directory.child name))
    (signed : SignedIn view.machine.files (directory.child name) user) :
    Ends (Serves (directory.child name))
      (fun result after => result.isSome ∧ SignedIn after.machine.files (directory.child name) none)
      (carry transport progress Account.logout) view := by
  obtain ⟨session, -, kept⟩ := signed
  refine ends_file Session.clearing file ?_
  intro serves
  have kept := kept.clear ends solid serves
  refine ends_log (ends_log ?_)
  refine ends_of_execute (execute_notify ..) ?_
  rw [said_machine]
  exact ⟨rfl, none, rfl, kept⟩

theorem ends_submissions [Idna] {good : SystemOp → Machine → Prop} :
    Ends good (fun _ after => after.machine = view.machine)
      (carry transport progress (Submissions.load (pure ()))) view := by
  apply ends_post
  intro answer server
  cases answer with
  | ok value =>
    apply ends_log
    exact ends_of_execute (execute_complete ..) rfl
  | error error =>
    apply ends_log
    exact ends_of_execute (execute_notify ..) (said_machine _ _)

theorem ends_signedIn [Idna] (file : progress.store = .file path)
    (signed : SignedIn view.machine.files path user) :
    Ends (Serves path)
      (fun result after => result = some (user, progress) ∧ after.output = view.output ∧
        SignedIn after.machine.files path user)
      (carry transport progress signedIn) view := by
  obtain ⟨session, rfl, kept⟩ := signed
  refine ends_file (.get Session.usernameKey) file ?_
  intro serves
  obtain ⟨answered, kept⟩ := kept.get serves
  rw [answered, username_sessionValues]
  cases session with
  | none => exact ends_of_execute rfl ⟨rfl, rfl, none, rfl, kept⟩
  | some held =>
    refine ends_file (.get Session.tokenKey) file ?_
    intro serves
    obtain ⟨answered, kept⟩ := kept.get serves
    rw [answered, token_sessionValues]
    refine ends_file (.get Session.usernameKey) file ?_
    intro serves
    obtain ⟨answered, kept⟩ := kept.get serves
    rw [answered, username_sessionValues]
    exact ends_of_execute rfl ⟨rfl, rfl, some held, rfl, kept⟩

end

/-! ## Commands -/

/-- The name that a login signs in with, unless its line of input is no text. -/
def usedName? (env : Environment) (config : Config) (input : Bytes) (argument : Option String) :
    Option String :=
  match argument.or (env.get? "PWS_USERNAME"), Host.decodeLine (Host.takeLine input).1 with
  | some username, _ => some username
  | none, .ok line => some (answeredName line config.lastUsername)
  | none, .error _ => none

section

variable (setting : Setting) (view : View) (typed : Except TerminalError String)

theorem execute_findUsername (argument : Option String) :
    ∃ result after, execute (typing typed (findUsername setting argument)) view =
        (some result, after) ∧ after.machine = view.machine ∧ ∀ username, result = .ok username →
      usedName? setting.environment setting.config view.input argument = some username := by
  unfold findUsername usedName?
  cases argument.or (setting.environment.get? "PWS_USERNAME") with
  | some username => exact ⟨_, _, rfl, rfl, fun _ same => by cases same; rfl⟩
  | none =>
    rw [askUsername, Program.bind_eq, typing_bind, execute_bind]
    have printed : execute (typing typed (Console.print (usernameQuestion
        setting.config.lastUsername))) view = (some (), { view with
          output := view.output ++ usernameQuestion setting.config.lastUsername }) := rfl
    rw [printed, andThen, Program.bind_eq, typing_bind, execute_bind]
    have heard (view : View) : execute (typing typed Console.readLine) view =
        (some (Host.decodeLine (Host.takeLine view.input).1),
          { view with input := (Host.takeLine view.input).2 }) := rfl
    rw [heard, andThen]
    cases Host.decodeLine (Host.takeLine view.input).1 with
    | ok line => exact ⟨_, _, rfl, rfl, fun _ same => by cases same; rfl⟩
    | error error => exact ⟨_, _, rfl, rfl, fun _ same => by cases same⟩

theorem execute_findPassword :
    ∃ result after, execute (typing typed (findPassword setting)) view = (some result, after) ∧
      after.machine = view.machine := by
  unfold findPassword
  cases setting.environment.get? "PWS_PASSWORD" with
  | some password => exact ⟨_, _, rfl, rfl⟩
  | none => cases typed <;> exact ⟨_, _, rfl, rfl⟩

theorem execute_findCredentials (argument : Option String) :
    ∃ result after, execute (typing typed (findCredentials setting argument)) view =
        (some result, after) ∧ after.machine = view.machine ∧ ∀ form, result = .ok form →
      usedName? setting.environment setting.config view.input argument = some form.username := by
  obtain ⟨named, asked, executed, same, used⟩ :=
    execute_findUsername setting view typed argument
  unfold findCredentials
  rw [Program.bind_eq, typing_bind, execute_bind, executed]
  cases named with
  | error error => exact ⟨_, _, rfl, same, fun _ same => by cases same⟩
  | ok username =>
    obtain ⟨found, after, executed', same'⟩ :=
      execute_findPassword setting asked typed
    rw [andThen]
    dsimp only
    rw [Program.bind_eq, typing_bind, execute_bind, executed']
    cases found with
    | error error => exact ⟨_, _, rfl, same'.trans same, fun _ same => by cases same⟩
    | ok password =>
      rw [andThen]
      dsimp only
      split
      · exact ⟨_, _, rfl, same'.trans same, fun _ same => by cases same⟩
      · exact ⟨_, _, rfl, same'.trans same, fun _ same => by cases same; exact used username rfl⟩

abbrev TextIn (directory : Path) (content : Bytes) (machine : Machine) : Prop :=
  machine.files.content? (directory.child "session.json") = some content

theorem content_save (config : Config) (env : Environment) {directory : Path} {machine : Machine}
    {content : Bytes} (there : TextIn directory content machine) :
    TextIn directory content ((config.saveOwn env).run Machine.quiet machine).2 := by
  unfold Config.saveOwn
  cases own : Config.file env with
  | error error => exact there
  | ok path =>
  obtain ⟨place, -, rfl⟩ := file_eq_ok.1 own
  have made : TextIn directory content
      ((createParent (place.child "config.json")).run Machine.quiet machine).2 := by
    unfold createParent
    cases (place.child "config.json").parent? with
    | none => exact there
    | some parent => exact FileOp.handle_createDirectories there
  apply Program.after_bind (TextIn directory content) made
  rintro answer machine - made
  cases answer with
  | error error => exact made
  | ok _ =>
    have apart : FileSystem.Apart (place.child "config.json") (directory.child "session.json") :=
      children_apart (by decide) (by decide) (by decide) (by decide)
    have written : TextIn directory content
        ((System.file (.write (place.child "config.json") (Text.utf8 config.text))).run
          Machine.quiet machine).2 := (FileOp.handle_write.2 apart).trans made
    apply Program.after_bind (TextIn directory content) written
    rintro answer machine - written
    cases answer <;> exact written

theorem execute_remember_eq (username : String) :
    execute (remember setting username) view =
      (some (), { view with machine :=
        (({ setting.config with lastUsername := some username }.saveOwn
          setting.environment).run Machine.quiet view.machine).2 }) := by
  unfold remember
  dsimp only
  rw [Program.bind_eq, execute_bind, execute_ofSystem, andThen]
  cases (({ setting.config with lastUsername := some username }.saveOwn
    setting.environment).run Machine.quiet view.machine).1 <;> rfl

theorem execute_remember {view : View} {directory : Path} {username : String}
    (signed : SignedIn view.machine.files (directory.child "session.json") (some username))
    (last : String) :
    ∃ after, execute (remember setting last) view = (some (), after) ∧
      SignedIn after.machine.files (directory.child "session.json") (some username) := by
  obtain ⟨session, named, kept⟩ := signed
  cases session with
  | none => cases named
  | some held =>
    have saved := content_save { setting.config with lastUsername := some last }
      setting.environment kept.now
    exact ⟨_, execute_remember_eq setting _ last, some held, named, .of_content saved⟩

end

/-! ## What a command leaves -/

def leaves (names : Option String → Option String) (user : Option String) :
    Command → Option String
  | .login argument => names argument
  | .logout => none
  | _ => user

def statusOf : Except RunError ExitStatus → ExitStatus
  | .ok status => status
  | .error _ => .failure

/-- A command that succeeds signs in or out, if it is for this. Otherwise nobody has moved. -/
structure Settles (path : Path) (names : Option String → Option String) (user : Option String)
    (command : Command) (status : Option ExitStatus) (after : View) : Prop where
  success : status = some .success →
    SignedIn after.machine.files path (leaves names user command) ∧
      ∀ argument, command = .login argument → (names argument).isSome = true
  failure : status ≠ some .success → SignedIn after.machine.files path user

section

variable {setting : Setting} {view : View} {user : Option String}
  {typed : Except TerminalError String}

theorem settles_of_failure {names : Option String → Option String} {command : Command}
    {status : Option ExitStatus} {after : View} (failed : status ≠ some .success)
    (signed : SignedIn after.machine.files path user) :
    Settles path names user command status after :=
  ⟨fun done => absurd done failed, fun _ => signed⟩

theorem settles_of_idle {names : Option String → Option String} {command : Command}
    (idle : leaves names user command = user) (other : ∀ argument, command ≠ .login argument)
    {status : Option ExitStatus} {after : View} (signed : SignedIn after.machine.files path user) :
    Settles path names user command status after := by
  refine ⟨fun _ => ⟨?_, ?_⟩, fun _ => signed⟩
  · rwa [idle]
  · intro argument same
    exact absurd same (other argument)

theorem ends_login_command [Idna] {directory : Path}
    (file : setting.store = .file (directory.child "session.json"))
    (signed : SignedIn view.machine.files (directory.child "session.json") user)
    (argument : Option String) :
    Ends (Serves (directory.child "session.json"))
      (fun result => Settles (directory.child "session.json")
        (usedName? setting.environment setting.config view.input) user (.login argument)
        (result.map statusOf))
      (typing typed (login setting argument)) view := by
  unfold login
  rw [Program.bind_eq, typing_bind]
  obtain ⟨found, asked, executed, same, used⟩ :=
    execute_findCredentials setting view typed argument
  refine ends_bind (ends_of_execute executed ?_)
  rw [← same] at signed
  cases found with
  | error error =>
    rw [thenEnds]
    exact ends_done (settles_of_failure (by simp [statusOf]) signed)
  | ok form =>
    have used := used form rfl
    rw [thenEnds]
    dsimp only
    rw [Program.bind_eq, typing_bind,
      typing_of_silent (silent_client setting _)]
    apply ends_bind
    refine ends_mono (ends_login file signed form.take.1) ?_
    intro result after logged
    cases result with
    | none => exact settles_of_failure (by simp) logged
    | some result =>
      obtain ⟨outcome, progress⟩ := result
      rw [thenEnds]
      apply ends_note
      cases outcome with
      | established =>
        change Ends _ _ (typing typed ((remember setting form.username).bind _)) _
        rw [typing_bind, typing_of_silent (silent_remember ..)]
        -- The session is there, and the username is remembered in another file.
        obtain ⟨after', executed', kept⟩ := execute_remember setting logged form.username
        refine ends_bind (ends_of_execute executed' ?_)
        rw [thenEnds]
        refine ends_done ⟨fun _ => ⟨?_, ?_⟩, fun failed => absurd rfl failed⟩
        · rw [leaves, used]
          exact kept
        · intro argument' same
          cases same
          rw [used]
          rfl
      | rejected =>
        exact ends_done (settles_of_failure (by simp [statusOf, ExitStatus.ofBool]) logged)
      | unreachable =>
        exact ends_done (settles_of_failure (by simp [statusOf, ExitStatus.ofBool]) logged)

theorem ends_logout_command [Idna] {directory : Path} {name : String}
    (ends : EndsWithName directory) (solid : Path.isDot name = false)
    (file : setting.store = .file (directory.child name))
    (signed : SignedIn view.machine.files (directory.child name) user)
    (names : Option String → Option String) :
    Ends (Serves (directory.child name))
      (fun result => Settles (directory.child name) names user .logout (result.map statusOf))
      (carryOut setting .logout) view := by
  refine ends_bind (ends_bind (ends_mono (ends_logout ends solid file signed) ?_))
  intro result after reached
  obtain ⟨done, signed⟩ := reached
  cases result with
  | none => cases done
  | some result =>
    apply thenEnds_done
    apply thenEnds_done
    refine ⟨fun _ => ⟨signed, ?_⟩, fun failed => absurd rfl failed⟩
    intro argument same
    cases same

def Told (user : Option String) (before : View) (result : Option (Except RunError ExitStatus))
    (after : View) : Prop :=
  match user with
  | some username => result = some (.ok .success) ∧
      after.output = before.output ++ s!"Signed in as {username}\n"
  | none => result = some (.ok .failure) ∧ after.output = before.output ++ "Not signed in\n"

theorem ends_status [Idna] (file : setting.store = .file path)
    (signed : SignedIn view.machine.files path user) :
    Ends (Serves path)
      (fun result after => Told user view result after ∧ SignedIn after.machine.files path user)
      (carryOut setting .status) view := by
  refine ends_bind (ends_bind (ends_mono (ends_signedIn file signed) ?_))
  rintro result after ⟨rfl, said, signed⟩
  have told (text : String) : after.output ++ text = view.output ++ text := by rw [said]
  cases user with
  | none => exact ends_of_execute rfl (thenEnds_done ⟨⟨rfl, told _⟩, signed⟩)
  | some username => exact ends_of_execute rfl (thenEnds_done ⟨⟨rfl, told _⟩, signed⟩)

theorem ends_submissions_command [Idna] (signed : SignedIn view.machine.files path user)
    (names : Option String → Option String) :
    Ends (Serves path)
      (fun result => Settles path names user .submissions (result.map statusOf))
      (carryOut setting .submissions) view := by
  refine ends_bind (ends_bind (ends_mono ends_submissions ?_))
  intro result after same
  rw [← same] at signed
  have idle {status : Option ExitStatus} :
      Settles path names user .submissions status after :=
    settles_of_idle rfl (fun _ same => by cases same) signed
  cases result with
  | none => exact idle
  | some result =>
    apply thenEnds_done
    exact thenEnds_done idle

theorem ends_carryOut [Idna] {directory : Path} (ends : EndsWithName directory)
    (file : setting.store = .file (directory.child "session.json"))
    (signed : SignedIn view.machine.files (directory.child "session.json") user)
    {command : Command} (real : command ≠ .help) :
    Ends (Serves (directory.child "session.json"))
      (fun result => Settles (directory.child "session.json")
        (usedName? setting.environment setting.config view.input) user command
        (result.map statusOf))
      (typing typed (carryOut setting command)) view := by
  cases command with
  | login argument => exact ends_login_command file signed argument
  | logout =>
    rw [typing_of_silent (silent_carryOut setting .logout fun _ => nofun)]
    exact ends_logout_command ends (by decide) file signed _
  | status =>
    rw [typing_of_silent (silent_carryOut setting .status fun _ => nofun)]
    refine ends_mono (ends_status file signed) ?_
    intro result after told
    exact settles_of_idle rfl (fun _ same => by cases same) told.2
  | submissions =>
    rw [typing_of_silent (silent_carryOut setting .submissions fun _ => nofun)]
    exact ends_submissions_command signed _
  | help => exact absurd rfl real

end

end PracticeClient.Cli.View
