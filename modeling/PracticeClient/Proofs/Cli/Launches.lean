import PracticeClient.Proofs.Cli.Logs
import PracticeClient.Proofs.Cli.SigningIn

namespace PracticeClient.Cli

open FileStore View

def signsInOrOut : Command → Bool
  | .login _ => true
  | .logout => true
  | _ => false

structure Launch where
  invocation : Invocation
  host : Host
  typed : Except TerminalError String

namespace Launch

variable (launch : Launch)

def result [Idna] : Option ExitStatus × Host :=
  Host.execute (typing launch.typed (run launch.invocation)) { launch.host with log := none }

def exit [Idna] : UInt8 := Host.exitCode launch.result.1

def after [Idna] : Host := launch.result.2.close

/-- How it ends apart from its log. -/
def ending [Idna] : Option ExitStatus × View :=
  execute (typing launch.typed (run launch.invocation)) launch.host.view

def command? : Option Command :=
  (Command.parse launch.invocation.arguments).toOption

def environment? : Option Environment :=
  ((launch.invocation.environment.load? launch.invocation.directory).run Machine.quiet
    launch.host.machine).1

def setup? : Option (Environment × Config) :=
  ((prepare launch.invocation).run Machine.quiet launch.host.machine).1

def username? (argument : Option String) : Option String :=
  launch.setup?.bind fun setup => usedName? setup.1 setup.2 launch.host.input argument

def counts [Idna] : Bool :=
  launch.exit == 0 && launch.command?.any signsInOrOut

def user? : Option String :=
  match launch.command? with
  | some (.login argument) => launch.username? argument
  | _ => none

end Launch

def Launch.Ready [Idna] (launch : Launch) : Prop :=
  ∃ setup ∈ launch.setup?, (Http.Transport.ofAddress setup.2.baseUrl).isOk = true

def sessionIn (directory : Path) : Path := directory.child "session.json"

/-- A launch that keeps its session in a file of a directory, and to which nothing fails that it
does to the file. -/
structure Launch.Shares [Idna] (directory : Path) (launch : Launch) : Prop where
  place : ∀ env, launch.environment? = some env → Config.cacheDirectory env = .ok directory
  backend : ∀ env config, launch.setup? = some (env, config) → config.storage = .file
  succeeds : Along (Serves (sessionIn directory)) (typing launch.typed (run launch.invocation))
    launch.host.view

instance [Idna] (directory : Path) (launch : Launch) : Decidable (launch.Shares directory) :=
  decidable_of_iff
    ((∀ env ∈ launch.environment?, Config.cacheDirectory env = .ok directory) ∧
      (∀ setup ∈ launch.setup?, setup.2.storage = .file) ∧
      Along (Serves (sessionIn directory)) (typing launch.typed (run launch.invocation))
        launch.host.view)
    ⟨fun ⟨place, backend, succeeds⟩ => ⟨place, fun _ _ => backend _, succeeds⟩,
      fun shares => ⟨shares.place, fun setup => shares.backend setup.1 setup.2, shares.succeeds⟩⟩

/-- Launches that share a directory, up to a moment at which the files are as given. There is no
session file at first. Between launches others may do what they like to any other file. -/
inductive History [Idna] (directory : Path) : List Launch → FileSystem → Prop
  | opening {files : FileSystem} (absent : Stands files (sessionIn directory) none) :
    History directory [] files
  | launch {launches : List Launch} {launch : Launch}
    (history : History directory launches launch.host.machine.files)
    (shares : launch.Shares directory) :
    History directory (launches ++ [launch]) launch.after.machine.files
  | others {launches : List Launch} {files changed : FileSystem}
    (history : History directory launches files)
    (spared : ∀ content, Stands files (sessionIn directory) content →
      Stands changed (sessionIn directory) content) :
    History directory launches changed

def latest? [Idna] (launches : List Launch) : Option Launch :=
  (launches.filter (·.counts)).getLast?

/-! ## One launch -/

namespace Launch

variable {launch : Launch} {directory path : Path} {user : Option String}

theorem execute_typing_noTerminal {α : Type} (program : Console α) (host : Host) :
    Host.execute (typing (.error .noTerminal) program) host = Host.execute program host := by
  induction program generalizing host with
  | done value => rfl
  | step op next ih =>
    cases op with
    | askPassword question => exact ih (.error .noTerminal) host
    | crash => rfl
    | _ => exact ih _ _

theorem hostRun_eq [Idna] (typed : launch.typed = .error .noTerminal) :
    Host.run launch.invocation launch.host = (launch.exit, launch.after) := by
  unfold exit after result
  rw [typed, execute_typing_noTerminal]
  rfl

theorem result_eq_ending [Idna] (launch : Launch) :
    launch.result.1 = launch.ending.1 ∧ launch.result.2.view = launch.ending.2 :=
  Host.view_execute (typing launch.typed (run launch.invocation)) { launch.host with log := none }

theorem exit_eq [Idna] (launch : Launch) : launch.exit = Host.exitCode launch.ending.1 :=
  congrArg Host.exitCode launch.result_eq_ending.1

theorem exit_eq_zero [Idna] : launch.exit = 0 ↔ launch.ending.1 = some .success := by
  rw [exit_eq]
  cases launch.ending.1 with
  | none => decide
  | some status => cases status <;> decide

theorem output_after [Idna] (launch : Launch) : launch.after.output = launch.ending.2.output :=
  (Host.output_close _).trans (congrArg View.output launch.result_eq_ending.2)

theorem errors_after [Idna] (launch : Launch) : launch.after.errors = launch.ending.2.errors :=
  (Host.errors_close _).trans (congrArg View.errors launch.result_eq_ending.2)

theorem after_cases [Idna] (launch : Launch) :
    launch.after.machine = launch.ending.2.machine ∨ ∃ env path more,
      launch.environment? = some env ∧ logFile? env = some path ∧ launch.after.machine =
        { launch.ending.2.machine with
          files := launch.ending.2.machine.files.append path more } := by
  have machine : launch.result.2.machine = launch.ending.2.machine :=
    congrArg View.machine launch.result_eq_ending.2
  have started := Host.setting?_run launch.invocation launch.typed
    (rfl : { launch.host with log := none }.log = none)
  obtain same | ⟨setting, path, more, set, file, same⟩ := launch.result.2.close_cases
  · exact .inl (same.trans machine)
  · obtain unset | ⟨env, loaded, set'⟩ := started
    · cases unset.symm.trans set
    · cases set'.symm.trans set
      rw [machine] at same
      exact .inr ⟨env, path, more, loaded, file, same⟩

theorem resembles_after [Idna] (launch : Launch) :
    Machine.Resembles [logName] launch.ending.2.machine launch.after.machine := by
  obtain same | ⟨env, path, more, -, file, same⟩ := launch.after_cases
  · rw [same]
    exact .refl _ _
  · obtain ⟨-, directory, -, rfl⟩ := logFile?_eq_some.1 file
    rw [same]
    exact ⟨FileSystem.resembles_append _ (fileName_child (by decide) (by decide) directory) more,
      rfl⟩

theorem stands_after [Idna] {content : Option Bytes}
    (place : ∀ env, launch.environment? = some env → Config.cacheDirectory env = .ok directory)
    (stands : Stands launch.ending.2.machine.files (sessionIn directory) content) :
    Stands launch.after.machine.files (sessionIn directory) content := by
  obtain same | ⟨env, path, more, loaded, file, same⟩ := launch.after_cases
  · rwa [same]
  · obtain ⟨-, directory', placed, rfl⟩ := logFile?_eq_some.1 file
    cases (place env loaded).symm.trans placed
    rw [same]
    exact stands.append (endsWithName_place placed) (by decide) (by decide) (by decide)
      (by decide) (by decide) more

structure Leaves [Idna] (path : Path) (user : Option String) (launch : Launch) : Prop where
  signedIn : SignedIn launch.ending.2.machine.files path
    (if launch.counts then launch.user? else user)
  named : ∀ argument, launch.counts = true → launch.command? = some (.login argument) →
    (launch.username? argument).isSome = true

theorem leaves_of_idle [Idna] (idle : launch.counts = false)
    (signed : SignedIn launch.ending.2.machine.files path user) : Leaves path user launch := by
  refine ⟨?_, ?_⟩
  · rwa [idle]
  · intro argument counts
    rw [idle] at counts
    cases counts

theorem parsed_of_command? {command : Command} (asked : launch.command? = some command) :
    Command.parse launch.invocation.arguments = .ok command := by
  unfold command? at asked
  cases parsed : Command.parse launch.invocation.arguments with
  | error error =>
    rw [parsed] at asked
    cases asked
  | ok command' =>
    rw [parsed] at asked
    cases asked
    rfl

theorem leaves_of_settles [Idna] {command : Command} (asked : launch.command? = some command)
    (settles : Settles path launch.username? user command launch.ending.1 launch.ending.2) :
    Leaves path user launch := by
  by_cases done : launch.ending.1 = some .success
  · obtain ⟨signed, named⟩ := settles.success done
    have counting : launch.counts = signsInOrOut command := by
      rw [counts, launch.exit_eq_zero.2 done, asked]
      rfl
    refine ⟨?_, ?_⟩
    · cases command <;> simpa [counting, signsInOrOut, user?, asked, leaves] using signed
    · intro argument _ asked'
      exact named argument (Option.some.inj (asked.symm.trans asked'))
  · have failed : launch.exit ≠ 0 := fun zero => done (launch.exit_eq_zero.1 zero)
    apply leaves_of_idle _ (settles.failure done)
    simp [counts, failed]

theorem ending_eq [Idna] (launch : Launch) :
    launch.ending = execute (typing launch.typed (orCrash (carryOn launch.invocation.arguments)
        ((begin launch.invocation).run Machine.quiet launch.host.machine).1))
      { launch.host.view with
        machine := ((begin launch.invocation).run Machine.quiet launch.host.machine).2 } := by
  rw [ending, run_eq, typing_bind, typing_of_silent (silent_ofSystem _), execute_bind,
    execute_ofSystem]
  rfl

theorem ending_of_no_command [Idna]
    (idle : launch.command? = none ∨ launch.command? = some .help) :
    launch.ending.2.machine =
      ((begin launch.invocation).run Machine.quiet launch.host.machine).2 := by
  rw [ending_eq]
  cases ((begin launch.invocation).run Machine.quiet launch.host.machine).1 with
  | none => rfl
  | some env =>
    rw [orCrash, carryOn, runArguments]
    unfold command? at idle
    cases parsed : Command.parse launch.invocation.arguments with
    | error error => rfl
    | ok command =>
      rw [parsed] at idle
      rcases idle with idle | idle
      · cases idle
      · cases idle
        rfl

section

variable {view : View} {typed : Except TerminalError String}
  {names : Option String → Option String} {command : Command}

theorem along_run_of_command [Idna] {good : SystemOp → Machine → Prop} {invocation : Invocation}
    (parsed : Command.parse invocation.arguments = .ok command) (real : command ≠ .help) :
    Along good (typing typed (run invocation)) view ↔
      (prepare invocation).Along good Machine.quiet view.machine ∧
        Along good (typing typed (orCrash (finish command)
            ((prepare invocation).run Machine.quiet view.machine).1))
          { view with machine := ((prepare invocation).run Machine.quiet view.machine).2 } := by
  rw [run_of_command parsed real, typing_bind, typing_of_silent (silent_ofSystem _), along_bind,
    along_ofSystem, execute_ofSystem, prepare, Program.bind_eq, Program.along_bind,
    Program.run_bind, and_assoc]
  refine and_congr_right fun _ => ?_
  generalize (begin invocation).run Machine.quiet view.machine = begun
  obtain ⟨found, machine⟩ := begun
  simp only [Option.mem_some_iff, forall_eq']
  cases found with
  | none => exact ⟨fun along => ⟨trivial, along⟩, And.right⟩
  | some env =>
    have started (rest : Console ExitStatus) :
        Along good (typing typed ((Console.startLog (logSetting env)).bind fun _ => rest))
          { view with machine } ↔ Along good (typing typed rest) { view with machine } :=
      ⟨fun along => along.2 () rfl, fun along => ⟨trivial, fun _ _ => along⟩⟩
    dsimp only
    rw [orCrash, started, typing_bind, typing_of_silent (silent_ofSystem _), along_bind,
      along_ofSystem, execute_ofSystem, Program.bind_eq, Program.along_bind, Program.run_bind]
    simp only [Option.mem_some_iff, forall_eq', Program.pure_eq_done, Program.Along, and_true]
    exact Iff.rfl

theorem ends_run_of_command [Idna] {good : SystemOp → Machine → Prop}
    {holds : Option ExitStatus → View → Prop} {invocation : Invocation}
    (parsed : Command.parse invocation.arguments = .ok command) (real : command ≠ .help)
    (ends : Ends good holds
      (typing typed (orCrash (finish command)
        ((prepare invocation).run Machine.quiet view.machine).1))
      { view with machine := ((prepare invocation).run Machine.quiet view.machine).2 }) :
    Ends good holds (typing typed (run invocation)) view := by
  intro along
  rw [execute_run_of_command parsed real]
  exact ends ((along_run_of_command parsed real).1 along).2

theorem openStore_of_file {env : Environment} {config : Config} (backend : config.storage = .file)
    (place : Config.cacheDirectory env = .ok directory) :
    config.openStore env = .ok (.file (sessionIn directory)) := by
  rw [Config.openStore, backend]
  simp only [Config.sessionFile, place, Except.map]
  rfl

theorem ends_serve [Idna] {env : Environment} {config : Config}
    (place : Config.cacheDirectory env = .ok directory) (backend : config.storage = .file)
    (signed : SignedIn view.machine.files (sessionIn directory) user) (real : command ≠ .help) :
    Ends (Serves (sessionIn directory))
      (fun result => Settles (sessionIn directory) (usedName? env config view.input) user command
        (result.map statusOf))
      (typing typed (serve env command config)) view := by
  unfold serve
  cases found : Setting.find env config with
  | error error => exact ends_done (settles_of_failure (by simp [statusOf]) signed)
  | ok setting =>
    obtain ⟨opened, -, rfl, rfl⟩ := Setting.find_eq_ok.1 found
    rw [openStore_of_file backend place] at opened
    exact ends_carryOut (endsWithName_place place) (Except.ok.inj opened).symm signed real

theorem ends_conclusion {result : Option (Except RunError ExitStatus)} {after : View}
    {good : SystemOp → Machine → Prop}
    (settles : Settles path names user command (result.map statusOf) after) :
    thenEnds good (Settles path names user command) (fun result => typing typed (conclude result))
      result after := by
  cases result with
  | none => exact settles
  | some result =>
    cases result with
    | ok status => exact ends_done settles
    | error error => exact ends_of_execute rfl ⟨settles.success, settles.failure⟩

theorem ends_command [Idna] (shares : launch.Shares directory)
    (parsed : Command.parse launch.invocation.arguments = .ok command) (real : command ≠ .help)
    (signed : SignedIn launch.host.machine.files (sessionIn directory) user) :
    Ends (Serves (sessionIn directory))
      (Settles (sessionIn directory) launch.username? user command)
      (typing launch.typed (run launch.invocation)) launch.host.view := by
  have prepared := signed.of_stands fun content => stands_prepare shares.place
  refine ends_run_of_command parsed real ?_
  rw [Host.view_machine]
  cases setup : launch.setup? with
  | none =>
    unfold setup? at setup
    rw [setup]
    exact ends_of_execute rfl (settles_of_failure (by simp) prepared)
  | some found =>
    obtain ⟨env, config⟩ := found
    have names : launch.username? = usedName? env config launch.host.input := by
      funext argument
      rw [username?, setup]
      rfl
    have backend := shares.backend env config setup
    have place := shares.place env (loaded_of_prepared setup)
    unfold setup? at setup
    rw [setup, names, orCrash, finish, Program.bind_eq, typing_bind]
    apply ends_bind
    exact ends_mono (ends_serve place backend prepared real) fun _ _ => ends_conclusion

end

theorem leaves_of_shares [Idna] (shares : launch.Shares directory)
    (signed : SignedIn launch.host.machine.files (sessionIn directory) user) :
    Leaves (sessionIn directory) user launch := by
  have idle (idle : launch.command? = none ∨ launch.command? = some .help) :
      Leaves (sessionIn directory) user launch := by
    apply leaves_of_idle
    · rcases idle with none | help
      · simp [counts, none]
      · simp [counts, help, signsInOrOut]
    · rw [ending_of_no_command idle]
      exact signed.of_stands fun content => stands_begin shares.place
  cases parsed : Command.parse launch.invocation.arguments with
  | error error =>
    apply idle
    simp [command?, parsed, Except.toOption]
  | ok command =>
    have asked : launch.command? = some command := by simp [command?, parsed, Except.toOption]
    by_cases real : command = .help
    · exact idle (.inr (real ▸ asked))
    · apply leaves_of_settles asked
      apply ends_command shares parsed real signed
      exact shares.succeeds

end Launch

/-! ## Any number of launches -/

section

variable {directory : Path} {launches : List Launch}

theorem latest?_concat [Idna] (launches : List Launch) (launch : Launch) :
    latest? (launches ++ [launch]) = if launch.counts then some launch else latest? launches := by
  unfold latest?
  rw [List.filter_append]
  cases counting : launch.counts <;> simp [counting]

def signedInBy [Idna] (launches : List Launch) : Option String :=
  (latest? launches).bind (·.user?)

theorem signedInBy_eq_some [Idna] {username : String} :
    signedInBy launches = some username ↔ ∃ launch argument, latest? launches = some launch ∧
      launch.command? = some (.login argument) ∧ launch.username? argument = some username := by
  unfold signedInBy
  cases latest? launches with
  | none => simp
  | some launch =>
    simp only [Option.bind_some, Option.some.injEq, exists_and_left, exists_eq_left']
    unfold Launch.user?
    constructor
    · intro named
      split at named
      · next argument asked => exact ⟨argument, asked, named⟩
      · cases named
    · rintro ⟨argument, asked, named⟩
      rw [asked]
      exact named

theorem signedIn_of_history [Idna] {files : FileSystem}
    (history : History directory launches files) :
    SignedIn files (sessionIn directory) (signedInBy launches) ∧
      ∀ launch argument, latest? launches = some launch →
        launch.command? = some (.login argument) → (launch.username? argument).isSome = true := by
  induction history with
  | opening absent =>
    refine ⟨⟨none, rfl, absent⟩, ?_⟩
    intro launch argument none
    cases none
  | @launch launches launch history shares ih =>
    obtain ⟨left, named⟩ := launch.leaves_of_shares shares ih.1
    have signed := left.of_stands fun content => launch.stands_after shares.place
    rw [signedInBy, latest?_concat]
    cases counting : launch.counts with
    | true =>
      rw [counting] at signed
      refine ⟨signed, ?_⟩
      intro launch' argument latest asked
      obtain rfl : launch = launch' := Option.some.inj latest
      exact named argument counting asked
    | false =>
      rw [counting] at signed
      exact ⟨signed, ih.2⟩
  | others history spared ih => exact ⟨ih.1.of_stands spared, ih.2⟩

theorem History.others_of_content [Idna] {files changed : FileSystem} {text : Bytes}
    (history : History directory launches files)
    (there : files.content? (sessionIn directory) = some text)
    (same : changed.content? (sessionIn directory) = some text) :
    History directory launches changed := by
  apply history.others
  intro content stands
  rw [← stands.now, there]
  exact .of_content same

end

end PracticeClient.Cli
