import PracticeClient.Proofs.Cli.Executing
import PracticeClient.Proofs.Storage.Presence

namespace PracticeClient

namespace Program

variable {Op Op' : Type} {Answer : Op → Type} {Answer' : Op' → Type} {α β : Type}

theorem answerWith_bind (handle : (op : Op) → Program Op' Answer' (Answer op))
    (program : Program Op Answer α) (rest : α → Program Op Answer β) :
    (program.bind rest).answerWith handle =
      (program.answerWith handle).bind fun value => (rest value).answerWith handle := by
  induction program with
  | done value => rfl
  | step op next ih => simp only [step_bind, answerWith, bind_assoc, ih]

theorem after_bind {σ : Type} {handle : Handler Op Answer σ} (holds : σ → Prop)
    {program : Program Op Answer α} {rest : α → Program Op Answer β} {state : σ}
    (first : holds (program.run handle state).2)
    (next : ∀ value after, (program.run handle state).1 = value → holds after →
      holds ((rest value).run handle after).2) :
    holds ((program.bind rest).run handle state).2 := by
  rw [run_bind]
  exact next _ _ rfl first

end Program

namespace Cli

variable {α β : Type}

/-! ## Terminals -/

def typing (typed : Except TerminalError String) (program : Console α) : Console α :=
  program.answerWith fun
    | .askPassword _ => .done typed
    | op => Program.ask op

theorem typing_bind (typed : Except TerminalError String) (program : Console α)
    (rest : α → Console β) :
    typing typed (program.bind rest) =
      (typing typed program).bind fun value => typing typed (rest value) :=
  Program.answerWith_bind _ program rest

def IsSilent : ConsoleOp → Prop
  | .askPassword _ => False
  | .startLog _ => False
  | _ => True

theorem typing_of_silent {typed : Except TerminalError String} {program : Console α}
    (silent : program.Uses IsSilent) : typing typed program = program := by
  induction program with
  | done value => rfl
  | step op next ih =>
    have later : (fun answer => typing typed (next answer)) = next :=
      funext fun answer => ih answer (silent.2 answer)
    cases op with
    | askPassword question => exact silent.1.elim
    | _ => exact congrArg (Program.step _) later

theorem uses_ofSystem {kind : ConsoleOp → Prop} (system : ∀ op, kind (.system op))
    (program : System α) : (Console.ofSystem program).Uses kind := by
  induction program with
  | done value => trivial
  | step op next ih => exact ⟨system op, ih⟩

theorem silent_ofSystem (program : System α) : (Console.ofSystem program).Uses IsSilent :=
  uses_ofSystem (fun _ => trivial) program

theorem silent_ofExchange (exchange : Http.Exchange α) :
    (Console.ofExchange exchange).Uses IsSilent := by
  induction exchange with
  | done value => trivial
  | step op next ih => cases op <;> exact ⟨trivial, ih⟩

theorem silent_perform [Idna] (transport : Http.Transport) (effect : Effect)
    (progress : Console.Progress) :
    (Console.perform transport effect progress).Uses IsSilent := by
  cases effect with
  | store call => exact Program.uses_bind (silent_ofSystem _) fun _ => trivial
  | post endpoint body => exact Program.uses_bind (silent_ofExchange _) fun _ => trivial
  | notify notification =>
    refine Program.uses_bind ?_ fun _ => trivial
    unfold Console.announce
    cases notification.severity <;> exact ⟨trivial, fun _ => trivial⟩
  | log entry => exact ⟨trivial, fun _ => trivial⟩
  | complete => exact ⟨trivial, fun _ => trivial⟩
  | abort => exact ⟨trivial, fun answer => answer.elim⟩

theorem silent_expand [Idna] (transport : Http.Transport) (client : Client α)
    (progress : Console.Progress) :
    (client.expand (Console.perform transport) progress).Uses IsSilent := by
  induction client generalizing progress with
  | done value => trivial
  | step effect next ih =>
    exact Program.uses_bind (silent_perform transport effect progress) fun _ => ih _ _

/-! ## Before the command -/

theorem ofSystem_bind (program : System α) (rest : α → System β) :
    Console.ofSystem (program.bind rest) =
      (Console.ofSystem program).bind fun value => Console.ofSystem (rest value) :=
  Program.answerWith_bind _ program rest

def logged (env : Environment) : System (Option Environment) :=
  match logFile? env with
  | none => pure (some env)
  | some path => do
    match ← openLog path with
    | .ok () => pure (some env)
    | .error _ => pure none

def begin (invocation : Invocation) : System (Option Environment) := do
  match ← invocation.environment.load? invocation.directory with
  | none => pure none
  | some env => logged env

def orCrash (rest : β → Console α) : Option β → Console α
  | none => Console.crash
  | some value => rest value

theorem crash_bind (rest : α → Console β) : (Console.crash : Console α).bind rest = Console.crash :=
  congrArg (Program.step ConsoleOp.crash) (funext fun answer => answer.elim)

theorem startLog_bind (env : Environment) (rest : Environment → Console α) :
    ((startLog env).bind fun _ => rest env) =
      (Console.ofSystem (logged env)).bind (orCrash fun env =>
        (Console.startLog (logSetting env)).bind fun _ => rest env) := by
  unfold startLog logged
  cases logFile? env with
  | none => rfl
  | some path =>
    dsimp only
    rw [Program.bind_eq, Program.bind_eq, Program.bind_assoc, ofSystem_bind, Program.bind_assoc]
    congr 1
    funext opened
    cases opened with
    | ok _ => rfl
    | error error => exact crash_bind _

def carryOn [Idna] (arguments : List String) (env : Environment) : Console ExitStatus := do
  Console.startLog (logSetting env)
  conclude (← runArguments env arguments)

theorem run_eq [Idna] (invocation : Invocation) :
    run invocation =
      (Console.ofSystem (begin invocation)).bind (orCrash (carryOn invocation.arguments)) := by
  unfold run begin
  rw [Program.bind_eq, Program.bind_eq, ofSystem_bind, Program.bind_assoc]
  congr 1
  funext loaded
  cases loaded with
  | none => rfl
  | some env =>
    exact startLog_bind env fun env => (runArguments env invocation.arguments).bind conclude

def overridden (env : Environment) (config : Config) : Config :=
  { config with baseUrl := (env.get? "PWS_BASE_URL").getD config.baseUrl }

def configEntry (config : Config) : LogEntry :=
  .debug "Config loaded" [("base_url", config.baseUrl), ("storage", config.storage.describe)]

def settle (env : Environment) : System Config := do
  let loaded ← match ← Config.loadOwn env with
    | .ok config => pure config
    | .error error => do
      System.log (.warn "Failed to load config, using defaults" [("error", error.message)])
      pure .standard
  System.log (configEntry (overridden env loaded))
  pure (overridden env loaded)

theorem configure_eq (env : Environment) : configure env = Console.ofSystem (settle env) := by
  unfold configure settle
  simp only [Program.bind_eq, ofSystem_bind]
  congr 1
  funext result
  cases result <;> rfl

def serve [Idna] (env : Environment) (command : Command) (config : Config) :
    Console (Except RunError ExitStatus) :=
  match Setting.find env config with
  | .error error => pure (.error error)
  | .ok setting => carryOut setting command

theorem Setting.find_eq_ok {env : Environment} {config : Config} {setting : Setting} [Idna] :
    Setting.find env config = .ok setting ↔ config.openStore env = .ok setting.store ∧
      Http.Transport.ofAddress config.baseUrl = .ok setting.transport ∧
      env = setting.environment ∧ config = setting.config := by
  obtain ⟨env', config', transport, store⟩ := setting
  unfold find
  cases config.openStore env with
  | error error => simp [Except.mapError, bind, Except.bind]
  | ok store =>
    cases Http.Transport.ofAddress config.baseUrl with
    | error error => simp [Except.mapError, bind, Except.bind]
    | ok transport =>
      simp only [Except.mapError, bind, Except.bind, pure, Except.pure, Except.ok.injEq,
        Setting.mk.injEq]
      grind

theorem runCommand_eq [Idna] (env : Environment) (command : Command) :
    runCommand env command = (Console.ofSystem (settle env)).bind (serve env command) := by
  rw [runCommand, configure_eq]
  rfl

theorem runArguments_eq [Idna] {arguments : List String} {command : Command}
    (parsed : Command.parse arguments = .ok command) (real : command ≠ .help) (env : Environment) :
    runArguments env arguments = runCommand env command := by
  rw [runArguments, parsed]
  cases command with
  | help => exact absurd rfl real
  | _ => rfl

theorem uses_runArguments [Idna] {kind : ConsoleOp → Prop} (system : ∀ op, kind (.system op))
    (print : ∀ text, kind (.print text)) {arguments : List String}
    (carries : ∀ setting command, Command.parse arguments = .ok command →
      (carryOut setting command).Uses kind) (env : Environment) :
    (runArguments env arguments).Uses kind := by
  cases parsed : Command.parse arguments with
  | error error =>
    rw [runArguments, parsed]
    trivial
  | ok command =>
    by_cases help : command = .help
    · subst help
      rw [runArguments, parsed]
      exact ⟨print _, fun _ => trivial⟩
    · rw [runArguments_eq parsed help, runCommand_eq]
      apply Program.uses_bind (uses_ofSystem system _)
      intro config
      unfold serve
      split
      · trivial
      · exact carries _ command parsed

theorem uses_conclude {kind : ConsoleOp → Prop} (report : ∀ text, kind (.report text))
    (result : Except RunError ExitStatus) : (conclude result).Uses kind := by
  cases result with
  | ok status => trivial
  | error error => exact ⟨report _, fun _ => trivial⟩

def prepare (invocation : Invocation) : System (Option (Environment × Config)) := do
  match ← begin invocation with
  | none => pure none
  | some env =>
    let config ← settle env
    pure (some (env, config))

theorem eq_of_logged {env found : Environment} {machine : Machine}
    (opened : ((logged env).run Machine.quiet machine).1 = some found) : found = env := by
  unfold logged at opened
  split at opened
  · exact (Option.some.inj opened).symm
  · rw [Program.bind_eq, Program.run_bind] at opened
    split at opened
    · exact (Option.some.inj opened).symm
    · cases opened

theorem loaded_of_begun {invocation : Invocation} {machine : Machine} {env : Environment}
    (begun : ((begin invocation).run Machine.quiet machine).1 = some env) :
    ((invocation.environment.load? invocation.directory).run Machine.quiet machine).1 =
      some env := by
  unfold begin at begun
  rw [Program.bind_eq, Program.run_bind] at begun
  generalize (invocation.environment.load? invocation.directory).run Machine.quiet machine =
    loading at begun ⊢
  obtain ⟨loaded, machine⟩ := loading
  cases loaded with
  | none => cases begun
  | some loaded =>
    dsimp only at begun ⊢
    rw [eq_of_logged begun]

theorem loaded_of_prepared {invocation : Invocation} {machine : Machine} {env : Environment}
    {config : Config}
    (prepared : ((prepare invocation).run Machine.quiet machine).1 = some (env, config)) :
    ((invocation.environment.load? invocation.directory).run Machine.quiet machine).1 =
      some env := by
  unfold prepare at prepared
  rw [Program.bind_eq, Program.run_bind] at prepared
  cases begun : ((begin invocation).run Machine.quiet machine).1 with
  | none =>
    rw [begun] at prepared
    cases prepared
  | some found =>
    rw [begun] at prepared
    dsimp only at prepared
    rw [Program.bind_eq, Program.run_bind] at prepared
    have same : found = env := (Prod.mk.inj (Option.some.inj prepared)).1
    rw [← same, loaded_of_begun begun]

theorem run_of_command [Idna] {invocation : Invocation} {command : Command}
    (parsed : Command.parse invocation.arguments = .ok command) (real : command ≠ .help) :
    run invocation = (Console.ofSystem (begin invocation)).bind (orCrash fun env =>
      (Console.startLog (logSetting env)).bind fun _ =>
        (Console.ofSystem (settle env)).bind fun config =>
          (serve env command config).bind conclude) := by
  rw [run_eq]
  congr 2
  funext env
  rw [carryOn, runArguments_eq parsed real, runCommand_eq, Program.bind_eq, Program.bind_eq,
    Program.bind_assoc]

def finish [Idna] (command : Command) (setup : Environment × Config) : Console ExitStatus := do
  conclude (← serve setup.1 command setup.2)

theorem execute_run_of_command [Idna] {invocation : Invocation} {command : Command}
    (parsed : Command.parse invocation.arguments = .ok command) (real : command ≠ .help)
    (typed : Except TerminalError String) (view : View) :
    View.execute (typing typed (run invocation)) view =
      View.execute (typing typed (orCrash (finish command)
          ((prepare invocation).run Machine.quiet view.machine).1))
        { view with machine := ((prepare invocation).run Machine.quiet view.machine).2 } := by
  rw [run_of_command parsed real, typing_bind, typing_of_silent (silent_ofSystem _),
    View.execute_bind, View.execute_ofSystem, prepare, Program.bind_eq, Program.run_bind]
  generalize (begin invocation).run Machine.quiet view.machine = begun
  obtain ⟨found, machine⟩ := begun
  cases found with
  | none => rfl
  | some env =>
    change View.execute (typing typed ((Console.ofSystem (settle env)).bind fun config =>
      (serve env command config).bind conclude)) { view with machine } = _
    rw [typing_bind, typing_of_silent (silent_ofSystem _), View.execute_bind,
      View.execute_ofSystem]
    dsimp only
    rw [Program.bind_eq, Program.run_bind]
    rfl

theorem silent_client [Idna] (setting : Setting) (client : Client α) :
    (setting.perform client).Uses IsSilent :=
  silent_expand setting.transport client ⟨setting.store, false⟩

theorem silent_carryOut [Idna] (setting : Setting) (command : Command)
    (other : ∀ argument, command ≠ .login argument) : (carryOut setting command).Uses IsSilent := by
  cases command with
  | login argument => exact absurd rfl (other argument)
  | logout =>
    refine Program.uses_bind (Program.uses_bind (silent_client setting _) fun _ => ?_) fun _ => ?_
      <;> trivial
  | status =>
    refine Program.uses_bind (Program.uses_bind (silent_client setting _) ?_) fun _ => ?_
    · rintro ⟨username, progress⟩
      cases username <;> exact ⟨trivial, fun _ => trivial⟩
    · trivial
  | submissions =>
    refine Program.uses_bind (Program.uses_bind (silent_client setting _) fun _ => ?_) fun _ => ?_
      <;> trivial
  | help => trivial

theorem silent_remember (setting : Setting) (username : String) :
    (remember setting username).Uses IsSilent := by
  apply Program.uses_bind (silent_ofSystem _)
  intro result
  cases result with
  | ok _ => trivial
  | error error => exact ⟨trivial, fun _ => trivial⟩

/-! ## The session stays as it is -/

section

open FileStore

theorem place_eq_ok {kind : String} {directory? : Option Path} {place : Path} :
    Config.place kind directory? = .ok place ↔
      ∃ directory, directory? = some directory ∧ place = directory.child Config.applicationName := by
  cases directory? with
  | none => simp [Config.place]
  | some directory => simp [Config.place, eq_comm]

theorem endsWithName_place {kind : String} {directory? : Option Path} {place : Path}
    (placed : Config.place kind directory? = .ok place) : EndsWithName place := by
  obtain ⟨directory, -, rfl⟩ := place_eq_ok.1 placed
  obtain ⟨kept, child, -⟩ := child_pieces directory Config.applicationName
  rw [child]
  exact ⟨kept, Config.applicationName, rfl, by decide⟩

theorem file_eq_ok {env : Environment} {path : Path} :
    Config.file env = .ok path ↔ ∃ place, Config.place "config" env.configDirectory? = .ok place ∧
      path = place.child "config.json" := by
  unfold Config.file
  cases Config.place "config" env.configDirectory? <;> simp [Except.map, eq_comm]

theorem logFile?_eq_some {env : Environment} {path : Path} :
    logFile? env = some path ↔ (env.get? "PWS_LOG_FILE").isSome = true ∧
      ∃ directory, Config.cacheDirectory env = .ok directory ∧ path = directory.child logName := by
  unfold logFile?
  cases (env.get? "PWS_LOG_FILE").isSome with
  | false => simp
  | true => cases Config.cacheDirectory env <;> simp [Except.toOption, eq_comm]

theorem looks_find (directories : List Path) : (Environment.find directories).Uses Looks := by
  induction directories with
  | nil => trivial
  | cons directory rest ih =>
    refine ⟨.read _, ?_⟩
    intro answer
    cases answer with
    | ok content => trivial
    | error error => cases error <;> first | exact ih | trivial

theorem looks_load? (env : Environment) (directory : Path) :
    (env.load? directory).Uses Looks := by
  apply Program.uses_bind (looks_find _)
  intro content
  cases content <;> trivial

theorem looks_settle (env : Environment) : (settle env).Uses Looks := by
  have load (path : Path) : (Config.load path).Uses Looks := by
    refine ⟨.probe path, ?_⟩
    intro there
    cases there with
    | false => trivial
    | true =>
      refine ⟨.read path, ?_⟩
      intro answer
      cases answer <;> trivial
  have own : (Config.loadOwn env).Uses Looks := by
    unfold Config.loadOwn
    cases Config.file env with
    | error error => trivial
    | ok path => exact load path
  apply Program.uses_bind own
  intro result
  cases result with
  | ok config => exact ⟨.log _, fun _ => trivial⟩
  | error error => exact ⟨.log _, fun _ => ⟨.log _, fun _ => trivial⟩⟩

variable {directory : Path} {content : Option Bytes} {machine : Machine}

abbrev StandsIn (directory : Path) (content : Option Bytes) (machine : Machine) : Prop :=
  Stands machine.files (directory.child "session.json") content

theorem stands_openLog (ends : EndsWithName directory)
    (stands : StandsIn directory content machine) :
    StandsIn directory content
      ((openLog (directory.child logName)).run Machine.quiet machine).2 := by
  have touch {machine : Machine} (stands : StandsIn directory content machine) :
      StandsIn directory content
        ((System.file (.touch (directory.child logName))).run Machine.quiet machine).2 :=
    stands.touch ends (by decide) (by decide) (by decide) (by decide)
  apply Program.after_bind (StandsIn directory content) (touch stands)
  rintro answer machine - touched
  cases answer with
  | ok _ => exact touched
  | error error =>
    have made : StandsIn directory content
        ((createParent (directory.child logName)).run Machine.quiet machine).2 := by
      rw [createParent, parent_child ends (by decide)]
      exact touched.createDirectories (parent_child ends (by decide))
    apply Program.after_bind (StandsIn directory content) made
    rintro answer machine - made
    cases answer with
    | ok _ => exact touch made
    | error error => exact made

theorem stands_logged {env : Environment} (placed : Config.cacheDirectory env = .ok directory)
    (stands : StandsIn directory content machine) :
    StandsIn directory content ((logged env).run Machine.quiet machine).2 := by
  unfold logged
  cases logs : logFile? env with
  | none => exact stands
  | some path =>
    obtain ⟨-, directory', placed', rfl⟩ := logFile?_eq_some.1 logs
    cases placed.symm.trans placed'
    apply Program.after_bind (StandsIn directory content)
      (stands_openLog (endsWithName_place placed) stands)
    rintro answer machine - opened
    cases answer <;> exact opened

theorem stands_begin {invocation : Invocation}
    (same : ∀ env, ((invocation.environment.load? invocation.directory).run
      Machine.quiet machine).1 = some env → Config.cacheDirectory env = .ok directory)
    (stands : StandsIn directory content machine) :
    StandsIn directory content ((begin invocation).run Machine.quiet machine).2 := by
  apply Program.after_bind (StandsIn directory content)
    (stands.look (looks_load? invocation.environment invocation.directory))
  intro answer machine answered loaded
  cases answer with
  | none => exact loaded
  | some env =>
    exact stands_logged (same env answered) loaded

theorem stands_prepare {invocation : Invocation}
    (same : ∀ env, ((invocation.environment.load? invocation.directory).run
      Machine.quiet machine).1 = some env → Config.cacheDirectory env = .ok directory)
    (stands : StandsIn directory content machine) :
    StandsIn directory content ((prepare invocation).run Machine.quiet machine).2 := by
  apply Program.after_bind (StandsIn directory content) (stands_begin same stands)
  rintro answer machine - begun
  cases answer with
  | none => exact begun
  | some env =>
    apply Program.after_bind (StandsIn directory content) (begun.look (looks_settle env))
    rintro config machine - settled
    exact settled

end

end Cli

end PracticeClient
