import PracticeClient.Proofs.Cli.Restraint
import PracticeClient.Proofs.Cli.Statuses

/-!
# How a launch conducts itself

The exit code of a launch says whether it has done what it was asked for, and what it was asked for
is a matter of its arguments. Unless somebody has signed in or out, everything is left as it was.
-/

namespace PracticeClient.Cli

open FileSystem FileStore Machine View

/-! ## Arguments -/

inductive Command.Spelled : Command → List String → Prop
  | nothing : Spelled .status []
  | status : Spelled .status ["status"]
  | logout : Spelled .logout ["logout"]
  | submissions : Spelled .submissions ["submissions"]
  | help {name : String} (known : name ∈ ["help", "-h", "--help"]) : Spelled .help [name]
  | login : Spelled (.login none) ["login"]
  | loginAs (username : String) : Spelled (.login (some username)) ["login", username]

theorem Command.ofName?_eq_some {name : String} {command : Command} :
    Command.ofName? name = some command ↔ name ≠ "login" ∧ command.Spelled [name] := by
  constructor
  · intro named
    unfold Command.ofName? at named
    split at named
    · next same =>
      subst same
      cases named
      exact ⟨by decide, .status⟩
    split at named
    · next same =>
      subst same
      cases named
      exact ⟨by decide, .logout⟩
    split at named
    · next same =>
      subst same
      cases named
      exact ⟨by decide, .submissions⟩
    split at named
    · next known =>
      cases named
      have known : name ∈ ["help", "-h", "--help"] := by simpa using known
      refine ⟨?_, .help known⟩
      rintro rfl
      exact absurd known (by decide)
    · cases named
  · rintro ⟨unlike, spelled⟩
    cases spelled with
    | help known =>
      simp only [List.mem_cons, List.not_mem_nil, or_false] at known
      rcases known with rfl | rfl | rfl <;> rfl
    | login => exact absurd rfl unlike
    | _ => rfl

theorem Command.parse_eq_ok {arguments : List String} {command : Command} :
    Command.parse arguments = .ok command ↔ command.Spelled arguments := by
  constructor
  · intro parsed
    unfold Command.parse at parsed
    split at parsed
    · cases parsed
      exact .nothing
    next name arguments =>
    split at parsed
    · next same =>
      subst same
      split at parsed
      · cases parsed
        exact .login
      · cases parsed
        exact .loginAs _
      · cases parsed
    · split at parsed
      · cases parsed
      · next named =>
        cases parsed
        exact (Command.ofName?_eq_some.1 named).2
      · cases parsed
  · intro spelled
    cases spelled with
    | help known =>
      simp only [List.mem_cons, List.not_mem_nil, or_false] at known
      rcases known with rfl | rfl | rfl <;> rfl
    | _ => rfl

namespace Launch

variable {launch : Launch}

/-! ## Exit codes -/

def Begins (launch : Launch) : Prop :=
  ((begin launch.invocation).run quiet launch.host.machine).1.isSome = true

def Succeeds [Idna] (launch : Launch) : Prop :=
  match launch.command? with
  | none => False
  | some .help => launch.Begins
  | some .logout => launch.stage?.isSome = true
  | some .status => ∃ setting view, launch.stage? = some (setting, view) ∧
      setting.store.HoldsSession view.machine ∧
      setting.store.ThriceReadable view.machine Session.usernameKey Session.tokenKey
  | some .submissions => ∃ setting view, launch.stage? = some (setting, view) ∧
      ((setting.transport.post Submissions.endpoint Json.Value.empty).run Http.Server.quiet
        view.server).1.isOk = true
  | some (.login _) => launch.Establishes

theorem exit_of_no_command [Idna] (none : launch.command? = none) :
    launch.ending.1 ≠ some .success := by
  unfold command? at none
  cases parsed : Command.parse launch.invocation.arguments with
  | ok command =>
    rw [parsed] at none
    cases none
  | error error =>
    rw [ending_eq]
    cases ((begin launch.invocation).run quiet launch.host.machine).1 with
    | none =>
      intro same
      cases same
    | some env =>
      rw [orCrash, carryOn, runArguments, parsed]
      intro same
      cases same

theorem exit_of_help [Idna] (asked : launch.command? = some .help) :
    launch.ending.1 = some .success ↔ launch.Begins := by
  have parsed := launch.parsed_of_command? asked
  rw [ending_eq, Begins]
  cases ((begin launch.invocation).run quiet launch.host.machine).1 with
  | none => exact iff_of_false nofun nofun
  | some env =>
    rw [orCrash, carryOn, runArguments, parsed]
    exact iff_of_true rfl rfl

theorem ofBool_eq_success {done : Bool} : ExitStatus.ofBool done = .success ↔ done = true := by
  cases done <;> simp [ExitStatus.ofBool]

theorem exit_of_stage [Idna] {command : Command} {setting : Setting} {view : View}
    (asked : launch.command? = some command) (real : command ≠ .help)
    (stage : launch.stage? = some (setting, view)) :
    launch.ending.1 = some .success ↔ launch.Succeeds := by
  have unique {holds : Setting → View → Prop} :
      (∃ setting view, launch.stage? = some (setting, view) ∧ holds setting view) ↔
        holds setting view := by
    simp [stage]
  unfold Succeeds
  rw [asked]
  cases command with
  | login argument =>
    by_cases established : launch.Establishes
    · refine iff_of_true ?_ established
      obtain ⟨login, came, established'⟩ := established
      rw [login?_of_stage asked stage] at came
      exact (ending_machine_of_stage asked real stage (execute_established came established')).2
    · obtain ⟨result, after, executed, failure, -⟩ :=
        execute_not_established (not_established_of_stage asked stage established)
      rw [(ending_machine_of_stage asked real stage executed).2, failure]
      exact iff_of_false nofun established
  | logout =>
    rw [(ending_machine_of_stage asked real stage (execute_logout setting view _)).2, stage]
    exact iff_of_true rfl rfl
  | status =>
    rw [(ending_machine_of_stage asked real stage (execute_status setting view _)).2]
    dsimp only
    rw [unique, ← Store.user_isSome, ← ofBool_eq_success, Option.some.injEq]
    rfl
  | submissions =>
    obtain ⟨after, executed, -⟩ := execute_submissions setting view launch.typed
    rw [(ending_machine_of_stage asked real stage executed).2]
    dsimp only
    rw [unique, ← ofBool_eq_success, Option.some.injEq]
    rfl
  | help => exact absurd rfl real

theorem not_succeeds_of_no_stage [Idna] {command : Command} (asked : launch.command? = some command)
    (real : command ≠ .help) (nowhere : launch.stage? = none) : ¬launch.Succeeds := by
  unfold Succeeds
  rw [asked]
  cases command with
  | login argument =>
    rintro ⟨login, came, -⟩
    rw [login?, asked] at came
    dsimp only at came
    rw [nowhere] at came
    cases came
  | help => exact absurd rfl real
  | _ => simp [nowhere]

theorem exit_iff [Idna] (launch : Launch) : launch.exit = 0 ↔ launch.Succeeds := by
  rw [exit_eq_zero]
  cases asked : launch.command? with
  | none =>
    refine iff_of_false (exit_of_no_command asked) ?_
    simp [Succeeds, asked]
  | some command =>
    by_cases help : command = .help
    · subst help
      rw [exit_of_help asked]
      simp [Succeeds, asked]
    · cases stage : launch.stage? with
      | some found => exact exit_of_stage asked help stage
      | none =>
        refine iff_of_false ?_ (not_succeeds_of_no_stage asked help stage)
        obtain ⟨-, same⟩ | ⟨env, config, error, -, -, same⟩ :=
          ending_of_no_stage asked help stage
        · rw [same]
          nofun
        · rw [same]
          nofun

/-! ## What keeps a launch from beginning -/

theorem begins_iff (launch : Launch) :
    launch.Begins ↔ ∃ env, launch.environment? = some env ∧
      ∀ path, logFile? env = some path →
        ((openLog path).run quiet ((launch.invocation.environment.load?
          launch.invocation.directory).run quiet launch.host.machine).2).1 = .ok () := by
  unfold Begins environment? begin
  rw [Program.bind_eq, Program.run_bind]
  cases ((launch.invocation.environment.load? launch.invocation.directory).run quiet
    launch.host.machine).1 with
  | none => exact iff_of_false nofun (by simp)
  | some env =>
    simp only [Option.some.injEq, exists_eq_left']
    unfold logged
    cases logFile? env with
    | none => exact iff_of_true rfl nofun
    | some path =>
      simp only [Option.some.injEq, forall_eq']
      rw [Program.bind_eq, Program.run_bind]
      cases ((openLog path).run quiet _).1 with
      | ok _ => exact iff_of_true rfl rfl
      | error error => exact iff_of_false nofun nofun

/-- Some line of an environment file gives a variable a text that it cannot hold. -/
def Taints (content : Bytes) : Prop :=
  ∃ line env name value, some line ∈ Environment.lines content ∧
    Environment.Statement.ofLine env line = .assignment name value ∧
    Environment.canHold value = false

theorem adoptLines?_eq_none {lines : List (Option (List Char))} {env : Environment}
    (failed : Environment.adoptLines? lines env = none) :
    ∃ line env name value, some line ∈ lines ∧
      Environment.Statement.ofLine env line = .assignment name value ∧
      Environment.canHold value = false := by
  induction lines generalizing env with
  | nil => cases failed
  | cons first rest ih =>
    cases first with
    | none => cases failed
    | some line =>
      have later {env : Environment} (failed : Environment.adoptLines? rest env = none) :
          ∃ line' env name value, some line' ∈ some line :: rest ∧
            Environment.Statement.ofLine env line' = .assignment name value ∧
            Environment.canHold value = false := by
        obtain ⟨line', env, name, value, member, told⟩ := ih failed
        exact ⟨line', env, name, value, List.mem_cons_of_mem _ member, told⟩
      rw [Environment.adoptLines?] at failed
      cases told : Environment.Statement.ofLine env line with
      | nothing => exact later (by simpa [told] using failed)
      | malformed => simp [told] at failed
      | assignment name value =>
        simp only [told] at failed
        cases adopted : env.adopt? name value with
        | some env' => exact later (by simpa [adopted] using failed)
        | none =>
          refine ⟨line, env, name, value, List.mem_cons_self, told, ?_⟩
          unfold Environment.adopt? at adopted
          split at adopted
          · cases adopted
          · split at adopted
            · cases adopted
            · next cannot => simpa using cannot

theorem content?_of_find {directories : List Path} {machine : Machine} {content : Bytes}
    (found : ((Environment.find directories).run quiet machine).1 = some content) :
    ∃ directory ∈ directories,
      machine.files.content? (directory.child Environment.fileName) = some content := by
  induction directories generalizing machine with
  | nil => cases found
  | cons directory rest ih =>
    -- A file that is missing or a directory is passed over, and any other failure ends the search.
    have later
        (found : ((Environment.find rest).run quiet
          { machine with files := machine.files.past }).1 = some content) :
        ∃ directory' ∈ directory :: rest,
          machine.files.content? (directory'.child Environment.fileName) = some content := by
      obtain ⟨directory', member, there⟩ := ih found
      rw [content?_past] at there
      exact ⟨directory', List.mem_cons_of_mem _ member, there⟩
    rw [Environment.find, Program.bind_eq, Program.run_bind] at found
    simp only [System.file, Program.run_ask, quiet, FileOp.handle_read] at found
    cases due : machine.files.due with
    | some mishap =>
      simp only [due] at found
      cases failure : mishap.error with
      | notFound => exact later (by simpa [failure] using found)
      | isDirectory => exact later (by simpa [failure] using found)
      | _ => simp [failure] at found
    | none =>
      simp only [due] at found
      cases read : machine.files.read (directory.child Environment.fileName) with
      | ok bytes =>
        simp only [read, Program.pure_eq_done, Program.run_done, Option.some.injEq] at found
        subst found
        exact ⟨directory, List.mem_cons_self, content?_eq_some.2 read⟩
      | error error =>
        cases error with
        | notFound => exact later (by simpa [read] using found)
        | isDirectory => exact later (by simpa [read] using found)
        | _ => simp [read] at found

theorem taints_of_environment? {launch : Launch} (spoilt : launch.environment? = none) :
    ∃ directory ∈ launch.invocation.directory.ancestors, ∃ content,
      launch.host.machine.files.content? (directory.child Environment.fileName) = some content ∧
        Taints content := by
  unfold environment? Environment.load? at spoilt
  rw [Program.bind_eq, Program.run_bind] at spoilt
  cases found : ((Environment.find launch.invocation.directory.ancestors).run quiet
    launch.host.machine).1 with
  | none => simp [found] at spoilt
  | some content =>
    obtain ⟨directory, member, there⟩ := content?_of_find found
    rw [found] at spoilt
    exact ⟨directory, member, content, there, adoptLines?_eq_none spoilt⟩

/-! ## What every launch keeps to -/

structure Conduct [Idna] (launch : Launch) : Prop where
  grammar : ∀ command, launch.command? = some command ↔
    command.Spelled launch.invocation.arguments
  spoilt : launch.environment? = none → ∃ directory ∈ launch.invocation.directory.ancestors,
    ∃ content, launch.host.machine.files.content? (directory.child Environment.fileName) =
      some content ∧ Taints content
  begins : launch.Begins ↔ ∃ env, launch.environment? = some env ∧
    ∀ path, logFile? env = some path →
      ((openLog path).run quiet ((launch.invocation.environment.load?
        launch.invocation.directory).run quiet launch.host.machine).2).1 = .ok ()
  harmless : ¬launch.Establishes → ¬launch.LogsOut → launch.LeavesAlone
  offline : (∀ command, launch.command? = some command → command.isLocal = true) →
    (run launch.invocation).Uses IsOffline
  exit : launch.exit = 0 ↔ launch.Succeeds

theorem command?_eq_some {launch : Launch} {command : Command} :
    launch.command? = some command ↔
      Command.parse launch.invocation.arguments = .ok command := by
  unfold command?
  cases Command.parse launch.invocation.arguments <;> simp [Except.toOption]

/-- However it is launched, the program changes nothing that was there but its log unless somebody
has signed in or out, and its exit code is zero just if it has done what it was asked for. -/
theorem conduct [Idna] (launch : Launch) : launch.Conduct where
  grammar _ := command?_eq_some.trans Command.parse_eq_ok
  spoilt := taints_of_environment?
  begins := launch.begins_iff
  harmless unestablished unfinished :=
    leavesAlone_of_spares (spares_ending unestablished unfinished)
  offline near := offline_run fun command parsed => near command (command?_eq_some.2 parsed)
  exit := launch.exit_iff

end Launch

section

open scoped Idna

/-! ## Launches that disturb -/

def taintedHelp : Launch :=
  { tainted with invocation := { tainted.invocation with arguments := ["help"] } }

theorem prepared_unveiling : unveiling.prepared = unveiled.machine := by
  rw [Launch.prepared, prepare_unveiling]

theorem stage?_unveiling : ∃ setting, unveiling.stage? = some (setting, unveiled) := by
  have setup : unveiling.setup? = some (unveiling.invocation.environment, .standard) := by
    rw [Launch.setup?, prepare_unveiling]
  have file : Config.standard.openStore unveiling.invocation.environment =
      .ok (.file (sessionIn upwards)) := Launch.openStore_of_file rfl cacheDirectory_unveiling
  obtain ⟨setting, found, -⟩ := find_of_valid file (by decide +kernel)
  refine ⟨setting, ?_⟩
  rw [Launch.stage?, setup, Option.bind_some, found, prepared_unveiling]
  rfl

theorem content?_unveiling :
    unveiling.after.machine.files.content? (sessionIn upwards) =
      some (encode (sessionValues (some ("t", "ana")))) := by
  obtain ⟨setting, stage⟩ := stage?_unveiling
  have asked : unveiling.command? = some .status := rfl
  have named : (sessionIn upwards).fileName? = some "session.json" :=
    fileName_child (by decide) (by decide) upwards
  rw [unveiling.resembles_after.files.content?_eq named (by decide),
    (Launch.ending_machine_of_stage asked nofun stage (execute_status setting unveiled _)).1]
  have spares : Spares (fun _ _ => False) unveiled.machine
      (setting.store.user unveiled.machine).2 :=
    spares_user setting.store unveiled.machine
  rw [content?_eq_some]
  apply spares.files.grows.read
  rw [← content?_eq_some]
  decide +kernel

/-- Help may fail where the environment file cannot be taken up, and where a path goes up from a
missing directory, a status may bring to light a session file that was out of reach. -/
theorem disturbing_launches :
    (taintedHelp.command? = some .help ∧ ¬taintedHelp.OpensLog ∧ taintedHelp.exit ≠ 0) ∧
      unveiling.command? = some .status ∧ unveiling.Begins ∧
        ∃ env path, unveiling.environment? = some env ∧ Config.sessionFile env = .ok path ∧
          unveiling.host.machine.files.content? path = none ∧
          unveiling.after.machine.files.content? path ≠ none := by
  have spoilt : taintedHelp.environment? = none := by decide +kernel
  refine ⟨⟨rfl, ?_, by decide +kernel⟩, rfl, ?_, unveiling.invocation.environment,
    sessionIn upwards, ?_, ?_, by decide +kernel, ?_⟩
  · rintro ⟨env, loaded, -⟩
    rw [spoilt] at loaded
    cases loaded
  · rw [Launch.Begins, begin_unveiling]
    rfl
  · rw [Launch.environment?, load?_unveiling]
  · rw [Config.sessionFile, cacheDirectory_unveiling]
    rfl
  · rw [content?_unveiling]
    exact Option.some_ne_none _

end

end PracticeClient.Cli
