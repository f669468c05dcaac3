import PracticeClient.Proofs.Cli.Conduct
import PracticeClient.Proofs.Configurations

namespace PracticeClient.Cli

open FileSystem FileStore Machine View

/-! ## The configuration of a run -/

theorem run_settle {env : Environment} {machine : Machine} {loaded : Config}
    (accepted : ((Config.loadOwn env).run quiet machine).1 = .ok loaded) :
    ((settle env).run quiet machine).1 = overridden env loaded := by
  unfold settle
  rw [Program.bind_eq, Program.run_bind, accepted]
  rfl

def Login.memory (login : Login) : Config :=
  { login.setting.config with lastUsername := some login.form.username }

def Login.Saves (login : Login) : Prop :=
  ((login.memory.saveOwn login.setting.environment).run quiet login.view.machine).1 = .ok ()

theorem used_of_login? [Idna] {typed : Except TerminalError String} {setting : Setting}
    {argument : Option String} {view : View} {login : Login}
    (came : login? typed setting argument view = some login) :
    login.setting = setting ∧ usedName? setting.environment setting.config view.input argument =
      some login.form.username := by
  obtain ⟨found, asked, executed, -, used⟩ :=
    execute_findCredentials setting view typed argument
  unfold login? at came
  rw [executed] at came
  cases found with
  | error error => cases came
  | ok form =>
    dsimp only at came
    split at came
    · cases came
      exact ⟨rfl, used form rfl⟩
    · cases came

namespace Launch

def begun (launch : Launch) : Machine :=
  ((begin launch.invocation).run quiet launch.host.machine).2

variable {launch : Launch}

theorem config_of_setup {env : Environment} {config loaded : Config}
    (set : launch.setup? = some (env, config))
    (accepted : ((Config.loadOwn env).run quiet launch.begun).1 = .ok loaded) :
    config = overridden env loaded := by
  unfold setup? prepare at set
  unfold begun at accepted
  rw [Program.bind_eq, Program.run_bind] at set
  cases begins : ((begin launch.invocation).run quiet launch.host.machine).1 with
  | none => simp [begins] at set
  | some found =>
    rw [begins] at set
    dsimp only at set
    rw [Program.bind_eq, Program.run_bind] at set
    cases set
    exact run_settle accepted

/-! ## Logins that have been let in -/

theorem stage_of_login [Idna] {login : Login} (came : launch.login? = some login) :
    ∃ argument view, launch.command? = some (.login argument) ∧
      launch.stage? = some (login.setting, view) ∧
      Cli.login? launch.typed login.setting argument view = some login := by
  unfold login? at came
  split at came
  · next argument asked =>
    obtain ⟨⟨setting, view⟩, stage, came⟩ := Option.bind_eq_some_iff.1 came
    obtain ⟨rfl, -⟩ := used_of_login? came
    exact ⟨argument, view, asked, stage, came⟩
  · cases came

theorem ending_of_login [Idna] {login : Login} (came : launch.login? = some login)
    (established : login.outcome = .established) :
    launch.ending.2.machine =
      ((login.memory.saveOwn login.setting.environment).run quiet login.view.machine).2 := by
  obtain ⟨argument, view, asked, stage, came⟩ := stage_of_login came
  rw [(ending_machine_of_stage asked nofun stage (execute_established came established)).1,
    execute_remember_eq]
  rfl

theorem found_of_resembles {names : List String} {files after : FileSystem} {path : Path}
    {name : String} (alike : FileSystem.Resembles names files after)
    (named : path.fileName? = some name) (strict : name ∉ names) :
    Config.found after path = Config.found files path := by
  rw [Config.found_eq, Config.found_eq, alike.exists?_eq, alike.read_eq named strict]

/-- What a login leaves in the configuration file, if its run has found `before` there. -/
structure Remembers [Idna] (launch : Launch) (login : Login) (path : Path) (before : Config) :
    Prop where
  named : ∃ argument, launch.command? = some (.login argument) ∧
    launch.username? argument = some login.form.username
  /-- What the run has found was there all along, unless the path goes up from a directory that is
  made for the log. -/
  earlier : ¬launch.OpensLog ∨ Steady launch.host.machine.files path →
    Config.found launch.host.machine.files path = .ok before
  later : Config.found launch.after.machine.files path =
    .ok { overridden login.setting.environment before with
      lastUsername := some login.form.username }
  faithful : Config.found launch.after.machine.files path =
      .ok { before with lastUsername := some login.form.username } ↔
    ∀ address, login.setting.environment.get? "PWS_BASE_URL" = some address →
      address = before.baseUrl

/-- A login that has been let in and can save its configuration saves its name, and for good the
address that the environment has given for this run. All else stays as it was found. -/
theorem remembers [Idna] {login : Login} {path : Path} {before : Config}
    (came : launch.login? = some login) (established : login.outcome = .established)
    (own : Config.file login.setting.environment = .ok path)
    (accepted : ((Config.loadOwn login.setting.environment).run quiet launch.begun).1 = .ok before)
    (saves : login.Saves) : launch.Remembers login path before := by
  obtain ⟨argument, view, asked, stage, ended⟩ := stage_of_login came
  obtain ⟨set, rfl⟩ := of_stage stage
  obtain ⟨directory, ends, rfl⟩ := endsWithName_file own
  have config : login.setting.config = overridden login.setting.environment before :=
    config_of_setup set accepted
  have machine := ending_of_login came established
  have later : Config.found launch.after.machine.files (directory.child "config.json") =
      .ok login.memory := by
    have named : (directory.child "config.json").fileName? = some "config.json" :=
      fileName_child (by decide) (by decide) directory
    unfold Login.Saves at saves
    rw [Config.saveOwn, own] at machine saves
    rw [found_of_resembles launch.resembles_after.files named (by decide), machine]
    exact Config.found_of_save saves
  rw [Login.memory, config] at later
  refine ⟨⟨argument, asked, ?_⟩, ?_, later, ?_⟩
  · rw [username?, set]
    exact (used_of_login? ended).2
  · intro steady
    have spares := launch.spares_begin
    have same := content?_of_spares spares ends (by decide) (by decide) (by decide) steady
    rw [Config.loadOwn, own] at accepted
    exact Config.found_of_grows spares.files.grows same (Config.found_of_load accepted)
  · rw [later]
    unfold overridden
    cases login.setting.environment.get? "PWS_BASE_URL" with
    | none => simp
    | some address => simp

end Launch

section

open scoped Idna

/-! ## An example -/

def strayLogin : Launch :=
  launchOf ["login", "ana"] [("PWS_PASSWORD", "sun"), ("PWS_BASE_URL", "http://other.example/")]
    .empty (replies "\x7b\"success\":1,\"token\":\"t\"\x7d")

def strayFile : Path := ⟨true, ["root", ".config", "pws", "config.json"]⟩

theorem remembers_address :
    strayLogin.command? = some (.login (some "ana")) ∧ strayLogin.exit = 0 ∧
      Config.found strayLogin.host.machine.files strayFile = .ok .standard ∧
      Config.found strayLogin.after.machine.files strayFile =
        .ok ⟨"http://other.example/", 30, .file, some "ana"⟩ ∧
      Config.found strayLogin.after.machine.files strayFile ≠
        .ok { Config.standard with lastUsername := some "ana" } := by
  have there : strayLogin.login?.isSome = true := by decide +kernel
  have every : ∀ login ∈ strayLogin.login?, login.outcome = .established ∧
      Config.file login.setting.environment = .ok strayFile ∧ login.form.username = "ana" ∧
      login.setting.environment.get? "PWS_BASE_URL" = some "http://other.example/" ∧
      ((Config.loadOwn login.setting.environment).run quiet strayLogin.begun).1 =
        .ok .standard ∧
      ((login.memory.saveOwn login.setting.environment).run quiet login.view.machine).1 =
        .ok () := by
    decide +kernel
  have silent : ∀ env ∈ strayLogin.environment?, (logFile? env).isSome = false := by
    decide +kernel
  obtain ⟨login, came⟩ := Option.isSome_iff_exists.1 there
  obtain ⟨established, own, named, address, accepted, saves⟩ := every login came
  have remembered := Launch.remembers came established own accepted saves
  have unasked : ¬strayLogin.OpensLog := by
    rintro ⟨env, loaded, asked⟩
    rw [silent env loaded] at asked
    cases asked
  refine ⟨rfl, strayLogin.exit_iff.2 ⟨login, came, established⟩, remembered.earlier (.inl unasked),
    ?_, ?_⟩
  · rw [remembered.later, overridden, address, named]
    rfl
  · intro same
    rw [← named] at same
    exact absurd (remembered.faithful.1 same _ address) (by decide)

end

end PracticeClient.Cli
