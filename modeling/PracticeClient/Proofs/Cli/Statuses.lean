import PracticeClient.Proofs.Cli.Launches

namespace PracticeClient.Cli

open FileStore View

def Launch.Says [Idna] (launch : Launch) (text : String) : Prop :=
  launch.after.output = launch.host.output ++ text

structure Tells [Idna] (launches : List Launch) (last : Launch) : Prop where
  signedIn : ∀ username, last.Says s!"Signed in as {username}\n" ∧ last.exit = 0 ↔
    ∃ launch argument, latest? launches = some launch ∧
      launch.command? = some (.login argument) ∧ launch.username? argument = some username
  /-- Every login that counts has used a name. -/
  named : ∀ launch argument, latest? launches = some launch →
    launch.command? = some (.login argument) → (launch.username? argument).isSome = true
  otherwise : (∀ launch argument, latest? launches = some launch →
      launch.command? ≠ some (.login argument)) →
    last.Says "Not signed in\n" ∧ last.exit ≠ 0

def Launch.Reports [Idna] (launch : Launch) : Option String → Prop
  | some username => launch.Says s!"Signed in as {username}\n" ∧ launch.exit = 0
  | none => launch.Says "Not signed in\n" ∧ launch.exit ≠ 0

theorem Launch.Reports.signedIn_iff [Idna] {last : Launch} {user : Option String}
    (reports : last.Reports user) (username : String) :
    last.Says s!"Signed in as {username}\n" ∧ last.exit = 0 ↔ user = some username := by
  cases user with
  | none =>
    refine iff_of_false ?_ (by simp)
    rintro ⟨-, zero⟩
    exact reports.2 zero
  | some other =>
    obtain ⟨said, zero⟩ := reports
    rw [and_iff_left zero, Option.some.injEq]
    constructor
    · intro also
      have same := congrArg String.toList (said.symm.trans also)
      simp only [String.toList_append, List.append_cancel_left_eq,
        List.append_cancel_right_eq] at same
      exact String.ext same
    · rintro rfl
      exact said

section

variable {directory : Path} {launches : List Launch}

theorem conclusion_of_told {good : SystemOp → Machine → Prop} {before after : View}
    {user : Option String} {result : Option (Except RunError ExitStatus)}
    {typed : Except TerminalError String} (told : Told user before result after) :
    thenEnds good (fun status => Told user before (status.map .ok))
      (fun result => typing typed (conclude result)) result after := by
  cases user with
  | none =>
    obtain ⟨rfl, said⟩ := told
    rw [thenEnds]
    exact ends_done ⟨rfl, said⟩
  | some username =>
    obtain ⟨rfl, said⟩ := told
    rw [thenEnds]
    exact ends_done ⟨rfl, said⟩

theorem exists_of_isOk {ε α : Type} {result : Except ε α} (fine : result.isOk = true) :
    ∃ value, result = .ok value := by
  cases result with
  | error error => cases fine
  | ok value => exact ⟨value, rfl⟩

theorem find_of_valid [Idna] {env : Environment} {config : Config} {store : Store}
    (opened : config.openStore env = .ok store)
    (valid : (Http.Transport.ofAddress config.baseUrl).isOk = true) :
    ∃ setting, Setting.find env config = .ok setting ∧ setting.store = store := by
  obtain ⟨transport, address⟩ := exists_of_isOk valid
  exact ⟨⟨env, config, transport, store⟩, Setting.find_eq_ok.2 ⟨opened, address, rfl, rfl⟩, rfl⟩

theorem ends_status_run [Idna] {last : Launch} {user : Option String}
    (prepared : SignedIn ((prepare last.invocation).run Machine.quiet last.host.machine).2.files
      (sessionIn directory) user)
    (shares : last.Shares directory) (asked : last.command? = some .status) (ready : last.Ready) :
    Ends (Serves (sessionIn directory)) (fun status => Told user last.host.view (status.map .ok))
      (typing last.typed (run last.invocation)) last.host.view := by
  obtain ⟨⟨env, config⟩, setup, valid⟩ := ready
  have setup : last.setup? = some (env, config) := setup
  have file : config.openStore env = .ok (.file (sessionIn directory)) :=
    Launch.openStore_of_file (shares.backend env config setup)
      (shares.place env (loaded_of_prepared setup))
  obtain ⟨setting, found, opened⟩ := find_of_valid file valid
  refine Launch.ends_run_of_command (last.parsed_of_command? asked) (by decide) ?_
  unfold Launch.setup? at setup
  rw [Host.view_machine, setup, orCrash, finish, serve, found]
  dsimp only
  rw [Program.bind_eq, typing_bind,
    typing_of_silent (silent_carryOut _ .status fun _ => by simp)]
  apply ends_bind
  refine ends_mono (ends_status opened prepared) ?_
  intro result after told
  exact conclusion_of_told told.1

theorem reports_of_signedIn [Idna] {last : Launch} {user : Option String}
    (prepared : SignedIn ((prepare last.invocation).run Machine.quiet last.host.machine).2.files
      (sessionIn directory) user)
    (shares : last.Shares directory) (asked : last.command? = some .status) (ready : last.Ready) :
    last.Reports user := by
  have told := ends_status_run prepared shares asked ready shares.succeeds
  change Told user last.host.view (last.ending.1.map .ok) last.ending.2 at told
  cases user with
  | none =>
    obtain ⟨ended, said⟩ := told
    refine ⟨last.output_after.trans said, fun zero => ?_⟩
    rw [last.exit_eq_zero.1 zero] at ended
    cases ended
  | some username =>
    obtain ⟨ended, said⟩ := told
    refine ⟨last.output_after.trans said, last.exit_eq_zero.2 ?_⟩
    obtain ⟨status, ended, success⟩ := Option.map_eq_some_iff.1 ended
    cases success
    exact ended

/-- However often the program is launched before, a status tells who has signed in last, if nobody
has signed out since. -/
theorem tells_of_history [Idna] {last : Launch}
    (history : History directory launches last.host.machine.files)
    (shares : last.Shares directory) (asked : last.command? = some .status) (ready : last.Ready) :
    Tells launches last := by
  obtain ⟨signed, named⟩ := signedIn_of_history history
  have prepared := signed.of_stands fun content => stands_prepare shares.place
  have reports := reports_of_signedIn prepared shares asked ready
  refine ⟨?_, named, ?_⟩
  · intro username
    rw [reports.signedIn_iff username, signedInBy_eq_some]
  · intro nobody
    have none : signedInBy launches = none := by
      apply Option.eq_none_iff_forall_ne_some.2
      intro username signed
      obtain ⟨launch, argument, latest, login, -⟩ := signedInBy_eq_some.1 signed
      exact nobody launch argument latest login
    rwa [none] at reports

end

section

open scoped Idna

/-! ## An example of three launches -/

def replies (text : String) : Http.Server :=
  ⟨true, true, [.respond ⟨.ok, [], Text.utf8 text, false⟩], []⟩

def plainRecorder : Recorder :=
  ⟨fun _ _ => true, fun entries => entries.flatMap fun entry => Text.utf8 (entry.message ++ "\n")⟩

def launchOf (arguments : List String) (bindings : List (String × String)) (files : FileSystem)
    (server : Http.Server) : Launch where
  invocation := ⟨arguments, ⟨bindings, some ⟨true, ["root"]⟩⟩, ⟨true, ["work"]⟩⟩
  host := ⟨⟨files, .empty⟩, server, [], "", [], plainRecorder, none⟩
  typed := .error .noTerminal

def home : Path := ⟨true, ["root", ".cache", "pws"]⟩

def sessionOfAna : FileSystem where
  nodes := [(["root"], .directory), (["root", ".cache"], .directory),
    (["root", ".cache", "pws"], .directory), (["root", ".cache", "pws", "session.json"],
      .file (encode (sessionValues (some ("t", "ana")))))]
  here := []
  mishaps := []

def acceptedLogin : Launch :=
  launchOf ["login", "ana"] [("PWS_PASSWORD", "sun")] .empty
    (replies "\x7b\"success\":1,\"token\":\"t\"\x7d")

def rejectedLogin : Launch :=
  launchOf ["login", "bob"] [("PWS_PASSWORD", "moon")] sessionOfAna
    (replies "\x7b\"success\":0\x7d")

def laterStatus : Launch :=
  launchOf [] [] sessionOfAna (replies "")

theorem tells_of_history_ana :
    laterStatus.Says "Signed in as ana\n" ∧ laterStatus.exit = 0 := by
  have tree : FileSystem.empty.IsTree := FileSystem.isTree_of_nodes (by decide)
  have absent : Stands .empty (sessionIn home) none := .of_tree tree (by decide)
  have first : acceptedLogin.Shares home := by decide +kernel
  have second : rejectedLogin.Shares home := by decide +kernel
  have third : laterStatus.Shares home := by decide +kernel
  have ready : laterStatus.Ready := by
    unfold Launch.Ready
    decide +kernel
  have there : sessionOfAna.content? (sessionIn home) =
      some (encode (sessionValues (some ("t", "ana")))) := by decide +kernel
  have begun : History home [acceptedLogin] sessionOfAna := by
    refine (History.launch (.opening absent) first).others_of_content ?_ there
    decide +kernel
  have history : History home [acceptedLogin, rejectedLogin] sessionOfAna := by
    refine (History.launch begun second).others_of_content ?_ there
    decide +kernel
  have latest : latest? [acceptedLogin, rejectedLogin] = some acceptedLogin := by
    have counted : acceptedLogin.counts = true := by decide +kernel
    have uncounted : rejectedLogin.counts = false := by decide +kernel
    simp [latest?, counted, uncounted]
  have tells := tells_of_history history third (by decide) ready
  exact (tells.signedIn "ana").2 ⟨acceptedLogin, some "ana", latest, by decide, by decide +kernel⟩

/-! ## Statuses that do not tell

A run may come to grief at its environment file. And a path that goes up from a missing directory
leads nowhere, until the directory is made.
-/

structure Untold (directory : Path) (last : Launch) : Prop where
  absent : last.host.machine.files.content? (sessionIn directory) = none
  shares : last.Shares directory
  asked : last.command? = some .status
  valid : ∃ address ∈ last.invocation.environment.get? "PWS_BASE_URL",
    (Http.Transport.ofAddress address).isOk = true
  untold : ¬Tells [] last

def validAddress : String × String := ("PWS_BASE_URL", "http://localhost:8891/")

def tainted : Launch :=
  launchOf ["status"] [validAddress]
    ⟨[(["work"], .directory), (["work", ".env"], .file (Text.utf8 "A=\x00"))], [], []⟩ (replies "")

theorem untold_tainted : Untold home tainted ∧ tainted.after.output = "" := by
  have silent : tainted.after.output = "" := by decide +kernel
  refine ⟨⟨by decide +kernel, by decide +kernel, rfl, by decide +kernel, ?_⟩, silent⟩
  intro tells
  obtain ⟨said, -⟩ := tells.otherwise fun launch argument none => by cases none
  rw [Launch.Says, silent] at said
  exact absurd said (by decide)

def upwards : Path := ⟨true, ["missing", "..", "pws"]⟩

def unveiling : Launch :=
  launchOf ["status"]
    [("XDG_CACHE_HOME", "/missing/.."), ("PWS_LOG_FILE", "1"), validAddress]
    ⟨[(["pws"], .directory),
      (["pws", "session.json"], .file (encode (sessionValues (some ("t", "ana")))))], [], []⟩
    (replies "")

def unveiled : View :=
  { unveiling.host.view with
    machine := ((openLog (upwards.child logName)).run Machine.quiet unveiling.host.machine).2 }

theorem cacheDirectory_unveiling :
    Config.cacheDirectory unveiling.invocation.environment = .ok upwards := by
  have text : Path.ofText "/missing/.." = ⟨true, ["missing", ".."]⟩ := by
    simp +decide [Path.ofText, String.splitOn, String.splitOnAux]
  have named : unveiling.invocation.environment.get? "XDG_CACHE_HOME" = some "/missing/.." := rfl
  rw [Config.cacheDirectory, Environment.cacheDirectory?, Environment.directory?, named,
    Option.map_some, text]
  rfl

theorem load?_unveiling :
    (unveiling.invocation.environment.load? unveiling.invocation.directory).run Machine.quiet
      unveiling.host.machine = (some unveiling.invocation.environment, unveiling.host.machine) :=
  rfl

theorem logFile?_unveiling :
    logFile? unveiling.invocation.environment = some (upwards.child logName) :=
  logFile?_eq_some.2 ⟨rfl, upwards, cacheDirectory_unveiling, rfl⟩

theorem begin_unveiling :
    (begin unveiling.invocation).run Machine.quiet unveiling.host.machine =
      (some unveiling.invocation.environment, unveiled.machine) := by
  rw [begin, Program.bind_eq, Program.run_bind, load?_unveiling]
  dsimp only
  rw [logged, logFile?_unveiling]
  rfl

theorem prepare_unveiling :
    (prepare unveiling.invocation).run Machine.quiet unveiling.host.machine =
      (some (unveiling.invocation.environment, .standard), unveiled.machine) := by
  rw [prepare, Program.bind_eq, Program.run_bind, begin_unveiling]
  rfl

theorem along_prepare_unveiling :
    (prepare unveiling.invocation).Along (Serves (sessionIn upwards)) Machine.quiet
      unveiling.host.machine := by
  rw [prepare, Program.bind_eq, Program.along_bind, begin_unveiling, begin, Program.bind_eq,
    Program.along_bind, load?_unveiling]
  dsimp only
  rw [logged, logFile?_unveiling]
  decide +kernel

theorem along_finish_unveiling :
    Along (Serves (sessionIn upwards))
      (typing unveiling.typed (finish .status (unveiling.invocation.environment, .standard)))
      unveiled := by
  have file : Config.standard.openStore unveiling.invocation.environment =
      .ok (.file (sessionIn upwards)) := Launch.openStore_of_file rfl cacheDirectory_unveiling
  rw [finish, serve, Setting.find, file]
  decide +kernel

theorem shares_unveiling : unveiling.Shares upwards where
  place env loaded := by
    rw [Launch.environment?, load?_unveiling] at loaded
    rw [← Option.some.inj loaded, cacheDirectory_unveiling]
  backend env config setup := by
    rw [Launch.setup?, prepare_unveiling] at setup
    rw [← (Prod.mk.inj (Option.some.inj setup)).2]
    rfl
  succeeds := by
    refine (Launch.along_run_of_command rfl (by decide)).2 ⟨along_prepare_unveiling, ?_⟩
    rw [Host.view_machine, prepare_unveiling]
    exact along_finish_unveiling

/-- Who has never signed in here is found, once the file that was out of reach is in sight. -/
theorem untold_unveiling : Untold upwards unveiling ∧ unveiling.Reports (some "ana") := by
  have ready : unveiling.Ready := by
    refine ⟨(unveiling.invocation.environment, .standard), ?_, by decide +kernel⟩
    rw [Launch.setup?, prepare_unveiling]
    rfl
  have reached : SignedIn ((prepare unveiling.invocation).run Machine.quiet
      unveiling.host.machine).2.files (sessionIn upwards) (some "ana") := by
    rw [prepare_unveiling]
    exact ⟨some ("t", "ana"), rfl, .of_content (by decide +kernel)⟩
  have reports : unveiling.Reports (some "ana") :=
    reports_of_signedIn reached shares_unveiling rfl ready
  refine ⟨⟨by decide +kernel, shares_unveiling, rfl, by decide +kernel, ?_⟩, reports⟩
  intro tells
  exact (tells.otherwise fun launch argument none => by cases none).2 reports.2

theorem untold_statuses :
    (Untold home tainted ∧ tainted.after.output = "") ∧
      (Untold upwards unveiling ∧ unveiling.Reports (some "ana")) :=
  ⟨untold_tainted, untold_unveiling⟩

end

end PracticeClient.Cli
