import PracticeClient.Proofs.Cli.Commands
import PracticeClient.Proofs.Storage.Additions

namespace PracticeClient.Cli

open FileSystem FileStore Machine View

/-! ## What never asks the server -/

def IsOffline : ConsoleOp → Prop
  | .send _ => False
  | _ => True

def Command.isLocal : Command → Bool
  | .logout => true
  | .status => true
  | .help => true
  | _ => false

section

variable {α : Type}

theorem offline_announce (notification : Notification) :
    (Console.announce notification).Uses IsOffline := by
  unfold Console.announce
  cases notification.severity <;> exact ⟨trivial, fun _ => trivial⟩

def IsUnposted : Effect → Prop
  | .post _ _ => False
  | _ => True

theorem offline_expand [Idna] (transport : Http.Transport) {client : Client α}
    (unposted : client.Uses IsUnposted) (progress : Console.Progress) :
    (client.expand (Console.perform transport) progress).Uses IsOffline := by
  induction client generalizing progress with
  | done value => trivial
  | step effect next ih =>
    refine Program.uses_bind ?_ fun _ => ih _ (unposted.2 _) _
    cases effect with
    | store call => exact Program.uses_bind (uses_ofSystem (fun _ => trivial) _) fun _ => trivial
    | post endpoint body => exact unposted.1.elim
    | notify notification => exact Program.uses_bind (offline_announce _) fun _ => trivial
    | log entry => exact ⟨trivial, fun _ => trivial⟩
    | complete => exact ⟨trivial, fun _ => trivial⟩
    | abort => exact ⟨trivial, fun answer => answer.elim⟩

theorem unposted_logout : Account.logout.Uses IsUnposted :=
  ⟨trivial, fun _ => ⟨trivial, fun _ => ⟨trivial, fun _ => ⟨trivial, fun _ => trivial⟩⟩⟩⟩

theorem unposted_signedIn : signedIn.Uses IsUnposted := by
  refine ⟨trivial, ?_⟩
  intro username
  cases username with
  | none => trivial
  | some username =>
    refine ⟨trivial, ?_⟩
    intro token
    cases token with
    | none => trivial
    | some token => exact ⟨trivial, fun _ => trivial⟩

theorem offline_carryOut [Idna] (setting : Setting) {command : Command}
    (near : command.isLocal = true) : (carryOut setting command).Uses IsOffline := by
  cases command with
  | login argument => cases near
  | logout =>
    refine Program.uses_bind (Program.uses_bind (offline_expand _ unposted_logout _) ?_) ?_
      <;> exact fun _ => trivial
  | status =>
    refine Program.uses_bind (Program.uses_bind (offline_expand _ unposted_signedIn _) ?_) ?_
    · rintro ⟨username, progress⟩
      cases username <;> exact ⟨trivial, fun _ => trivial⟩
    · exact fun _ => trivial
  | submissions => cases near
  | help => trivial

theorem offline_run [Idna] {invocation : Invocation}
    (near : ∀ command, Command.parse invocation.arguments = .ok command →
      command.isLocal = true) : (run invocation).Uses IsOffline := by
  rw [run_eq]
  apply Program.uses_bind (uses_ofSystem (fun _ => trivial) _)
  intro begun
  cases begun with
  | none => exact ⟨trivial, fun answer => answer.elim⟩
  | some env =>
    rw [orCrash, carryOn]
    refine ⟨trivial, fun _ => ?_⟩
    change ((runArguments env invocation.arguments).bind conclude).Uses IsOffline
    refine Program.uses_bind ?_ (uses_conclude fun _ => trivial)
    exact uses_runArguments (fun _ => trivial) (fun _ => trivial)
      (fun setting command parsed => offline_carryOut setting (near command parsed)) env

end

/-! ## What is left alone -/

theorem consults_secret (store : KeychainStore) (key : String) :
    (store.get key).Uses Consults := by
  refine Program.uses_mono ?_
    (KeychainStore.asks_get (by decide : _ ∈ [.build, .get]) (by decide) store key)
  intro op asks
  cases asks with
  | @keychain op wanted =>
    cases op with
    | build service key => exact .build service key
    | get service key => exact .get service key
    | set service key value => exact absurd wanted (by simp [KeychainOp.action])
    | delete service key => exact absurd wanted (by simp [KeychainOp.action])
  | log known => exact .log _

theorem consults_get (store : Store) (key : String) :
    (store.perform (.get key)).Uses Consults := by
  cases store with
  | memory values => trivial
  | file path =>
    apply Program.uses_bind
    · exact Program.uses_mono (fun op => consults_of_looks) (looks_get path key)
    · exact fun _ => trivial
  | keychain store => exact Program.uses_bind (consults_secret store key) fun _ => trivial
  | plain values => exact ⟨.announce _, fun _ => trivial⟩
  | batching values => exact ⟨.announce _, fun _ => trivial⟩

theorem spares_user {new : Location → Node → Prop} (store : Store) (machine : Machine) :
    Spares new machine (store.user machine).2 := by
  have asked (key : String) (store : Store) (machine : Machine) :
      Spares new machine (Store.call (.get key) store machine).2 :=
    spares_of_consults (consults_get store key) machine
  unfold Store.user
  dsimp only
  split
  · exact asked _ _ _
  · split
    · exact (asked _ _ _).trans (asked _ _ _)
    · exact ((asked _ _ _).trans (asked _ _ _)).trans (asked _ _ _)

def IsLogOrDirectory (location : Location) (node : Node) : Prop :=
  node = .directory ∨ (node = .file [] ∧ location.getLast? = some logName)

section

variable {machine : Machine}

theorem spares_openLog {directory : Path} (ends : EndsWithName directory) :
    Spares IsLogOrDirectory machine
      ((openLog (directory.child logName)).run quiet machine).2 := by
  have touch (machine : Machine) : Spares IsLogOrDirectory machine
      ((System.file (.touch (directory.child logName))).run quiet machine).2 :=
    spares_touch (by decide) (fun location => .inr ⟨rfl, List.getLast?_concat⟩) machine
  apply Program.after_bind (Spares IsLogOrDirectory machine) (touch machine)
  rintro answer touched - spares
  cases answer with
  | ok _ => exact spares
  | error error =>
    have made : Spares IsLogOrDirectory machine
        ((createParent (directory.child logName)).run quiet touched).2 := by
      rw [createParent, parent_child ends (by decide)]
      exact spares.trans (spares_createDirectories (fun _ => .inl rfl) directory touched)
    apply Program.after_bind (Spares IsLogOrDirectory machine) made
    rintro answer made - spares
    cases answer with
    | ok _ => exact spares.trans (touch made)
    | error error => exact spares

theorem spares_logged (env : Environment) :
    Spares (fun location node => (logFile? env).isSome = true ∧ IsLogOrDirectory location node)
      machine ((logged env).run quiet machine).2 := by
  unfold logged
  cases file : logFile? env with
  | none => exact .refl _ machine
  | some path =>
    obtain ⟨-, directory, placed, rfl⟩ := logFile?_eq_some.1 file
    have opened : Spares IsLogOrDirectory machine
        ((openLog (directory.child logName)).run quiet machine).2 :=
      spares_openLog (endsWithName_place placed)
    apply Program.after_bind (Spares _ machine)
      (opened.mono fun location node new => ⟨rfl, new⟩)
    rintro answer after - spares
    cases answer <;> exact spares

end

namespace Launch

variable (launch : Launch)

def OpensLog : Prop :=
  ∃ env, launch.environment? = some env ∧ (logFile? env).isSome = true

def New (location : Location) (node : Node) : Prop :=
  launch.OpensLog ∧ IsLogOrDirectory location node

theorem spares_begin :
    Spares launch.New launch.host.machine
      ((begin launch.invocation).run quiet launch.host.machine).2 := by
  have loaded : Spares launch.New launch.host.machine
      ((launch.invocation.environment.load? launch.invocation.directory).run quiet
        launch.host.machine).2 := by
    apply spares_of_consults
    exact Program.uses_mono (fun op => consults_of_looks) (looks_load? _ _)
  apply Program.after_bind (Spares launch.New launch.host.machine) loaded
  intro answer machine answered spares
  cases answer with
  | none => exact spares
  | some env =>
    refine spares.trans ((spares_logged env).mono ?_)
    rintro location node ⟨asked, new⟩
    exact ⟨⟨env, answered, asked⟩, new⟩

theorem spares_prepared : Spares launch.New launch.host.machine launch.prepared := by
  apply Program.after_bind (Spares launch.New launch.host.machine) launch.spares_begin
  rintro answer machine - spares
  cases answer with
  | none => exact spares
  | some env =>
    have settled : Spares launch.New launch.host.machine
        ((settle env).run quiet machine).2 := by
      apply spares.trans
      apply spares_of_consults
      exact Program.uses_mono (fun op => consults_of_looks) (looks_settle env)
    apply Program.after_bind (Spares launch.New launch.host.machine) settled
    rintro config after - spares
    exact spares

def Establishes [Idna] : Prop :=
  ∃ login, launch.login? = some login ∧ login.outcome = .established

def LogsOut [Idna] : Prop :=
  launch.command? = some .logout ∧ launch.stage?.isSome = true

variable {launch}

theorem machine_of_no_stage [Idna] {command : Command} (asked : launch.command? = some command)
    (real : command ≠ .help) (nowhere : launch.stage? = none) :
    launch.ending.2.machine = launch.prepared := by
  obtain ⟨-, same⟩ | ⟨env, config, error, -, -, same⟩ := ending_of_no_stage asked real nowhere
  · rw [same]
  · rw [same]

theorem ending_machine_of_stage [Idna] {command : Command} {setting : Setting} {view after : View}
    {result : Except RunError ExitStatus} (asked : launch.command? = some command)
    (real : command ≠ .help) (stage : launch.stage? = some (setting, view))
    (executed : execute (typing launch.typed (carryOut setting command)) view =
      (some result, after)) :
    launch.ending.2.machine = after.machine ∧ launch.ending.1 = some (statusOf result) := by
  rw [ending_of_stage asked real stage, executed]
  cases result <;> exact ⟨rfl, rfl⟩

theorem machine_of_stage [Idna] {setting : Setting} {view : View}
    (stage : launch.stage? = some (setting, view)) : view.machine = launch.prepared := by
  rw [(of_stage stage).2]

theorem login?_of_stage [Idna] {argument : Option String} {setting : Setting} {view : View}
    (asked : launch.command? = some (.login argument))
    (stage : launch.stage? = some (setting, view)) :
    launch.login? = Cli.login? launch.typed setting argument view := by
  rw [login?, asked]
  dsimp only
  rw [stage, Option.bind_some]

theorem not_established_of_stage [Idna] {argument : Option String} {setting : Setting} {view : View}
    (asked : launch.command? = some (.login argument))
    (stage : launch.stage? = some (setting, view)) (unestablished : ¬launch.Establishes)
    (login : Login) (came : Cli.login? launch.typed setting argument view = some login) :
    login.outcome ≠ .established := by
  intro established
  rw [← login?_of_stage asked stage] at came
  exact unestablished ⟨login, came, established⟩

theorem spares_ending [Idna] (unestablished : ¬launch.Establishes) (unfinished : ¬launch.LogsOut) :
    Spares launch.New launch.host.machine launch.ending.2.machine := by
  have idle (idle : launch.command? = none ∨ launch.command? = some .help) :
      Spares launch.New launch.host.machine launch.ending.2.machine := by
    rw [ending_of_no_command idle]
    exact launch.spares_begin
  cases asked : launch.command? with
  | none => exact idle (.inl asked)
  | some command =>
    by_cases help : command = .help
    · exact idle (.inr (help ▸ asked))
    have prepared := launch.spares_prepared
    cases stage : launch.stage? with
    | none => rwa [machine_of_no_stage asked help stage]
    | some found =>
      obtain ⟨setting, view⟩ := found
      rw [← machine_of_stage stage] at prepared
      cases command with
      | login argument =>
        obtain ⟨result, after, executed, -, same⟩ :=
          execute_not_established (not_established_of_stage asked stage unestablished)
        rwa [(ending_machine_of_stage asked help stage executed).1, same]
      | logout => exact absurd ⟨asked, by rw [stage]; rfl⟩ unfinished
      | status =>
        rw [(ending_machine_of_stage asked help stage (execute_status setting view _)).1]
        exact prepared.trans (spares_user setting.store view.machine)
      | submissions =>
        obtain ⟨after, executed, same⟩ := execute_submissions setting view launch.typed
        rwa [(ending_machine_of_stage asked help stage executed).1, same]
      | help => exact absurd rfl help

theorem endsWithName_file {env : Environment} {path : Path} (own : Config.file env = .ok path) :
    ∃ directory, EndsWithName directory ∧ path = directory.child "config.json" := by
  obtain ⟨directory, placed, rfl⟩ := file_eq_ok.1 own
  exact ⟨directory, endsWithName_place placed, rfl⟩

theorem endsWithName_sessionFile {env : Environment} {path : Path}
    (own : Config.sessionFile env = .ok path) :
    ∃ directory, EndsWithName directory ∧ path = directory.child "session.json" := by
  unfold Config.sessionFile at own
  cases placed : Config.cacheDirectory env with
  | error error =>
    rw [placed] at own
    cases own
  | ok directory =>
    rw [placed] at own
    cases own
    exact ⟨directory, endsWithName_place placed, rfl⟩

theorem content?_of_node? {fs after : FileSystem} (here : after.here = fs.here)
    (same : ∀ location, after.node? location = fs.node? location) (path : Path) :
    after.content? path = fs.content? path := by
  apply content?_congr
  intro content
  have back : Grows after fs := ⟨here.symm, fun there => (same _).symm.trans there⟩
  have forth : Grows fs after := ⟨here, fun there => (same _).trans there⟩
  exact ⟨back.read, forth.read⟩

theorem content?_of_spares {machine : Machine} {directory : Path} {name : String}
    (spares : Spares launch.New launch.host.machine machine) (ends : EndsWithName directory)
    (solid : Path.isDot name = false) (down : name ≠ "..") (differs : name ≠ logName)
    (untouched : ¬launch.OpensLog ∨ Steady launch.host.machine.files (directory.child name)) :
    machine.files.content? (directory.child name) =
      launch.host.machine.files.content? (directory.child name) := by
  rcases untouched with unasked | steady
  · have nothing : Spares (fun _ _ => False) launch.host.machine machine :=
      spares.mono fun location node new => unasked new.1
    exact content?_of_node? nothing.files.grows.here nothing.files.node?_eq _
  · refine spares.files.content? ends solid down ?_ steady
    rintro location content ⟨-, directory | ⟨-, log⟩⟩
    · cases directory
    · rw [log, ne_eq, Option.some.injEq]
      exact Ne.symm differs

def IsLog [Idna] (launch : Launch) (location : Location) : Prop :=
  ∃ env path, launch.environment? = some env ∧ logFile? env = some path ∧
    launch.after.machine.files.locate path = .ok location

/-- What was there is as it was, but that a log may have grown, and nothing is new but a log and
directories. The configuration and the session are read as before, unless the path to one of them
goes up from a directory that is missing. -/
structure LeavesAlone [Idna] (launch : Launch) : Prop where
  kept : ∀ location node, launch.host.machine.files.node? location = some node →
    launch.after.machine.files.node? location = some node ∨
      launch.IsLog location ∧ ∃ old more, node = .file old ∧
        launch.after.machine.files.node? location = some (.file (old ++ more))
  new : ∀ location node, launch.host.machine.files.node? location = none →
    launch.after.machine.files.node? location = some node →
    launch.OpensLog ∧ (node = .directory ∨
      location.getLast? = some logName ∧ ∃ lines, node = .file lines)
  secrets : launch.after.machine.keychain.entries = launch.host.machine.keychain.entries
  contents : ∀ env path, launch.environment? = some env →
    Config.file env = .ok path ∨ Config.sessionFile env = .ok path →
    ¬launch.OpensLog ∨ Steady launch.host.machine.files path →
    launch.after.machine.files.content? path = launch.host.machine.files.content? path

theorem node?_after [Idna] (launch : Launch) (location : Location) :
    launch.after.machine.files.node? location = launch.ending.2.machine.files.node? location ∨
      launch.IsLog location ∧ ∃ old more,
        launch.ending.2.machine.files.node? location = some (.file old) ∧
        launch.after.machine.files.node? location = some (.file (old ++ more)) := by
  have alike := launch.resembles_after.files
  obtain same | ⟨env, path, more, loaded, file, same⟩ := launch.after_cases
  · exact .inl (by rw [same])
  · obtain unmoved | ⟨place, old, located, there, set⟩ :=
      launch.ending.2.machine.files.append_cases path more
    · exact .inl (by rw [same, unmoved])
    · have inner : place ≠ [] := by
        rintro rfl
        cases there
      have files : launch.after.machine.files =
          launch.ending.2.machine.files.set place (.file (old ++ more)) := by rw [same, set]
      by_cases here : location = place
      · subst here
        refine .inr ⟨⟨env, path, loaded, file, ?_⟩, old, more, there, ?_⟩
        · rwa [alike.locate_eq]
        · rw [files, node?_set inner, if_pos rfl]
      · left
        rw [files, node?_set inner, if_neg here]

theorem leavesAlone_of_spares [Idna]
    (spares : Spares launch.New launch.host.machine launch.ending.2.machine) :
    launch.LeavesAlone where
  kept location node there := by
    have there := spares.files.grows.nodes there
    obtain same | ⟨log, old, more, file, grown⟩ := launch.node?_after location
    · exact .inl (same.trans there)
    · exact .inr ⟨log, old, more, Option.some.inj (there.symm.trans file), grown⟩
  new location node missing there := by
    obtain same | ⟨-, old, more, file, grown⟩ := launch.node?_after location
    · rw [same] at there
      obtain ⟨opens, directory | ⟨rfl, log⟩⟩ := spares.files.news missing there
      · exact ⟨opens, .inl directory⟩
      · exact ⟨opens, .inr ⟨log, [], rfl⟩⟩
    · obtain ⟨opens, directory | ⟨-, log⟩⟩ := spares.files.news missing file
      · cases directory
      · exact ⟨opens, .inr ⟨log, old ++ more, Option.some.inj (there.symm.trans grown)⟩⟩
  secrets := by rw [launch.resembles_after.keychain, spares.secrets]
  contents env path _ known untouched := by
    have alike := launch.resembles_after.files
    rcases known with own | own
    · obtain ⟨directory, ends, rfl⟩ := endsWithName_file own
      exact (alike.content?_eq (fileName_child (by decide) (by decide) directory)
        (by decide)).trans
          (content?_of_spares spares ends (by decide) (by decide) (by decide) untouched)
    · obtain ⟨directory, ends, rfl⟩ := endsWithName_sessionFile own
      exact (alike.content?_eq (fileName_child (by decide) (by decide) directory)
        (by decide)).trans
          (content?_of_spares spares ends (by decide) (by decide) (by decide) untouched)

end Launch

end PracticeClient.Cli
