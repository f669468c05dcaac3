import Mathlib.Data.Option.Basic
import PracticeClient.Proofs.Cli.Conduct
import PracticeClient.Proofs.Configurations
import PracticeClient.Proofs.Storage.Resemblance

/-!
# What the address of the server decides

A logout and a status ask nothing of the server. Still neither is carried out unless the address of
the server makes sense. So two launches that differ in the address only end alike as long as both
addresses make sense, or neither does.
-/

namespace PracticeClient.Cli

open FileSystem FileStore Machine View

/-! ## Environments that differ in the address -/

def addressVariable : String := "PWS_BASE_URL"

def addressFiles : List String := [Environment.fileName, "config.json"]

structure SameOff (env env' : Environment) : Prop where
  account : env'.account = env.account
  others : ∀ name, name ≠ addressVariable → env'.get? name = env.get? name

section

variable {env env' : Environment}

theorem directory?_of_sameOff (same : SameOff env env') {name : String}
    (other : name ≠ addressVariable) (fallback : String) :
    env'.directory? name fallback = env.directory? name fallback := by
  simp only [Environment.directory?, Environment.home?, Environment.filled?, same.account,
    same.others name other, same.others "HOME" (by decide)]

theorem cacheDirectory_of_sameOff (same : SameOff env env') :
    Config.cacheDirectory env' = Config.cacheDirectory env := by
  rw [Config.cacheDirectory, Environment.cacheDirectory?, directory?_of_sameOff same (by decide)]
  rfl

theorem file_of_sameOff (same : SameOff env env') : Config.file env' = Config.file env := by
  rw [Config.file, Environment.configDirectory?, directory?_of_sameOff same (by decide)]
  rfl

theorem logFile?_of_sameOff (same : SameOff env env') : logFile? env' = logFile? env := by
  rw [logFile?, logFile?, same.others _ (by decide), cacheDirectory_of_sameOff same]

theorem openStore_of_sameOff (same : SameOff env env') {config config' : Config}
    (kind : config'.storage = config.storage) : config'.openStore env' = config.openStore env := by
  rw [Config.openStore, Config.openStore, kind, Config.sessionFile, cacheDirectory_of_sameOff same]
  rfl

end

/-! ## Getting set up -/

section

variable {machine other : Machine}

theorem find_of_resembles (alike : Resembles addressFiles machine other)
    (directories : List Path) :
    ((Environment.find directories).run quiet other).1.isSome =
        ((Environment.find directories).run quiet machine).1.isSome ∧
      Resembles addressFiles ((Environment.find directories).run quiet machine).2
        ((Environment.find directories).run quiet other).2 := by
  induction directories generalizing machine other with
  | nil => exact ⟨rfl, alike⟩
  | cons directory rest ih =>
    have past : Resembles addressFiles { machine with files := machine.files.past }
        { other with files := other.files.past } := ⟨alike.files.past, alike.keychain⟩
    rw [Environment.find, Program.bind_eq, Program.run_bind, Program.run_bind]
    simp only [System.file, Program.run_ask, quiet, FileOp.handle_read, alike.files.due]
    cases machine.files.due with
    | some mishap =>
      dsimp only
      cases mishap.error <;> first | exact ih past | exact ⟨rfl, past⟩
    | none =>
      dsimp only
      obtain ⟨content, content', one, two⟩ | ⟨error, one, two⟩ :=
        alike.files.read_cases (directory.child Environment.fileName)
      · rw [one, two]
        exact ⟨rfl, past⟩
      · rw [one, two]
        cases error <;> first | exact ih past | exact ⟨rfl, past⟩

theorem blind_openLog (directory : Path) :
    (openLog (directory.child logName)).Uses (Blind addressFiles) := by
  refine ⟨trivial, ?_⟩
  intro touched
  cases touched with
  | ok _ => trivial
  | error error =>
    have made : (createParent (directory.child logName)).Uses (Blind addressFiles) := by
      unfold createParent
      cases (directory.child logName).parent? with
      | none => trivial
      | some parent => exact ⟨trivial, fun _ => trivial⟩
    apply Program.uses_bind made
    intro made
    cases made with
    | error error => trivial
    | ok _ => exact ⟨trivial, fun _ => trivial⟩

theorem logged_of_resembles (alike : Resembles addressFiles machine other)
    {env env' : Environment} (same : SameOff env env') :
    Option.Rel SameOff ((logged env).run quiet machine).1 ((logged env').run quiet other).1 ∧
      Resembles addressFiles ((logged env).run quiet machine).2
        ((logged env').run quiet other).2 := by
  unfold logged
  rw [logFile?_of_sameOff same]
  cases file : logFile? env with
  | none => exact ⟨.some same, alike⟩
  | some path =>
    obtain ⟨-, directory, -, rfl⟩ := logFile?_eq_some.1 file
    obtain ⟨answer, resembles⟩ := run_of_blind (blind_openLog directory) alike
    dsimp only
    rw [Program.bind_eq, Program.run_bind, Program.bind_eq, Program.run_bind, answer]
    cases ((openLog (directory.child logName)).run quiet machine).1 with
    | ok _ => exact ⟨.some same, resembles⟩
    | error error => exact ⟨.none, resembles⟩

theorem after_settle (env : Environment) (machine : Machine) :
    ((settle env).run quiet machine).2 = ((Config.loadOwn env).run quiet machine).2 := by
  rw [settle, Program.bind_eq, Program.run_bind]
  cases ((Config.loadOwn env).run quiet machine).1 <;> rfl

theorem load_of_resembles (alike : Resembles addressFiles machine other) (path : Path) :
    Resembles addressFiles ((Config.load path).run quiet machine).2
      ((Config.load path).run quiet other).2 := by
  rw [Config.run_load, Config.run_load, alike.files.exists?_eq]
  split
  · exact ⟨alike.files.past, alike.keychain⟩
  · exact alike

theorem settle_of_resembles (alike : Resembles addressFiles machine other)
    {env env' : Environment} (same : SameOff env env') :
    Resembles addressFiles ((settle env).run quiet machine).2
      ((settle env').run quiet other).2 := by
  rw [after_settle, after_settle, Config.loadOwn, Config.loadOwn, file_of_sameOff same]
  cases Config.file env with
  | error error => exact alike
  | ok path => exact load_of_resembles alike path

end

/-! ## What local commands do -/

section

theorem fileName?_aside (directory : Path) :
    (asidePath (directory.child "session.json")).fileName? = some "session.json.tmp" := by
  have named : (directory.child "session.json").fileName? = some "session.json" :=
    fileName_child (by decide) (by decide) directory
  have name : "session.json" ++ ".tmp" = "session.json.tmp" := by decide
  rw [asidePath, Path.withFileName, named]
  exact fileName_child (by decide) (by decide) _

theorem blind_of_asks {directory : Path} {op : SystemOp}
    (asks : FileStore.Asks (directory.child "session.json") op) : Blind addressFiles op := by
  cases asks with
  | log known => trivial
  | @file op concerns =>
    cases op with
    | read path =>
      obtain rfl : path = directory.child "session.json" := concerns
      exact ⟨_, fileName_child (by decide) (by decide) directory, by decide⟩
    | rename source destination =>
      obtain rfl : source = asidePath (directory.child "session.json") := concerns.1
      exact ⟨_, fileName?_aside directory, by decide⟩
    | _ => trivial

inductive IsOpened : Store → Prop
  | file (directory : Path) : IsOpened (.file (directory.child "session.json"))
  | keychain (store : KeychainStore) : IsOpened (.keychain store)
  | memory (values : Table String) : IsOpened (.memory values)

theorem openStore_cases {config : Config} {env : Environment} {store : Store}
    (opened : config.openStore env = .ok store) :
    (∃ directory : Path, store = .file (directory.child "session.json")) ∨
      store = .keychain ⟨Config.applicationName, []⟩ ∨ store = .memory .empty := by
  unfold Config.openStore at opened
  cases kind : config.storage with
  | file =>
    rw [kind, Config.sessionFile] at opened
    cases placed : Config.cacheDirectory env with
    | error error =>
      rw [placed] at opened
      cases opened
    | ok directory =>
      rw [placed] at opened
      exact .inl ⟨directory, (Except.ok.inj opened).symm⟩
  | keyring =>
    rw [kind] at opened
    exact .inr (.inl (Except.ok.inj opened).symm)
  | memory =>
    rw [kind] at opened
    exact .inr (.inr (Except.ok.inj opened).symm)

theorem isOpened_openStore {config : Config} {env : Environment} {store : Store}
    (opened : config.openStore env = .ok store) : IsOpened store := by
  obtain ⟨directory, rfl⟩ | rfl | rfl := openStore_cases opened
  · exact .file directory
  · exact .keychain _
  · exact .memory _

theorem isOpened_call {store : Store} (opened : IsOpened store) (call : StoreCall)
    (machine : Machine) : IsOpened (Store.call call store machine).1.2 := by
  cases opened with
  | file directory =>
    rw [Store.call_file]
    exact .file directory
  | keychain store =>
    rw [Store.call_keychain]
    exact .keychain _
  | memory values => exact .memory _

variable {machine other : Machine} {store : Store}

theorem blind_perform (opened : IsOpened store) (call : StoreCall) :
    (store.perform call).Uses (Blind addressFiles) := by
  cases opened with
  | file directory =>
    apply Program.uses_bind
    · exact Program.uses_mono (fun op => blind_of_asks) (asks_perform call)
    · exact fun _ => trivial
  | keychain store =>
    refine Program.uses_bind (Program.uses_mono ?_ (KeychainStore.asks_perform call store)) ?_
    · intro op asks
      cases asks <;> trivial
    · exact fun _ => trivial
  | memory values => trivial

theorem call_of_resembles (alike : Resembles addressFiles machine other)
    (opened : IsOpened store) (call : StoreCall) :
    (Store.call call store other).1 = (Store.call call store machine).1 ∧
      Resembles addressFiles (Store.call call store machine).2 (Store.call call store other).2 :=
  run_of_blind (blind_perform opened call) alike

theorem user_of_resembles (alike : Resembles addressFiles machine other)
    (opened : IsOpened store) :
    (store.user other).1 = (store.user machine).1 ∧
      Resembles addressFiles (store.user machine).2 (store.user other).2 := by
  obtain ⟨answer, resembles⟩ := call_of_resembles alike opened (.get Session.usernameKey)
  have opened := isOpened_call opened (.get Session.usernameKey) machine
  unfold Store.user
  dsimp only
  rw [answer]
  cases (Store.call (.get Session.usernameKey) store machine).1.1 with
  | none => exact ⟨rfl, resembles⟩
  | some username =>
    dsimp only
    obtain ⟨answer, resembles⟩ := call_of_resembles resembles opened (.get Session.tokenKey)
    have opened := isOpened_call opened (.get Session.tokenKey)
      (Store.call (.get Session.usernameKey) store machine).2
    rw [answer]
    split
    · exact ⟨rfl, resembles⟩
    · obtain ⟨answer, resembles⟩ := call_of_resembles resembles opened (.get Session.usernameKey)
      dsimp only
      rw [answer]
      exact ⟨rfl, resembles⟩

end

def tell (store : Store) (machine : Machine) : Command → (ExitStatus × String) × Machine
  | .status => ((.ofBool (store.user machine).1.1.isSome, statusLine (store.user machine).1.1),
      (store.user machine).2)
  | _ => ((.success, (Notification.mk .success Account.farewell).terminalLine ++ "\n"),
      (Store.call Session.clearing store machine).2)

theorem execute_local [Idna] {command : Command} (near : command = .logout ∨ command = .status)
    (setting : Setting) (view : View) (typed : Except TerminalError String) :
    execute (typing typed (carryOut setting command)) view =
      (some (.ok (tell setting.store view.machine command).1.1), { view with
        machine := (tell setting.store view.machine command).2
        output := view.output ++ (tell setting.store view.machine command).1.2 }) := by
  rcases near with rfl | rfl
  · exact execute_logout setting view typed
  · exact execute_status setting view typed

theorem tell_of_resembles {machine other : Machine} {store : Store}
    (alike : Resembles addressFiles machine other) (opened : IsOpened store) (command : Command) :
    (tell store other command).1 = (tell store machine command).1 ∧
      Resembles addressFiles (tell store machine command).2 (tell store other command).2 := by
  have cleared := (call_of_resembles alike opened Session.clearing).2
  cases command with
  | status =>
    obtain ⟨answer, resembles⟩ := user_of_resembles alike opened
    simp only [tell, answer]
    exact ⟨trivial, resembles⟩
  | _ => exact ⟨rfl, cleared⟩

theorem tell_ne_empty {command : Command} (near : command = .logout ∨ command = .status)
    (store : Store) (machine : Machine) : (tell store machine command).1.2 ≠ "" := by
  rcases near with rfl | rfl
  · change (Notification.mk .success Account.farewell).terminalLine ++ "\n" ≠ ""
    decide
  · simp only [tell]
    cases (store.user machine).1.1 with
    | none => decide
    | some username => simp [statusLine, toString]

/-! ## Launches that differ in the address -/

namespace Launch

/-- Two launches alike but for the address of the server, which may be given in the environment, in
an environment file or in the configuration. What their servers do does not matter. -/
structure SameButAddress (launch other : Launch) : Prop where
  arguments : other.invocation.arguments = launch.invocation.arguments
  directory : other.invocation.directory = launch.invocation.directory
  machine : Resembles addressFiles launch.host.machine other.host.machine
  output : other.host.output = launch.host.output
  environment : Option.Rel SameOff launch.environment? other.environment?
  config : ∀ env config env' config', launch.setup? = some (env, config) →
    other.setup? = some (env', config') → { config' with baseUrl := config.baseUrl } = config

/-- The address that a launch finds makes sense, if the launch gets to look at it: the store is
opened first. -/
def Addressed [Idna] (launch : Launch) : Prop :=
  ∀ env config, launch.setup? = some (env, config) → (config.openStore env).isOk = true →
    (Http.Transport.ofAddress config.baseUrl).isOk = true

structure EndsLike [Idna] (launch other : Launch) : Prop where
  exit : other.exit = launch.exit
  output : other.after.output = launch.after.output
  left : Resembles (logName :: addressFiles) launch.after.machine other.after.machine

variable {launch other : Launch}

theorem after_load? (env : Environment) (directory : Path) (machine : Machine) :
    ((env.load? directory).run quiet machine).2 =
      ((Environment.find directory.ancestors).run quiet machine).2 := by
  unfold Environment.load?
  rw [Program.bind_eq, Program.run_bind]
  cases ((Environment.find directory.ancestors).run quiet machine).1 <;> rfl

theorem begin_of_same (same : launch.SameButAddress other) :
    Option.Rel SameOff ((begin launch.invocation).run quiet launch.host.machine).1
        ((begin other.invocation).run quiet other.host.machine).1 ∧
      Resembles addressFiles ((begin launch.invocation).run quiet launch.host.machine).2
        ((begin other.invocation).run quiet other.host.machine).2 := by
  have loaded : Resembles addressFiles
      ((launch.invocation.environment.load? launch.invocation.directory).run quiet
        launch.host.machine).2
      ((other.invocation.environment.load? other.invocation.directory).run quiet
        other.host.machine).2 := by
    rw [after_load?, after_load?, same.directory]
    exact (find_of_resembles same.machine _).2
  have environments := same.environment
  unfold environment? at environments
  unfold begin
  simp only [Program.bind_eq, Program.run_bind]
  generalize (launch.invocation.environment.load? launch.invocation.directory).run quiet
    launch.host.machine = one at loaded environments ⊢
  generalize (other.invocation.environment.load? other.invocation.directory).run quiet
    other.host.machine = two at loaded environments ⊢
  obtain ⟨found, machine⟩ := one
  obtain ⟨found', machine'⟩ := two
  dsimp only at loaded environments ⊢
  cases environments with
  | none => exact ⟨.none, loaded⟩
  | @some env env' agree => exact logged_of_resembles loaded agree

def Alternatives (setup setup' : Environment × Config) : Prop :=
  SameOff setup.1 setup'.1 ∧ { setup'.2 with baseUrl := setup.2.baseUrl } = setup.2

theorem resembles_prepared (same : launch.SameButAddress other) :
    Option.Rel Alternatives launch.setup? other.setup? ∧
      Resembles addressFiles launch.prepared other.prepared := by
  obtain ⟨begun, resembles⟩ := begin_of_same same
  have configs := same.config
  unfold prepared setup? at *
  unfold prepare at configs ⊢
  simp only [Program.bind_eq, Program.run_bind] at configs ⊢
  generalize (begin launch.invocation).run quiet launch.host.machine = one
    at begun resembles configs ⊢
  generalize (begin other.invocation).run quiet other.host.machine = two
    at begun resembles configs ⊢
  obtain ⟨found, machine⟩ := one
  obtain ⟨found', machine'⟩ := two
  dsimp only at begun resembles configs ⊢
  cases begun with
  | none => exact ⟨.none, resembles⟩
  | @some env env' agree =>
    simp only [Program.run_bind, Program.pure_eq_done, Program.run_done] at configs ⊢
    constructor
    · apply Option.Rel.some
      exact ⟨agree, configs _ _ _ _ rfl rfl⟩
    · exact settle_of_resembles resembles agree

/-! ## Four ways for a local command to go -/

section

variable {command : Command} {env : Environment} {config : Config} {store : Store}

theorem ne_help (near : command = .logout ∨ command = .status) : command ≠ .help := by
  rcases near with rfl | rfl <;> nofun

theorem ending_of_unset [Idna] (asked : launch.command? = some command)
    (near : command = .logout ∨ command = .status) (unset : launch.setup? = none) :
    launch.ending = (none, { launch.host.view with machine := launch.prepared }) := by
  rw [ending_of_command asked (ne_help near), unset]
  rfl

theorem ending_of_homeless [Idna] {error : ConfigError} (asked : launch.command? = some command)
    (near : command = .logout ∨ command = .status) (set : launch.setup? = some (env, config))
    (closed : config.openStore env = .error error) :
    launch.ending = (some .failure, { launch.host.view with
      machine := launch.prepared
      errors := launch.host.errors ++ (RunError.noStore error).text }) := by
  rw [ending_of_command asked (ne_help near), set, orCrash, finish, serve, Setting.find, closed]
  rfl

theorem ending_of_astray [Idna] {error : Http.AddressError}
    (asked : launch.command? = some command) (near : command = .logout ∨ command = .status)
    (set : launch.setup? = some (env, config)) (opened : config.openStore env = .ok store)
    (address : Http.Transport.ofAddress config.baseUrl = .error error) :
    launch.ending = (some .failure, { launch.host.view with
      machine := launch.prepared
      errors := launch.host.errors ++ (RunError.address error).text }) := by
  rw [ending_of_command asked (ne_help near), set, orCrash, finish, serve, Setting.find, opened,
    address]
  rfl

theorem ending_of_ahead [Idna] {transport : Http.Transport}
    (asked : launch.command? = some command) (near : command = .logout ∨ command = .status)
    (set : launch.setup? = some (env, config)) (opened : config.openStore env = .ok store)
    (address : Http.Transport.ofAddress config.baseUrl = .ok transport) :
    launch.ending =
      (some (tell store launch.prepared command).1.1, { launch.host.view with
        machine := (tell store launch.prepared command).2
        output := launch.host.output ++ (tell store launch.prepared command).1.2 }) := by
  have found : Setting.find env config = .ok ⟨env, config, transport, store⟩ :=
    Setting.find_eq_ok.2 ⟨opened, address, rfl, rfl⟩
  have stage : launch.stage? = some (⟨env, config, transport, store⟩,
      { launch.host.view with machine := launch.prepared }) := by
    rw [stage?, set, Option.bind_some, found]
    rfl
  rw [ending_of_stage asked (ne_help near) stage, execute_local near]
  rfl

theorem addressed_iff [Idna] (set : launch.setup? = some (env, config))
    (opened : config.openStore env = .ok store) :
    launch.Addressed ↔ (Http.Transport.ofAddress config.baseUrl).isOk = true := by
  unfold Addressed
  simp only [set, Option.some.injEq, Prod.mk.injEq]
  constructor
  · intro addressed
    exact addressed env config ⟨rfl, rfl⟩ (by rw [opened]; rfl)
  · rintro valid _ _ ⟨rfl, rfl⟩ -
    exact valid

theorem addressed_of_homeless [Idna] {error : ConfigError}
    (set : launch.setup? = some (env, config)) (closed : config.openStore env = .error error) :
    launch.Addressed := by
  intro env' config' set' opened
  cases set.symm.trans set'
  rw [closed] at opened
  cases opened

theorem addressed_of_unset [Idna] (unset : launch.setup? = none) : launch.Addressed := by
  intro env config set
  rw [unset] at set
  cases set

theorem exists_of_not_addressed [Idna] (lost : ¬launch.Addressed) :
    ∃ env config store error, launch.setup? = some (env, config) ∧
      config.openStore env = .ok store ∧
        Http.Transport.ofAddress config.baseUrl = .error error := by
  unfold Addressed at lost
  simp only [not_forall] at lost
  obtain ⟨env, config, set, opens, unfit⟩ := lost
  obtain ⟨store, opened⟩ := exists_of_isOk opens
  cases address : Http.Transport.ofAddress config.baseUrl with
  | error error => exact ⟨env, config, store, error, set, opened, address⟩
  | ok transport => exact absurd (by rw [address]; rfl) unfit

end

theorem append_ne_self {text more : String} (filled : more ≠ "") : text ++ more ≠ text := by
  intro same
  have lists := congrArg String.toList same
  rw [String.toList_append, List.append_right_eq_self] at lists
  exact filled (String.toList_eq_nil_iff.1 lists)

theorem endsLike_of_ending [Idna] {status : Option ExitStatus} {view view' : View}
    (ended : launch.ending = (status, view)) (ended' : other.ending = (status, view'))
    (output : view'.output = view.output)
    (left : Resembles addressFiles view.machine view'.machine) : launch.EndsLike other := by
  refine ⟨?_, ?_, ?_⟩
  · rw [exit_eq, exit_eq, ended, ended']
  · rw [output_after, output_after, ended, ended', output]
  · have one := launch.resembles_after
    have two := other.resembles_after
    rw [ended] at one
    rw [ended'] at two
    have logs : [logName] ⊆ logName :: addressFiles := by simp
    exact ((one.symm.mono logs).trans (left.mono (List.subset_cons_self _ _))).trans
      (two.mono logs)

theorem output_ne_of_addressed [Idna] {command : Command} {env env' : Environment}
    {config config' : Config} {store store' : Store} {error : Http.AddressError}
    {transport : Http.Transport} (asked : launch.command? = some command)
    (asked' : other.command? = some command) (near : command = .logout ∨ command = .status)
    (same : other.host.output = launch.host.output) (set : launch.setup? = some (env, config))
    (opened : config.openStore env = .ok store)
    (address : Http.Transport.ofAddress config.baseUrl = .error error)
    (set' : other.setup? = some (env', config')) (opened' : config'.openStore env' = .ok store')
    (address' : Http.Transport.ofAddress config'.baseUrl = .ok transport) :
    other.after.output ≠ launch.after.output := by
  rw [output_after, output_after, ending_of_astray asked near set opened address,
    ending_of_ahead asked' near set' opened' address']
  change other.host.output ++ _ ≠ launch.host.output
  rw [same]
  exact append_ne_self (tell_ne_empty near _ _)

theorem endsLike_iff_of_opened [Idna] {command : Command} {env env' : Environment}
    {config config' : Config} {store : Store} (asked : launch.command? = some command)
    (asked' : other.command? = some command) (near : command = .logout ∨ command = .status)
    (same : other.host.output = launch.host.output)
    (resembles : Resembles addressFiles launch.prepared other.prepared)
    (set : launch.setup? = some (env, config)) (opened : config.openStore env = .ok store)
    (set' : other.setup? = some (env', config')) (opened' : config'.openStore env' = .ok store) :
    launch.EndsLike other ↔ (launch.Addressed ↔ other.Addressed) := by
  rw [addressed_iff set opened, addressed_iff set' opened']
  cases address : Http.Transport.ofAddress config.baseUrl with
  | error error =>
    have astray := ending_of_astray asked near set opened address
    cases address' : Http.Transport.ofAddress config'.baseUrl with
    | error error' =>
      have astray' := ending_of_astray asked' near set' opened' address'
      exact iff_of_true (endsLike_of_ending astray astray' same resembles) Iff.rfl
    | ok transport' =>
      refine iff_of_false (fun ends => ?_) (by simp [Except.isOk, Except.toBool])
      exact output_ne_of_addressed asked asked' near same set opened address set' opened' address'
        ends.output
  | ok transport =>
    cases address' : Http.Transport.ofAddress config'.baseUrl with
    | error error' =>
      refine iff_of_false (fun ends => ?_) (by simp [Except.isOk, Except.toBool])
      exact output_ne_of_addressed asked' asked near same.symm set' opened' address' set opened
        address ends.output.symm
    | ok transport' =>
      have ahead := ending_of_ahead asked near set opened address
      have ahead' := ending_of_ahead asked' near set' opened' address'
      obtain ⟨answer, left⟩ := tell_of_resembles resembles (isOpened_openStore opened) command
      rw [answer, same] at ahead'
      exact iff_of_true (endsLike_of_ending ahead ahead' rfl left) Iff.rfl

theorem endsLike_iff [Idna] {command : Command} (asked : launch.command? = some command)
    (near : command = .logout ∨ command = .status) (same : launch.SameButAddress other) :
    launch.EndsLike other ↔ (launch.Addressed ↔ other.Addressed) := by
  have asked' : other.command? = some command := by
    rw [command?, same.arguments]
    exact asked
  obtain ⟨setups, resembles⟩ := resembles_prepared same
  generalize set : launch.setup? = setup at setups
  generalize set' : other.setup? = setup' at setups
  cases setups with
  | none =>
    have unset := ending_of_unset asked near set
    have unset' := ending_of_unset asked' near set'
    exact iff_of_true (endsLike_of_ending unset unset' same.output resembles)
      (iff_of_true (addressed_of_unset set) (addressed_of_unset set'))
  | @some setup setup' alternatives =>
    obtain ⟨env, config⟩ := setup
    obtain ⟨env', config'⟩ := setup'
    obtain ⟨others, settings⟩ := alternatives
    dsimp only at settings
    have kind : config'.storage = config.storage := by rw [← settings]
    have stores := openStore_of_sameOff others kind
    cases opened : config.openStore env with
    | error error =>
      rw [opened] at stores
      have homeless := ending_of_homeless asked near set opened
      have homeless' := ending_of_homeless asked' near set' stores
      exact iff_of_true (endsLike_of_ending homeless homeless' same.output resembles)
        (iff_of_true (addressed_of_homeless set opened) (addressed_of_homeless set' stores))
    | ok store =>
      rw [opened] at stores
      exact endsLike_iff_of_opened asked asked' near same.output resembles set opened set' stores

/-! ## What a logout leaves -/

theorem holdsSession_of_resembles {machine other : Machine} {store : Store}
    (alike : Resembles [logName] machine other) (opened : IsOpened store) :
    store.HoldsSession other ↔ store.HoldsSession machine := by
  have same (key : String) : store.held other key = store.held machine key := by
    cases opened with
    | file directory =>
      have named : (directory.child "session.json").fileName? = some "session.json" :=
        fileName_child (by decide) (by decide) directory
      have content := alike.files.content?_eq named (by decide)
      simp only [Store.held, contents_congr content]
    | keychain store => simp only [Store.held, alike.keychain]
    | memory values => rfl
  unfold Store.HoldsSession
  rw [same, same]

theorem holds_reopened {config : Config} {env : Environment} {store : Store}
    (opened : config.openStore env = .ok store) (machine : Machine) :
    store.HoldsSession (Store.call Session.clearing store machine).2 ↔
      store.HoldsSession machine ∧ store.Resists machine := by
  rw [← Store.holds_after_clearing]
  obtain ⟨directory, rfl⟩ | rfl | rfl := openStore_cases opened
  · rw [Store.call_file]
  · -- Handles are no part of what the keychain has, and the name of the service stays.
    obtain ⟨after, keychain, ran, -, others⟩ := KeychainStore.run_removeMany
      (by decide : [Session.tokenKey, Session.usernameKey].Nodup) ⟨Config.applicationName, []⟩
      machine
    have ran : (KeychainStore.perform Session.clearing ⟨Config.applicationName, []⟩).run quiet
        machine = (((), after), KeychainStore.onKeychain machine keychain) := by
      simp only [Session.clearing, KeychainStore.perform, Program.bind_eq, Program.run_bind, ran]
      rfl
    have service : after.service = Config.applicationName := (others "" (by decide)).service
    rw [Store.call_keychain, ran]
    simp only [Store.HoldsSession, Store.held, KeychainStore.held, service]
  · refine iff_of_false ?_ ?_
    · rintro ⟨held, -⟩
      cases held
    · rintro ⟨held, -⟩
      cases held

structure HangsOnAddress [Idna] (launch : Launch) : Prop where
  alike : ∀ other, launch.SameButAddress other →
    (launch.EndsLike other ↔ (launch.Addressed ↔ other.Addressed))
  unaddressed : ¬launch.Addressed → launch.exit = 1 ∧ launch.after.output = launch.host.output ∧
    (∃ error, launch.after.errors = launch.host.errors ++ (RunError.address error).text) ∧
      Resembles [logName] launch.prepared launch.after.machine
  addressed : launch.Addressed → (∀ env config, launch.setup? = some (env, config) →
    (config.openStore env).isOk = true) → launch.after.errors = launch.host.errors
  homeless : ∀ env config error, launch.setup? = some (env, config) →
    config.openStore env = .error error → launch.exit = 1 ∧
      launch.after.output = launch.host.output ∧
      launch.after.errors = launch.host.errors ++ (RunError.noStore error).text ∧
      Resembles [logName] launch.prepared launch.after.machine
  session : launch.command? = some .logout → ∀ env config store,
    launch.setup? = some (env, config) → config.openStore env = .ok store →
    (store.HoldsSession launch.after.machine ↔ store.HoldsSession launch.prepared ∧
      (launch.Addressed → store.Resists launch.prepared))

/-- A logout and a status go the same way with any address that makes sense, and do nothing at all
with any other. So a logout leaves the session where the address makes no sense. -/
theorem hangs_on_address [Idna] {command : Command} (asked : launch.command? = some command)
    (near : command = .logout ∨ command = .status) : launch.HangsOnAddress where
  alike other same := endsLike_iff asked near same
  unaddressed lost := by
    obtain ⟨env, config, store, error, set, opened, address⟩ := exists_of_not_addressed lost
    have ended := ending_of_astray asked near set opened address
    have left := launch.resembles_after
    rw [ended] at left
    refine ⟨?_, ?_, ⟨error, ?_⟩, left⟩
    · rw [exit_eq, ended]
      rfl
    · rw [output_after, ended]
      rfl
    · rw [errors_after, ended]
  addressed valid opens := by
    rw [errors_after]
    cases set : launch.setup? with
    | none =>
      rw [ending_of_unset asked near set]
      rfl
    | some setup =>
      obtain ⟨env, config⟩ := setup
      obtain ⟨store, opened⟩ := exists_of_isOk (opens env config set)
      obtain ⟨transport, address⟩ := exists_of_isOk ((addressed_iff set opened).1 valid)
      rw [ending_of_ahead asked near set opened address]
      rfl
  homeless env config error set closed := by
    have ended := ending_of_homeless asked near set closed
    have left := launch.resembles_after
    rw [ended] at left
    refine ⟨?_, ?_, ?_, left⟩
    · rw [exit_eq, ended]
      rfl
    · rw [output_after, ended]
      rfl
    · rw [errors_after, ended]
  session logout env config store set opened := by
    cases Option.some.inj (asked.symm.trans logout)
    rw [holdsSession_of_resembles launch.resembles_after (isOpened_openStore opened),
      addressed_iff set opened]
    cases address : Http.Transport.ofAddress config.baseUrl with
    | error error =>
      rw [ending_of_astray asked near set opened address]
      exact (and_iff_left nofun).symm
    | ok transport =>
      rw [ending_of_ahead asked near set opened address]
      refine (holds_reopened opened launch.prepared).trans (and_congr_right fun _ => ?_)
      exact ⟨fun resists _ => resists, fun resists => resists rfl⟩

end Launch

section

open scoped Idna

/-! ## An example -/

def logoutAt (address : String) : Launch :=
  launchOf ["logout"] [(addressVariable, address)] sessionOfAna (replies "")

theorem setup?_logoutAt (address : String) :
    (logoutAt address).setup? =
      some ((logoutAt address).invocation.environment,
        { Config.standard with baseUrl := address }) :=
  rfl

theorem same_logoutAt (address address' : String) :
    (logoutAt address).SameButAddress (logoutAt address') where
  arguments := rfl
  directory := rfl
  machine := ⟨⟨rfl, rfl, fun _ => rfl, fun _ _ => rfl⟩, rfl⟩
  output := rfl
  environment := by
    refine .some ⟨rfl, ?_⟩
    intro name other
    have unlike : (name == addressVariable) = false := beq_eq_false_iff_ne.2 other
    change [(addressVariable, address')].lookup name = [(addressVariable, address)].lookup name
    rw [List.lookup_cons, List.lookup_cons, unlike]
  config env config env' config' found found' := by
    cases (setup?_logoutAt address).symm.trans found
    cases (setup?_logoutAt address').symm.trans found'
    rfl

def storeAtHome : Store := .file (sessionIn home)

theorem openStore_logoutAt (address : String) :
    ({ Config.standard with baseUrl := address }).openStore
      (logoutAt address).invocation.environment = .ok storeAtHome :=
  rfl

/-- With an address that makes no sense the session outlives a logout, with another it does not. -/
theorem logout_without_address :
    (logoutAt "not a url").SameButAddress (logoutAt validAddress.2) ∧
      ¬(logoutAt "not a url").EndsLike (logoutAt validAddress.2) ∧
      (logoutAt "not a url").exit = 1 ∧ (logoutAt "not a url").after.output = "" ∧
      storeAtHome.HoldsSession (logoutAt "not a url").after.machine ∧
      ¬storeAtHome.HoldsSession (logoutAt validAddress.2).after.machine := by
  have lost : ¬(logoutAt "not a url").Addressed := by
    rw [Launch.addressed_iff (setup?_logoutAt _) (openStore_logoutAt _)]
    decide +kernel
  have valid : (logoutAt validAddress.2).Addressed := by
    rw [Launch.addressed_iff (setup?_logoutAt _) (openStore_logoutAt _)]
    decide +kernel
  have held : storeAtHome.HoldsSession (logoutAt "not a url").prepared := by
    unfold Store.HoldsSession
    decide +kernel
  have gives : ((FileStore.attempt (sessionIn home)
      (·.eraseMany [Session.tokenKey, Session.usernameKey])).run quiet
        (logoutAt validAddress.2).prepared).1 = .ok () := by decide +kernel
  have asked (address : String) : (logoutAt address).command? = some .logout := rfl
  have astray := Launch.hangs_on_address (asked "not a url") (.inl rfl)
  have straight := Launch.hangs_on_address (asked validAddress.2) (.inl rfl)
  have same := same_logoutAt "not a url" validAddress.2
  obtain ⟨exit, output, -⟩ := astray.unaddressed lost
  refine ⟨same, ?_, exit, output, ?_, ?_⟩
  · intro alike
    exact lost (((astray.alike _ same).1 alike).2 valid)
  · exact (astray.session rfl _ _ _ (setup?_logoutAt _) (openStore_logoutAt _)).2
      ⟨held, fun found => absurd found lost⟩
  · intro holds
    obtain ⟨error, fails⟩ :=
      ((straight.session rfl _ _ _ (setup?_logoutAt _) (openStore_logoutAt _)).1 holds).2 valid
    exact absurd (fails.symm.trans gives) nofun

end

end PracticeClient.Cli
