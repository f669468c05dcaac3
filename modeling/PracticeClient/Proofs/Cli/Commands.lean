import PracticeClient.Proofs.Cli.Launches

namespace PracticeClient

open Session

namespace Store

/-! ## Three look-ups -/

/-- Who is signed in as far as three look-ups tell, and what is left after them. -/
def user (store : Store) (machine : Machine) : (Option String × Store) × Machine :=
  let named := call (.get usernameKey) store machine
  match named.1.1 with
  | none => ((none, named.1.2), named.2)
  | some username =>
    let held := call (.get tokenKey) named.1.2 named.2
    match held.1.1 with
    | none => ((none, held.1.2), held.2)
    | some _ =>
      let again := call (.get usernameKey) held.1.2 held.2
      ((if again.1.1.isSome then some username else none, again.1.2), again.2)

def ThriceReadable (store : Store) (machine : Machine) (first second : String) : Prop :=
  match store with
  | .file _ => machine.files.due = none ∧ machine.files.past.due = none ∧
      machine.files.past.past.due = none
  | .keychain store =>
    store.Allows machine.keychain .get first ∧ store.Allows machine.keychain .get second
  | _ => True

theorem ThriceReadable.first {store : Store} {machine : Machine} {first second : String}
    (thrice : store.ThriceReadable machine first second) : store.Readable machine first := by
  cases store with
  | file path => exact thrice.1
  | keychain store => exact thrice.1
  | _ => trivial

theorem bothReadable_after_look_up {store : Store} {machine : Machine}
    {first second value : String} (differ : second ≠ first)
    (found : (call (.get first) store machine).1.1 = some value) :
    (call (.get first) store machine).1.2.BothReadable (call (.get first) store machine).2 second
        first ↔ store.ThriceReadable machine first second := by
  have second' := readable_after_look_up differ found
  cases store with
  | memory table => exact Iff.rfl
  | batching table => exact Iff.rfl
  | plain table =>
    rw [call_plain]
    exact Iff.rfl
  | file path =>
    rw [call_file_get] at found second' ⊢
    have present := FileStore.exists?_of_found found
    have fine := FileStore.due_of_found found
    simp only [BothReadable, ThriceReadable, FileStore.reading_eq, present, fine, if_true,
      true_and]
  | keychain store =>
    have allowed : store.Allows machine.keychain .get first := (look_up_eq_some.1 found).2
    have ran : (KeychainStore.perform (.get first) store).run Machine.quiet machine = _ :=
      KeychainStore.run_get_of_allows store first machine allowed
    rw [call_keychain, ran] at second' ⊢
    have again : (store.opened first).Allows machine.keychain .get first :=
      ⟨.inl ((store.mem_opened first first).2 (.inl rfl)), allowed.2⟩
    constructor
    · intro both
      exact second'.1 both.first
    · intro both
      exact ⟨second'.2 both, again⟩

theorem user_isSome (store : Store) (machine : Machine) :
    (store.user machine).1.1.isSome = true ↔
      store.HoldsSession machine ∧ store.ThriceReadable machine usernameKey tokenKey := by
  obtain ⟨answers, -, keeps⟩ := look_up store machine usernameKey
  unfold user
  dsimp only
  cases found : (call (.get usernameKey) store machine).1.1 with
  | none =>
    -- A look-up finds nothing if nothing is held or if it does not go through.
    refine iff_of_false (by simp) ?_
    rintro ⟨⟨-, held⟩, thrice⟩
    rw [← answers thrice.first, found] at held
    cases held
  | some username =>
    obtain ⟨held, -⟩ := look_up_eq_some.1 found
    rw [← bothReadable_after_look_up keys_differ found, HoldsSession, held,
      ← keeps tokenKey]
    generalize call (.get usernameKey) store machine = named at found keeps ⊢
    obtain ⟨⟨answer, store'⟩, machine'⟩ := named
    dsimp only at found keeps ⊢
    obtain ⟨answers', -, keeps'⟩ := look_up store' machine' tokenKey
    cases found' : (call (.get tokenKey) store' machine').1.1 with
    | none =>
      refine iff_of_false (by simp) ?_
      rintro ⟨⟨held', -⟩, both⟩
      rw [← answers' both.first, found'] at held'
      cases held'
    | some token =>
      obtain ⟨held', -⟩ := look_up_eq_some.1 found'
      rw [← readable_after_look_up keys_differ.symm found', held']
      have there : (call (.get tokenKey) store' machine').1.2.held
          (call (.get tokenKey) store' machine').2 usernameKey = some username := by
        rw [keeps', keeps, held]
      generalize call (.get tokenKey) store' machine' = asked at there ⊢
      obtain ⟨⟨answer', store''⟩, machine''⟩ := asked
      dsimp only at there ⊢
      -- Both values are held, so it is up to the third look-up whether it finds the username again.
      obtain ⟨answers'', fails'', -⟩ := look_up store'' machine'' usernameKey
      by_cases readable'' : store''.Readable machine'' usernameKey
      · rw [answers'' readable'', there]
        simp [readable'']
      · rw [fails'' readable'']
        simp [readable'']

end Store

namespace Cli

open View

/-! ## Commands -/

section

variable (transport : Http.Transport) (progress : Console.Progress) (view : View)

theorem execute_signedIn [Idna] :
    execute (carry transport progress signedIn) view =
      (some ((progress.store.user view.machine).1.1,
          { progress with store := (progress.store.user view.machine).1.2 }),
        { view with machine := (progress.store.user view.machine).2 }) := by
  unfold Store.user
  dsimp only
  refine (execute_store transport progress view (.get usernameKey) _).trans ?_
  generalize Store.call (.get usernameKey) progress.store view.machine = named
  obtain ⟨⟨username, store⟩, machine⟩ := named
  cases username with
  | none => rfl
  | some username =>
    dsimp only
    refine (execute_store transport _ _ (.get tokenKey) _).trans ?_
    dsimp only
    generalize Store.call (.get tokenKey) store machine = held
    obtain ⟨⟨token, store⟩, machine⟩ := held
    cases token with
    | none => rfl
    | some token => exact execute_store transport _ _ (.get usernameKey) _

theorem execute_load [Idna] (fresh : progress.arrived = false) :
    ∃ later after, execute (carry transport progress (Submissions.load (pure ()))) view =
        (some ((), later), after) ∧ after.machine = view.machine ∧
      later.arrived = ((transport.post Submissions.endpoint Json.Value.empty).run
        Http.Server.quiet view.server).1.isOk := by
  have posted : execute (carry transport progress (Submissions.load (pure ()))) view =
      execute (carry transport progress (Submissions.conclude (pure ())
          ((transport.post Submissions.endpoint Json.Value.empty).run
            Http.Server.quiet view.server).1))
        { view with server := ((transport.post Submissions.endpoint Json.Value.empty).run
          Http.Server.quiet view.server).2 } := execute_post ..
  rw [posted]
  cases ((transport.post Submissions.endpoint Json.Value.empty).run
    Http.Server.quiet view.server).1 with
  | ok value => exact ⟨_, _, (execute_log ..).trans (execute_complete ..), rfl, rfl⟩
  | error error =>
    exact ⟨_, _, (execute_log ..).trans (execute_notify ..), said_machine _ _, fresh⟩

end

section

variable (setting : Setting) (view : View) (typed : Except TerminalError String)

theorem execute_at_terminal [Idna] {command : Command} {status : ExitStatus} {after : View}
    (other : ∀ argument, command ≠ .login argument) {program : Console ExitStatus}
    (same : carryOut setting command = program.bind fun status => .done (.ok status))
    (executed : execute program view = (some status, after)) :
    execute (typing typed (carryOut setting command)) view = (some (.ok status), after) := by
  rw [typing_of_silent (silent_carryOut setting command other), same, execute_bind, executed]
  rfl

theorem execute_logout [Idna] :
    execute (typing typed (carryOut setting .logout)) view =
      (some (.ok .success), said ⟨.success, Account.farewell⟩
        { view with machine := (Store.call clearing setting.store view.machine).2 }) := by
  have cleared : execute (carry setting.transport ⟨setting.store, false⟩ Account.logout) view =
      (some ((), ⟨(Store.call clearing setting.store view.machine).1.2, false⟩),
        said ⟨.success, Account.farewell⟩
          { view with machine := (Store.call clearing setting.store view.machine).2 }) := by
    refine (execute_store setting.transport _ view clearing _).trans ?_
    refine (execute_log ..).trans ((execute_log ..).trans ?_)
    exact execute_notify ..
  have same : execute (setting.perform Account.logout) view = _ := cleared
  refine execute_at_terminal setting view typed nofun rfl ?_
  rw [logout, Program.bind_eq, execute_bind, same]
  rfl

def statusLine : Option String → String
  | some username => s!"Signed in as {username}\n"
  | none => "Not signed in\n"

theorem execute_status [Idna] :
    execute (typing typed (carryOut setting .status)) view =
      (some (.ok (.ofBool (setting.store.user view.machine).1.1.isSome)),
        { view with
          machine := (setting.store.user view.machine).2
          output := view.output ++ statusLine (setting.store.user view.machine).1.1 }) := by
  have asked := execute_signedIn setting.transport ⟨setting.store, false⟩ view
  have same : execute (setting.perform signedIn) view = _ := asked
  refine execute_at_terminal setting view typed nofun rfl ?_
  rw [status, Program.bind_eq, execute_bind, same]
  generalize setting.store.user view.machine = user
  obtain ⟨⟨username, store⟩, machine⟩ := user
  cases username <;> rfl

theorem execute_submissions [Idna] :
    ∃ after, execute (typing typed (carryOut setting .submissions)) view =
        (some (.ok (.ofBool ((setting.transport.post Submissions.endpoint Json.Value.empty).run
          Http.Server.quiet view.server).1.isOk)), after) ∧ after.machine = view.machine := by
  obtain ⟨later, after, loaded, machine, arrived⟩ :=
    execute_load setting.transport ⟨setting.store, false⟩ view rfl
  have same : execute (setting.perform (Submissions.load (pure ()))) view = _ := loaded
  refine ⟨after, ?_, machine⟩
  refine execute_at_terminal setting view typed nofun rfl ?_
  rw [submissions, Program.bind_eq, execute_bind, same, ← arrived]
  rfl

end

/-! ## Logins -/

/-- A login that has come to an end: how it was carried out, with which credentials, how it ended
and what it left, before anything is remembered. -/
structure Login where
  setting : Setting
  form : LoginForm
  outcome : LoginOutcome
  view : View

section

variable (typed : Except TerminalError String) (setting : Setting) (argument : Option String)
  (view : View)

def login? [Idna] : Option Login :=
  match execute (typing typed (findCredentials setting argument)) view with
  | (some (.ok form), asked) =>
    match execute (setting.perform (Account.login form.take.1)) asked with
    | (some (outcome, _), after) => some ⟨setting, form, outcome, after⟩
    | (none, _) => none
  | _ => none

variable {typed setting argument view}

theorem execute_established [Idna] {login : Login}
    (came : login? typed setting argument view = some login)
    (established : login.outcome = .established) :
    execute (typing typed (Cli.login setting argument)) view =
      (some (.ok .success), (execute (remember setting login.form.username) login.view).2) := by
  unfold Cli.login
  unfold login? at came
  rw [Program.bind_eq, typing_bind, execute_bind]
  split at came
  · next form asked found =>
    rw [found, andThen]
    dsimp only
    rw [Program.bind_eq, typing_bind, typing_of_silent (silent_client setting _), execute_bind]
    split at came
    · next outcome progress after ended =>
      cases came
      obtain rfl : outcome = .established := established
      rw [ended, andThen]
      dsimp only
      change execute (typing typed ((remember setting form.username).bind _)) after = _
      rw [typing_bind, typing_of_silent (silent_remember ..), execute_bind, execute_remember_eq]
      rfl
    · cases came
  · cases came

theorem execute_not_established [Idna]
    (failed : ∀ login, login? typed setting argument view = some login →
      login.outcome ≠ .established) :
    ∃ result after, execute (typing typed (Cli.login setting argument)) view =
        (some result, after) ∧ statusOf result = .failure ∧ after.machine = view.machine := by
  obtain ⟨found, asked, executed, same, -⟩ :=
    execute_findCredentials setting view typed argument
  unfold Cli.login
  unfold login? at failed
  rw [executed] at failed
  rw [Program.bind_eq, typing_bind, execute_bind, executed, andThen]
  cases found with
  | error error => exact ⟨_, _, rfl, rfl, same⟩
  | ok form =>
    obtain ⟨progress, after, ended, spared⟩ := execute_conclude setting.transport
      ⟨setting.store, false⟩
      { asked with server := ((setting.transport.post Account.loginEndpoint
          form.take.1.body).run Http.Server.quiet asked.server).2 } form.take.1.username
      ((setting.transport.post Account.loginEndpoint form.take.1.body).run
        Http.Server.quiet asked.server).1
    have whole : execute (setting.perform (Account.login form.take.1)) asked = _ :=
      (execute_login setting.transport ⟨setting.store, false⟩ asked form.take.1).trans ended
    dsimp only at failed ⊢
    -- Without an acceptance nothing is stored, and there is nothing to remember.
    rw [whole] at failed
    have refused := failed _ rfl
    dsimp only at refused
    rw [Program.bind_eq, typing_bind, typing_of_silent (silent_client setting _), execute_bind,
      whole, andThen]
    dsimp only
    rw [if_neg refused]
    refine ⟨_, _, rfl, ?_, ?_⟩
    · simp [statusOf, ExitStatus.ofBool, refused]
    · rw [← same]
      refine (spared ?_).2
      intro token accepted
      rw [accepted] at refused
      exact refused rfl

end

/-! ## Launches -/

namespace Launch

variable (launch : Launch)

/-- The machine once a launch is set up or has come to grief before. -/
def prepared : Machine :=
  ((prepare launch.invocation).run Machine.quiet launch.host.machine).2

def stage? [Idna] : Option (Setting × View) :=
  launch.setup?.bind fun setup =>
    (Setting.find setup.1 setup.2).toOption.map fun setting =>
      (setting, { launch.host.view with machine := launch.prepared })

def login? [Idna] : Option Login :=
  match launch.command? with
  | some (.login argument) =>
    launch.stage?.bind fun stage => Cli.login? launch.typed stage.1 argument stage.2
  | _ => none

variable {launch} {command : Command}

theorem of_stage [Idna] {setting : Setting} {view : View}
    (stage : launch.stage? = some (setting, view)) :
    launch.setup? = some (setting.environment, setting.config) ∧
      view = { launch.host.view with machine := launch.prepared } := by
  unfold stage? at stage
  obtain ⟨⟨env, config⟩, set, stage⟩ := Option.bind_eq_some_iff.1 stage
  obtain ⟨found, there, same⟩ := Option.map_eq_some_iff.1 stage
  cases same
  cases sought : Setting.find env config with
  | error error => simp [sought, Except.toOption] at there
  | ok setting' =>
    simp only [sought, Except.toOption, Option.some.injEq] at there
    subst there
    obtain ⟨-, -, rfl, rfl⟩ := Setting.find_eq_ok.1 sought
    exact ⟨set, rfl⟩

theorem ending_of_command [Idna] (asked : launch.command? = some command)
    (real : command ≠ .help) :
    launch.ending = execute (typing launch.typed (orCrash (finish command) launch.setup?))
      { launch.host.view with machine := launch.prepared } :=
  execute_run_of_command (launch.parsed_of_command? asked) real launch.typed launch.host.view

theorem ending_of_stage [Idna] {setting : Setting} {view : View}
    (asked : launch.command? = some command) (real : command ≠ .help)
    (stage : launch.stage? = some (setting, view)) :
    launch.ending =
      andThen conclude (execute (typing launch.typed (carryOut setting command)) view) := by
  rw [ending_of_command asked real]
  unfold stage? at stage
  cases set : launch.setup? with
  | none =>
    rw [set] at stage
    cases stage
  | some found =>
    obtain ⟨env, config⟩ := found
    rw [set, Option.bind_some] at stage
    rw [orCrash, finish, serve]
    cases sought : Setting.find env config with
    | error error => simp [sought, Except.toOption] at stage
    | ok setting' =>
      simp only [sought, Except.toOption, Option.map_some, Option.some.injEq,
        Prod.mk.injEq] at stage
      obtain ⟨rfl, rfl⟩ := stage
      dsimp only
      rw [Program.bind_eq, typing_bind, execute_bind]
      congr 1
      funext result
      cases result <;> rfl

theorem ending_of_no_stage [Idna] (asked : launch.command? = some command)
    (real : command ≠ .help) (nowhere : launch.stage? = none) :
    (launch.setup? = none ∧
        launch.ending = (none, { launch.host.view with machine := launch.prepared })) ∨
      ∃ env config error, launch.setup? = some (env, config) ∧
        Setting.find env config = .error error ∧
        launch.ending = (some .failure, { launch.host.view with
          machine := launch.prepared
          errors := launch.host.errors ++ error.text }) := by
  rw [ending_of_command asked real]
  unfold stage? at nowhere
  cases set : launch.setup? with
  | none => exact .inl ⟨rfl, rfl⟩
  | some found =>
    obtain ⟨env, config⟩ := found
    rw [set, Option.bind_some] at nowhere
    rw [orCrash, finish, serve]
    cases sought : Setting.find env config with
    | ok setting => simp [sought, Except.toOption] at nowhere
    | error error => exact .inr ⟨env, config, error, rfl, sought, rfl⟩

end Launch

end Cli

end PracticeClient
