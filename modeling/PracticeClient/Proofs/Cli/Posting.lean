import PracticeClient.Proofs.Cli.Executing
import PracticeClient.Proofs.Http.Dialogues

namespace PracticeClient.Cli

open Http Clients

namespace View

section

variable (transport : Transport) (progress : Console.Progress) (view : View)

theorem execute_accept [Idna] (token username : String) :
    let stored := Store.call (Session.establishing token username) progress.store view.machine
    let asked := Store.call (.get Session.usernameKey) stored.1.2 stored.2
    execute (carry transport progress (Account.accept token username)) view =
      (some (.established, { progress with store := asked.1.2 }),
        said ⟨.success, Account.welcome (asked.1.1.getD username)⟩
          { view with machine := asked.2 }) := by
  intro stored asked
  refine (execute_store transport progress view (Session.establishing token username) _).trans ?_
  refine (execute_log ..).trans ?_
  refine (execute_store transport _ _ (.get Session.usernameKey) _).trans ?_
  refine (execute_log ..).trans ?_
  exact execute_notify ..

theorem execute_refusal [Idna] (entry : LogEntry) (notification : Notification)
    (outcome : LoginOutcome) :
    execute (carry transport progress (.step (.log entry) fun _ =>
        .step (.notify notification) fun _ => .done outcome)) view =
      (some (outcome, progress), said notification view) := by
  rw [execute_log, execute_notify, execute_done]

theorem execute_conclude [Idna] (username : String) (answer : Except TransportError Json.Value) :
    ∃ later after, execute (carry transport progress (Account.conclude username answer)) view =
        (some ((Verdict.ofAnswer answer).outcome, later), after) ∧
      ((∀ token, Verdict.ofAnswer answer ≠ .accepted token) →
        later = progress ∧ after.machine = view.machine) := by
  cases answer with
  | error error =>
    exact ⟨progress, _, execute_refusal transport progress view _ _ _,
      fun _ => ⟨rfl, said_machine _ view⟩⟩
  | ok body =>
    rw [Account.conclude, Verdict.ofAnswer]
    cases LoginReply.interpret body with
    | rejected =>
      exact ⟨progress, _, execute_refusal transport progress view _ _ _,
        fun _ => ⟨rfl, said_machine _ view⟩⟩
    | malformed reason =>
      exact ⟨progress, _, execute_refusal transport progress view _ _ _,
        fun _ => ⟨rfl, said_machine _ view⟩⟩
    | accepted token =>
      exact ⟨_, _, execute_accept transport progress view token username,
        fun refused => (refused token rfl).elim⟩

theorem execute_login [Idna] (request : LoginRequest) :
    execute (carry transport progress (Account.login request)) view =
      execute (carry transport progress (Account.conclude request.username
          ((transport.post Account.loginEndpoint request.body).run Server.quiet view.server).1))
        { view with server :=
          ((transport.post Account.loginEndpoint request.body).run Server.quiet view.server).2 } :=
  (execute_log ..).trans (execute_post ..)

theorem execute_login_recorded [Idna] (request : LoginRequest) :
    let (result, server, dialogue) := (transport.post Account.loginEndpoint request.body).run
      (recording Server.quiet) (view.server, [])
    Posted transport Account.loginEndpoint request.body dialogue result ∧
      execute (carry transport progress (Account.login request)) view =
        execute (carry transport progress (Account.conclude request.username result))
          { view with server } := by
  obtain ⟨answer, server⟩ := run_recording Server.quiet
    (transport.post Account.loginEndpoint request.body) view.server []
  refine ⟨posted_post Server.quiet transport Account.loginEndpoint request.body view.server, ?_⟩
  rw [execute_login, answer, server]

end

end View

namespace Host

/-! ## Posts and logins -/

theorem ofAnswer_eq_accepted {answer : ServerAnswer} {token : String} :
    Verdict.ofAnswer answer = .accepted token ↔
      ∃ value, answer = .ok value ∧ LoginReply.interpret value = .accepted token := by
  cases answer with
  | error error => simp [Verdict.ofAnswer]
  | ok value =>
    rw [Verdict.ofAnswer]
    cases interprets : LoginReply.interpret value <;> simp [interprets]

def Accepts [Idna] (dialogue : Dialogue) : Prop :=
  ∃ value token, Brings dialogue value ∧ LoginReply.interpret value = .accepted token

structure Decides [Idna] (transport : Transport) : Prop where
  posted : ∀ {σ : Type} (server : Program.Handler Op Op.Answer σ) (endpoint : String)
    (body : Json.Value) (state : σ),
    let (result, _, dialogue) := (transport.post endpoint body).run (recording server) (state, [])
    Posted transport endpoint body dialogue result
  /-- A login ends as the result of its post has it. If that is not an acceptance, the files, the
  keychain and the store are as they were. -/
  login : ∀ (store : Store) (request : LoginRequest) (host : Host),
    let (result, _, dialogue) := (transport.post Account.loginEndpoint request.body).run
      (recording Server.quiet) (host.server, [])
    ∃ progress after, execute (Console.ofClient transport store (Account.login request)) host =
        (some ((Verdict.ofAnswer result).outcome, progress), after) ∧
      (¬Accepts dialogue → after.machine = host.machine ∧ progress.store = store ∧
        (Verdict.ofAnswer result).outcome ≠ .established)

/-- Whatever the server does, a post ends after at most eleven requests with the result that its
last response has, and a login changes nothing unless that accepts it. -/
theorem post_decides [Idna] (transport : Transport) : Decides transport where
  posted server endpoint body state := posted_post server transport endpoint body state
  login store request host := by
    have recorded := View.execute_login_recorded transport ⟨store, false⟩ host.view request
    rw [view_server] at recorded
    generalize (transport.post Account.loginEndpoint request.body).run (recording Server.quiet)
      (host.server, []) = answered at recorded ⊢
    obtain ⟨result, server, dialogue⟩ := answered
    obtain ⟨posted, executed⟩ := recorded
    obtain ⟨later, view, concluded, spared⟩ :=
      View.execute_conclude transport ⟨store, false⟩ { host.view with server } request.username
        result
    obtain ⟨after, ended, rfl⟩ := execute_of_view (executed.trans concluded)
    refine ⟨later, after, ended, fun refused => ?_⟩
    have unaccepted (token : String) : Verdict.ofAnswer result ≠ .accepted token := by
      intro accepted
      obtain ⟨value, same, interprets⟩ := ofAnswer_eq_accepted.1 accepted
      exact refused ⟨value, token, (posted.brings value).1 same, interprets⟩
    obtain ⟨rfl, machine⟩ := spared unaccepted
    refine ⟨machine, rfl, fun established => ?_⟩
    cases verdict : Verdict.ofAnswer result with
    | accepted token => exact unaccepted token verdict
    | refused => rw [verdict] at established; cases established
    | unreachable => rw [verdict] at established; cases established

section

open scoped Idna

theorem post_braced_host :
    ∃ transport url, Transport.ofAddress "http://a\x7bb/" = .ok transport ∧
      transport.endpointUrl "login" = .ok url ∧ isWeb url = true ∧
      let (result, _, dialogue) := (transport.post "login" .empty).run (recording Server.quiet)
        (⟨true, true, [.respond ⟨.ok, [], Text.utf8 "{}", false⟩], []⟩, [])
      dialogue = [] ∧ ∃ address, result = .error (.network (.unsupported address)) := by
  have kinds : ((Transport.ofAddress "http://a\x7bb/").toOption.bind fun transport =>
      (transport.endpointUrl "login").toOption.map fun url =>
        (isWeb url, isSendable (Transport.request url .empty).url)) = some (true, false) := by
    decide +kernel
  cases address : Transport.ofAddress "http://a\x7bb/" with
  | error error => rw [address] at kinds; cases kinds
  | ok transport =>
    cases joined : transport.endpointUrl "login" with
    | error error => simp [address, joined, Except.toOption] at kinds
    | ok url =>
      simp only [address, joined, Except.toOption, Option.bind_some, Option.map_some,
        Option.some.injEq, Prod.mk.injEq] at kinds
      obtain ⟨web, unsendable⟩ := kinds
      have posted := posted_post Server.quiet transport "login" .empty
        ⟨true, true, [.respond ⟨.ok, [], Text.utf8 "{}", false⟩], []⟩
      obtain ⟨nothing, failed⟩ := posted.unsendable url joined unsendable
      exact ⟨transport, url, rfl, joined, web, nothing, _, failed⟩

end

end Host

end PracticeClient.Cli
