import PracticeClient.Proofs.Client.Happenings

/-!
# Where passwords go

The password of a form goes into the body of the post that the login makes, and nowhere else. To
say so, passwords are *masked*: blanked in the forms, in the requests that tasks have still to make
and in the bodies that have been posted. Masking commutes with everything that can happen, so two
histories that differ in passwords only have the same states up to the mask.
-/

namespace PracticeClient

/-! ## Masks -/

def LoginForm.masked (form : LoginForm) : LoginForm :=
  { form with password := "" }

def LoginRequest.masked (request : LoginRequest) : LoginRequest :=
  { request with password := "" }

def maskMember (member : String × Json.Value) : String × Json.Value :=
  if member.1 = "password" then (member.1, .string "") else member

def maskBody : Json.Value → Json.Value
  | .object members => .object (members.map maskMember)
  | body => body

def maskPosted (endpoint : String) (body : Json.Value) : Json.Value :=
  if endpoint = Account.loginEndpoint then maskBody body else body

def Event.masked : Event → Event
  | .posted endpoint body => .posted endpoint (maskPosted endpoint body)
  | event => event

def Effect.isLoginPost : Effect → Bool
  | .post endpoint _ => endpoint = Account.loginEndpoint
  | _ => false

namespace Client

variable {α β : Type}

def masked : Client α → Client α
  | .done result => .done result
  | .step (.post endpoint body) next =>
    .step (.post endpoint (maskPosted endpoint body)) fun answer => masked (next answer)
  | .step effect next => .step effect fun answer => masked (next answer)

@[simp] theorem masked_done (result : α) : masked (.done result) = .done result := rfl

theorem masked_bind (program : Client α) (rest : α → Client β) :
    masked (Program.bind program rest) =
      Program.bind (masked program) fun result => masked (rest result) := by
  induction program with
  | done result => rfl
  | step effect next ih => cases effect <;> simp only [Program.step_bind, masked, ih]

theorem masked_of_uses {program : Client α}
    (other : program.Uses fun effect => effect.isLoginPost = false) : masked program = program := by
  induction program with
  | done result => rfl
  | step effect next ih =>
    obtain ⟨kind, later⟩ := other
    have same : (fun answer => masked (next answer)) = next :=
      funext fun answer => ih answer (later answer)
    cases effect with
    | post endpoint body =>
      have elsewhere : maskPosted endpoint body = body :=
        if_neg (by simpa [Effect.isLoginPost] using kind)
      rw [masked, same, elsewhere]
    | _ => rw [masked, same]; exact nofun

end Client

theorem body_masked (request : LoginRequest) :
    maskPosted Account.loginEndpoint request.body = request.masked.body := by
  rw [LoginRequest.body_eq, LoginRequest.body_eq, maskPosted, if_pos rfl]
  simp [maskBody, maskMember, LoginRequest.masked]

namespace Account

theorem masked_conclude (username : String) (answer : Except Http.TransportError Json.Value) :
    Client.masked (conclude username answer) = conclude username answer := by
  apply Client.masked_of_uses
  cases answer with
  | error error => exact ⟨rfl, fun _ => ⟨rfl, fun _ => trivial⟩⟩
  | ok body =>
    rw [conclude]
    cases LoginReply.interpret body with
    | accepted token =>
      exact ⟨rfl, fun _ => ⟨rfl, fun _ => ⟨rfl, fun _ => ⟨rfl, fun _ => ⟨rfl, fun _ => trivial⟩⟩⟩⟩⟩
    | rejected => exact ⟨rfl, fun _ => ⟨rfl, fun _ => trivial⟩⟩
    | malformed reason => exact ⟨rfl, fun _ => ⟨rfl, fun _ => trivial⟩⟩

theorem login_eq (request : LoginRequest) :
    login request =
      .step (.log (.debug "Sending login request" [("username", request.username)])) fun _ =>
        .step (.post loginEndpoint request.body) (conclude request.username) := rfl

theorem masked_login (request : LoginRequest) :
    Client.masked (login request) = login request.masked := by
  have concluded : (fun answer => Client.masked (conclude request.username answer)) =
      conclude request.username := funext (masked_conclude request.username)
  rw [login_eq, login_eq, Client.masked, Client.masked, body_masked, concluded]
  · rfl
  · exact nofun

theorem masked_logout : Client.masked logout = logout :=
  Client.masked_of_uses ⟨rfl, fun _ => ⟨rfl, fun _ => ⟨rfl, fun _ => ⟨rfl, fun _ => trivial⟩⟩⟩⟩

end Account

namespace Clients

theorem masked_load (next : Continuation) :
    Client.masked (Errand.load next).program = (Errand.load next).program := by
  have continued : Program.Uses (fun effect => effect.isLoginPost = false) next.program := by
    cases next with
    | nothing => trivial
    | logout => exact ⟨rfl, fun _ => ⟨rfl, fun _ => ⟨rfl, fun _ => ⟨rfl, fun _ => trivial⟩⟩⟩⟩
    | die => exact ⟨rfl, nofun⟩
  apply Client.masked_of_uses
  refine ⟨by decide, ?_⟩
  intro answer
  refine Program.uses_bind ?_ fun _ => trivial
  cases answer with
  | ok body => exact ⟨rfl, fun _ => ⟨rfl, fun _ => continued⟩⟩
  | error error => exact ⟨rfl, fun _ => ⟨rfl, fun _ => trivial⟩⟩

theorem masked_errand (request : LoginRequest) :
    Client.masked (Errand.login request).program = (Errand.login request.masked).program := by
  change Client.masked (Program.bind (Account.login request) _) = Program.bind _ _
  rw [Client.masked_bind, Account.masked_login]
  rfl

/-! ## States -/

def Progress.masked {α : Type} : Progress α → Progress α
  | .ready program => .ready (Client.masked program)
  | .waiting call next => .waiting call fun answer => Client.masked (next answer)
  | .ended result => .ended result
  | .died => .died

def Task.masked (task : Task) : Task :=
  { task with progress := Progress.masked task.progress }

def Desk.masked (desk : Desk) : Desk :=
  { desk with form := desk.form.masked }

def masked (clients : Clients) : Clients :=
  { clients with
    first := Desk.masked clients.first
    second := Desk.masked clients.second
    tasks := clients.tasks.map Task.masked
    events := clients.events.map Event.masked }

variable (clients : Clients)

theorem masked_desk (who : Who) : clients.masked.desk who = Desk.masked (clients.desk who) := by
  cases who <;> rfl

theorem masked_setDesk (who : Who) (desk : Desk) :
    (clients.setDesk who desk).masked = clients.masked.setDesk who (Desk.masked desk) := by
  cases who <;> rfl

theorem masked_note (event : Event) :
    (clients.note event).masked = clients.masked.note event.masked := by
  simp [note, masked]

theorem masked_noteLog (entry : LogEntry) :
    (clients.noteLog entry).masked = clients.masked.noteLog entry :=
  masked_note clients _

theorem masked_setTask (handle : Nat) (task : Task) :
    (clients.setTask handle task).masked = clients.masked.setTask handle (Task.masked task) := by
  simp [setTask, masked, List.map_set]

theorem masked_sent (endpoint : String) (body : Json.Value) :
    (clients.sent endpoint body).masked = clients.masked.sent endpoint (maskPosted endpoint body) := by
  simp [sent, masked, note, Event.masked]

theorem masked_callStore (call : StoreCall) :
    clients.masked.callStore call =
      ((clients.callStore call).1, (clients.callStore call).2.masked) := by
  simp [callStore, masked, Event.masked, Function.comp_def]

theorem masked_task (handle : Nat) :
    clients.masked.tasks[handle]? = (clients.tasks[handle]?).map Task.masked :=
  List.getElem?_map

/-! ## Running -/

theorem masked_advance {α : Type} (handle : Nat) (program : Client α) :
    advance handle (Client.masked program) clients.masked =
      (Progress.masked (advance handle program clients).1,
        (advance handle program clients).2.masked) := by
  induction program generalizing clients with
  | done result => rfl
  | step effect next ih =>
    cases effect with
    | store call =>
      rw [Client.masked, advance_store, advance_store, masked_callStore, ih]
      exact nofun
    | notify notification =>
      rw [Client.masked, advance_notify, advance_notify, ← ih, masked_note]
      · rfl
      · exact nofun
    | log entry =>
      rw [Client.masked, advance_log, advance_log, ← ih, masked_noteLog]
      exact nofun
    | complete =>
      rw [Client.masked, advance_complete, advance_complete, ← ih, masked_note]
      · rfl
      · exact nofun
    | abort => rfl
    | post endpoint body =>
      have replies : clients.masked.replies = clients.replies := rfl
      have posts : clients.masked.posts = clients.posts := rfl
      rw [Client.masked, advance_post, advance_post, replies, posts, ← masked_sent]
      cases clients.replies.lookup clients.posts with
      | none => rfl
      | some reply =>
        cases reply with
        | die => rfl
        | answer answer => exact ih answer (clients.sent endpoint body)

theorem masked_perform {α : Type} {program : Client α} (same : Client.masked program = program) :
    clients.masked.perform program =
      ((clients.perform program).1, (clients.perform program).2.masked) := by
  have runs := masked_advance clients clients.masked.tasks.length program
  have length : clients.masked.tasks.length = clients.tasks.length := List.length_map _
  rw [same, length] at runs
  unfold perform
  rw [length, runs]
  cases advance clients.tasks.length program clients with
  | mk progress after => cases progress <;> rfl

theorem isOver_masked {α : Type} (progress : Progress α) :
    Progress.isOver (Progress.masked progress) = Progress.isOver progress := by
  cases progress <;> rfl

theorem masked_landed (task : Task) (progress : Progress TaskResult) :
    clients.masked.landed (Task.masked task) (Progress.masked progress) =
      (clients.landed task progress).masked := by
  unfold landed
  rw [isOver_masked]
  cases job : task.job with
  | submissions => simp [Task.masked, job]
  | login =>
    simp only [Task.masked, job, masked_desk]
    cases Progress.isOver progress with
    | false => rfl
    | true =>
      rw [if_pos rfl, if_pos rfl, masked_setDesk]
      rfl

theorem masked_run (handle : Nat) : clients.masked.run handle = (clients.run handle).masked := by
  cases found : clients.tasks[handle]? with
  | none => simp only [run, masked_task, found, Option.map_none]
  | some task =>
    have there : clients.masked.tasks[handle]? = some (Task.masked task) := by
      rw [masked_task, found, Option.map_some]
    cases progress : task.progress with
    | ready program =>
      have ready : (Task.masked task).progress = .ready (Client.masked program) := by
        rw [Task.masked, progress]
        rfl
      rw [run_of_ready there ready, run_of_ready found progress, masked_advance, masked_landed,
        masked_setTask]
      rfl
    | _ =>
      rw [run_of_not_ready found (by simp [progress]),
        run_of_not_ready there (by simp [Task.masked, Progress.masked, progress])]

/-! ## One happening -/

theorem masked_wake (call : Nat) (reply : Reply) (task : Task) :
    Task.wake call reply (Task.masked task) = (Task.wake call reply task).map Task.masked := by
  have abort : Client.masked (Client.abort : Client TaskResult) = Client.abort :=
    Client.masked_of_uses ⟨rfl, nofun⟩
  cases progress : task.progress with
  | waiting waited next =>
    simp only [Task.wake, Task.masked, progress, Progress.masked]
    by_cases here : waited = call
    · rw [if_pos here, if_pos here]
      cases reply with
      | answer answer => rfl
      | die => simp only [Option.map_some, Task.masked, Progress.masked, abort]
    · rw [if_neg here, if_neg here]
      rfl
  | _ => simp only [Task.wake, Task.masked, progress, Progress.masked, Option.map_none]

theorem masked_woken (call : Nat) (reply : Reply) :
    woken call reply clients.masked =
      (woken call reply clients).map fun found => (found.1, Task.masked found.2) := by
  unfold woken
  rw [masked, List.mapIdx_eq_zipIdx_map, List.mapIdx_eq_zipIdx_map, List.zipIdx_map, List.map_map,
    List.findSome?_map, List.findSome?_map, List.map_findSome?]
  congr 1
  funext found
  obtain ⟨task, handle⟩ := found
  change (Task.wake call reply (Task.masked task)).map _ =
    ((Task.wake call reply task).map _).map _
  rw [masked_wake, Option.map_map, Option.map_map]
  rfl

theorem masked_deliver (call : Nat) (reply : Reply) :
    clients.masked.deliver call reply =
      ((clients.deliver call reply).1, (clients.deliver call reply).2.masked) := by
  unfold deliver
  have replies : clients.masked.replies = clients.replies := rfl
  have heard : ({ clients.masked with replies := clients.replies ++ [(call, reply)] } : Clients) =
      masked { clients with replies := clients.replies ++ [(call, reply)] } := rfl
  rw [replies, heard]
  split
  · rfl
  · dsimp only
    rw [masked_woken]
    cases Clients.woken call reply { clients with replies := clients.replies ++ [(call, reply)] } with
    | none => rfl
    | some found => simp [masked, setTask, List.map_set]

theorem masked_spawn (who : Who) (job : Job) (program : Client TaskResult) :
    (clients.spawn who job program).masked =
      clients.masked.spawn who job (Client.masked program) := by
  simp [spawn, masked, Task.masked, Progress.masked]

theorem masked_login (who : Who) :
    clients.masked.login who = ((clients.login who).1, (clients.login who).2.masked) := by
  have length : clients.masked.tasks.length = clients.tasks.length := List.length_map _
  have counts : clients.masked.inFlight who = clients.inFlight who := by cases who <;> rfl
  have request : (clients.masked.desk who).form.take.1 =
      (clients.desk who).form.take.1.masked := by rw [masked_desk]; rfl
  have dispatching : clients.masked.dispatching who = (clients.dispatching who).masked := by
    unfold Clients.dispatching
    rw [counts]
    dsimp only
    split
    · rw [masked_noteLog, masked_setDesk]
      rfl
    · rw [masked_setDesk]
      rfl
  have handle : (clients.masked.login who).1 = (clients.login who).1 := by
    change Outcome.dispatched (clients.masked.dispatching who).tasks.length _ =
      .dispatched (clients.dispatching who).tasks.length _
    rw [dispatching_tasks, dispatching_tasks, length]
  refine Prod.ext handle ?_
  rw [login_snd, login_snd, masked_spawn, masked_errand, dispatching, request]

theorem masked_release (handle : Nat) (task : Task) :
    (clients.release handle task).masked = clients.masked.release handle (Task.masked task) :=
  masked_setTask clients handle _

theorem masked_poll (handle : Nat) :
    clients.masked.poll handle = ((clients.poll handle).1, (clients.poll handle).2.masked) := by
  unfold poll
  rw [masked_task]
  cases clients.tasks[handle]? with
  | none => rfl
  | some task =>
    cases held : task.held with
    | false => simp [Task.masked, held]
    | true =>
      cases progress : task.progress with
      | ready program => simp [Task.masked, Progress.masked, held, progress]
      | waiting call next => simp [Task.masked, Progress.masked, held, progress]
      | ended result =>
        simp [Task.masked, Progress.masked, held, progress, masked_release]
      | died =>
        simp [Task.masked, Progress.masked, held, progress, masked_release, masked_noteLog]

theorem masked_drop (handle : Nat) :
    clients.masked.drop handle = ((clients.drop handle).1, (clients.drop handle).2.masked) := by
  unfold drop
  rw [masked_task]
  cases clients.tasks[handle]? with
  | none => rfl
  | some task => exact Prod.ext rfl (masked_release clients handle task).symm

def Action.isFill : Action → Bool
  | .fill _ _ => true
  | _ => false

theorem masked_act {action : Action} (other : action.isFill = false) :
    clients.masked.act action = ((clients.act action).1, (clients.act action).2.masked) := by
  cases action with
  | fill who form => cases other
  | call call => simp only [act, masked_callStore]
  | askAuthenticated =>
    have asked : Client.masked Session.isAuthenticated = Session.isAuthenticated := by
      apply Client.masked_of_uses
      refine ⟨rfl, ?_⟩
      intro token
      cases token with
      | none => trivial
      | some token => exact ⟨rfl, fun _ => trivial⟩
    simp only [act, masked_perform clients asked]
  | askUsername =>
    have asked : Client.masked Session.currentUsername = Session.currentUsername :=
      Client.masked_of_uses ⟨rfl, fun _ => trivial⟩
    simp only [act, masked_perform clients asked]
  | establish token username =>
    have ordered : Client.masked (Session.establish token username) =
        Session.establish token username :=
      Client.masked_of_uses ⟨rfl, fun _ => ⟨rfl, fun _ => trivial⟩⟩
    simp only [act, masked_perform clients ordered]
  | clear =>
    have ordered : Client.masked Session.clear = Session.clear :=
      Client.masked_of_uses ⟨rfl, fun _ => ⟨rfl, fun _ => trivial⟩⟩
    simp only [act, masked_perform clients ordered]
  | logout => simp only [act, masked_perform clients Account.masked_logout]
  | login who => exact masked_login clients who
  | load who next =>
    have length : clients.masked.tasks.length = clients.tasks.length := List.length_map _
    change (Outcome.dispatched clients.masked.tasks.length none,
      clients.masked.spawn who .submissions (Errand.load next).program) =
        (.dispatched clients.tasks.length none,
          (clients.spawn who .submissions (Errand.load next).program).masked)
    rw [length, masked_spawn, masked_load]
  | reply call reply => exact masked_deliver clients call reply
  | poll handle => exact masked_poll clients handle
  | drop handle => exact masked_drop clients handle
  | askInFlight who => cases who <;> rfl
  | _ => rfl

def Happening.masked : Happening → Happening
  | .move (.act (.fill who form)) => .move (.act (.fill who form.masked))
  | happening => happening

theorem masked_cutShort {α : Type} (count : Nat) (program : Client α) :
    Client.masked (cutShort count program) = cutShort count (Client.masked program) := by
  have abort : Client.masked (Client.abort : Client α) = Client.abort :=
    Client.masked_of_uses ⟨rfl, nofun⟩
  induction program generalizing count with
  | done result => cases count <;> first | rfl | exact abort
  | step effect next ih =>
    cases count with
    | zero => exact abort
    | succ count => cases effect <;> simp only [cutShort, Client.masked, ih]

theorem masked_doom (handle count : Nat) :
    clients.masked.doom handle count = (clients.doom handle count).masked := by
  unfold doom
  rw [masked_task]
  cases clients.tasks[handle]? with
  | none => rfl
  | some task =>
    have progress : Progress.cutShort count (Progress.masked task.progress) =
        Progress.masked (Progress.cutShort count task.progress) := by
      cases task.progress <;> simp only [Progress.cutShort, Progress.masked, masked_cutShort]
    simp only [Option.map_some, masked_setTask, Task.masked, progress]

theorem masked_giveUp (handle : Nat) :
    clients.masked.giveUp handle = (clients.giveUp handle).masked := by
  unfold giveUp
  rw [masked_task]
  cases clients.tasks[handle]? with
  | none => rfl
  | some task =>
    simp only [Option.map_some, Task.masked, isOver_masked]
    split
    · rfl
    · rw [masked_setTask, ← masked_landed]
      rfl

theorem masked_happen (happening : Happening) :
    clients.masked.happen happening.masked = (clients.happen happening).masked := by
  cases happening with
  | doom handle count => exact masked_doom clients handle count
  | giveUp handle => exact masked_giveUp clients handle
  | move move =>
    cases move with
    | turn handle => exact masked_run clients handle
    | takeQueue => rfl
    | act action =>
      cases fill : action.isFill with
      | true =>
        cases action with
        | fill who form => cases who <;> rfl
        | _ => cases fill
      | false =>
        have same : Happening.masked (.move (.act action)) = .move (.act action) := by
          cases action <;> first | rfl | cases fill
        rw [same]
        exact congrArg Prod.snd (masked_act clients fill)

theorem masked_history (happenings : List Happening) :
    clients.masked.history (happenings.map Happening.masked) =
      (clients.history happenings).masked := by
  induction happenings generalizing clients with
  | nil => rfl
  | cons first rest ih =>
    rw [List.map_cons, history, List.foldl_cons, masked_happen]
    exact ih (clients.happen first)

end Clients

/-! ## What differs -/

inductive Event.SameButPassword : Event → Event → Prop where
  | same (event : Event) : SameButPassword event event
  | posted {body other : Json.Value} (masked : maskBody body = maskBody other) :
      SameButPassword (.posted Account.loginEndpoint body) (.posted Account.loginEndpoint other)

theorem Event.sameButPassword_of_masked {event other : Event} (same : event.masked = other.masked) :
    event.SameButPassword other := by
  cases event with
  | posted endpoint body =>
    cases other with
    | posted endpoint' body' =>
      obtain ⟨rfl, bodies⟩ := Event.posted.inj same
      unfold maskPosted at bodies
      by_cases login : endpoint = Account.loginEndpoint
      · rw [if_pos login, if_pos login] at bodies
        subst login
        exact .posted bodies
      · rw [if_neg login, if_neg login] at bodies
        rw [bodies]
        exact .same _
    | _ => cases same
  | _ =>
    cases other with
    | posted endpoint' body' => cases same
    | _ => cases same <;> exact .same _

namespace Clients

def Progress.result? {α : Type} : Progress α → Option α
  | .ended result => some result
  | _ => none

def Task.report (task : Task) : Standing × Bool × Option TaskResult :=
  (Task.standing task, task.held, Progress.result? task.progress)

/-- Two states that nobody can tell apart but by the password members of the bodies posted to the
login endpoint. -/
structure SameButPasswords (clients other : Clients) : Prop where
  machine : clients.machine = other.machine
  store : clients.store = other.store
  inFlight : ∀ who, clients.inFlight who = other.inFlight who
  /-- Diagnostics show the same of the forms, and of the requests that a dispatch would make. -/
  diagnostics : ∀ who, (clients.desk who).form.describe = (other.desk who).form.describe ∧
    (clients.desk who).form.take.1.describe = (other.desk who).form.take.1.describe
  tasks : clients.tasks.map Task.report = other.tasks.map Task.report
  queue : clients.queue = other.queue
  posts : clients.posts = other.posts
  replies : clients.replies = other.replies
  events : List.Forall₂ Event.SameButPassword clients.events other.events
  /-- Whatever is done next has the same outcome. Only whoever fills a form is told of that form. -/
  outcomes : ∀ action : Action, action.isFill = false →
    (clients.act action).1 = (other.act action).1

theorem report_masked (task : Task) : Task.report (Task.masked task) = Task.report task := by
  have result : Progress.result? (Progress.masked task.progress) =
      Progress.result? task.progress := by
    cases task.progress <;> rfl
  simp only [Task.report, Task.standing, Task.masked, isOver_masked, result]

theorem sameButPasswords_of_masked {clients other : Clients}
    (same : clients.masked = other.masked) : SameButPasswords clients other := by
  have desks (who : Who) : Desk.masked (clients.desk who) = Desk.masked (other.desk who) := by
    rw [← masked_desk, ← masked_desk, same]
  have usernames (who : Who) : (clients.desk who).form.username = (other.desk who).form.username :=
    congrArg (·.form.username) (desks who)
  have reports := congrArg (fun clients : Clients => clients.tasks.map Task.report) same
  have events : clients.events.map Event.masked = other.events.map Event.masked :=
    congrArg Clients.events same
  refine {
    machine := (congrArg Clients.machine same :)
    store := (congrArg Clients.store same :)
    inFlight := fun who => (congrArg Desk.inFlight (desks who) :)
    diagnostics := fun who =>
      ⟨congrArg (describeCredentials _) (usernames who),
        congrArg (describeCredentials _) (usernames who)⟩
    tasks := ?_
    queue := (congrArg Clients.queue same :)
    posts := (congrArg Clients.posts same :)
    replies := (congrArg Clients.replies same :)
    events := ?_
    outcomes := fun action kind => ?_ }
  · simpa only [masked, List.map_map, Function.comp_def, report_masked] using reports
  · have pairs :=
      List.forall₂_map_left_iff.1 (List.forall₂_map_right_iff.1 (List.forall₂_eq_eq_eq ▸ events))
    exact pairs.imp fun _ _ => Event.sameButPassword_of_masked
  · have first := congrArg Prod.fst (masked_act clients kind)
    have second := congrArg Prod.fst (masked_act other kind)
    rw [same] at first
    exact first.symm.trans second

/-- Histories that differ in the passwords put into the forms, and in nothing else, differ in the
password members of the bodies posted to the login endpoint, and in nothing else. -/
theorem passwords_only_posted (machine : Machine) (store : Store) {happenings others : List Happening}
    (same : happenings.map Happening.masked = others.map Happening.masked) :
    SameButPasswords ((Clients.opening machine store).history happenings)
      ((Clients.opening machine store).history others) := by
  apply sameButPasswords_of_masked
  rw [← masked_history, ← masked_history, same]

def presenting (password : String) : List Happening :=
  [.move (.act (.fill .first ⟨"ana", password⟩)), .move (.act (.login .first)), .move (.turn 0),
    .move (.act (.reply 0 (.answer (.ok .empty)))), .move (.turn 0)]

theorem passwords_only_posted_sun_moon :
    (presenting "sun").map Happening.masked = (presenting "moon").map Happening.masked ∧
      SameButPasswords
        ((Clients.opening ⟨.empty, .empty⟩ (.memory .empty)).history (presenting "sun"))
        ((Clients.opening ⟨.empty, .empty⟩ (.memory .empty)).history (presenting "moon")) := by
  have same : (presenting "sun").map Happening.masked = (presenting "moon").map Happening.masked := rfl
  exact ⟨same, passwords_only_posted ⟨.empty, .empty⟩ (.memory .empty) same⟩

end Clients

end PracticeClient
