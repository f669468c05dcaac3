import Mathlib.Data.List.Forall2
import PracticeClient.Proofs.Client.History

namespace PracticeClient.Clients

/-! ## Notices -/

def Deed.isNotice : Deed → Bool
  | .conclude _ (.login _) _ => true
  | .conclude _ (.load _) (.error _) => true
  | .logout => true
  | _ => false

def Deed.Notifies : Deed → Notification → Prop
  | .conclude _ (.login _) answer, notification => (Verdict.ofAnswer answer).Told notification
  | .conclude _ (.load _) (.error _), notification =>
    notification = ⟨.danger, "Connection error"⟩
  | .logout, notification => notification = ⟨.success, "Goodbye"⟩
  | _, _ => False

def Deed.post? : Deed → Option (String × Json.Value)
  | .post _ (.login request) =>
    some ("login", .object [("password", .string request.password),
      ("username", .string request.username)])
  | .post _ (.load _) => some ("submissions", .object [])
  | _ => none

def Deed.arrival? : Deed → Option Nat
  | .conclude handle (.load _) (.ok _) => some handle
  | _ => none

theorem isPublic_of_post {event : Event} {post : String × Json.Value}
    (posts : event.post? = some post) : event.isPublic = true := by
  cases event <;> first | rfl | cases posts

theorem isPublic_of_notification {event : Event} {notification : Notification}
    (notifies : event.notification? = some notification) : event.isPublic = true := by
  cases event <;> first | rfl | cases notifies

theorem isPublic_of_completion {event : Event} {handle : Nat}
    (completes : event.completion? = some handle) : event.isPublic = true := by
  cases event <;> first | rfl | cases completes

theorem Deed.Shows.posts {deed : Deed} {events : List Event} (shows : deed.Shows events) :
    events.filterMap Event.post? = deed.post?.toList := by
  cases deed with
  | post handle errand =>
    subst shows
    cases errand with
    | login request =>
      exact congrArg (fun body => [(Account.loginEndpoint, body)]) request.body_eq
    | load next => rfl
  | logout => subst shows; rfl
  | order call => subst shows; rfl
  | conclude handle errand answer =>
    cases errand with
    | login request =>
      obtain ⟨notification, -, rfl⟩ := shows
      cases (Verdict.ofAnswer answer).change? request.username <;> rfl
    | load next => cases answer <;> subst shows <;> rfl

theorem Deed.Shows.arrivals {deed : Deed} {events : List Event} (shows : deed.Shows events) :
    events.filterMap Event.completion? = deed.arrival?.toList := by
  cases deed with
  | post handle errand => subst shows; rfl
  | logout => subst shows; rfl
  | order call => subst shows; rfl
  | conclude handle errand answer =>
    cases errand with
    | login request =>
      obtain ⟨notification, -, rfl⟩ := shows
      cases (Verdict.ofAnswer answer).change? request.username <;> rfl
    | load next => cases answer <;> subst shows <;> rfl

theorem Deed.Shows.notices {deed : Deed} {events : List Event} (shows : deed.Shows events) :
    List.Forall₂ Deed.Notifies ([deed].filter Deed.isNotice)
      (events.filterMap Event.notification?) := by
  cases deed with
  | post handle errand => subst shows; exact .nil
  | logout => subst shows; exact .cons rfl .nil
  | order call => subst shows; exact .nil
  | conclude handle errand answer =>
    cases errand with
    | login request =>
      obtain ⟨notification, told, rfl⟩ := shows
      cases (Verdict.ofAnswer answer).change? request.username <;> exact .cons told .nil
    | load next =>
      cases answer with
      | ok body => subst shows; exact .nil
      | error error => subst shows; exact .cons rfl .nil

theorem Shown.notices {deeds : List Deed} {events : List Event} (shown : Shown deeds events) :
    List.Forall₂ Deed.Notifies (deeds.filter Deed.isNotice)
      (events.filterMap Event.notification?) := by
  induction shown with
  | nil => exact .nil
  | @cons deed deeds trace events first rest ih =>
    rw [List.filterMap_append, ← List.singleton_append, List.filter_append]
    exact List.rel_append first.notices ih

/-! ## What becomes of a task -/

/-- What has become of a task that was dispatched for an errand: its own deeds so far, the reply to
its own post, and how far its program is. -/
inductive Fate (clients : Clients) (deeds : List Deed) (handle : Nat) (errand : Errand) :
    Progress TaskResult → Prop where
  | queued (own : deeds.filter (Deed.isOf handle) = []) :
      Fate clients deeds handle errand (.ready errand.program)
  | waiting {call : Nat} (own : deeds.filter (Deed.isOf handle) = [.post handle errand])
      (posted : (posters deeds)[call]? = some handle)
      (silence : clients.replies.lookup call = none) :
      Fate clients deeds handle errand (.waiting call errand.conclusion)
  | answered {call : Nat} {reply : Reply} {program : Client TaskResult}
      (own : deeds.filter (Deed.isOf handle) = [.post handle errand])
      (posted : (posters deeds)[call]? = some handle)
      (reply : clients.replies.lookup call = some reply) :
      Fate clients deeds handle errand (.ready program)
  | closed {call : Nat} {answer : ServerAnswer}
      (own : deeds.filter (Deed.isOf handle) =
        [.post handle errand, .conclude handle errand answer])
      (posted : (posters deeds)[call]? = some handle)
      (reply : clients.replies.lookup call = some (.answer answer)) :
      Fate clients deeds handle errand (errand.ending answer)
  | lost {call : Nat} (own : deeds.filter (Deed.isOf handle) = [.post handle errand])
      (posted : (posters deeds)[call]? = some handle)
      (reply : clients.replies.lookup call = some .die) :
      Fate clients deeds handle errand .died

theorem posted_of_own {deeds : List Deed} {handle : Nat} {errand : Errand} {rest : List Deed}
    (own : deeds.filter (Deed.isOf handle) = .post handle errand :: rest) :
    ∃ call : Nat, (posters deeds)[call]? = some handle := by
  have member : Deed.post handle errand ∈ deeds := by
    have first : Deed.post handle errand ∈ deeds.filter (Deed.isOf handle) := by
      rw [own]
      exact List.mem_cons_self
    exact (List.mem_filter.1 first).1
  have poster : handle ∈ posters deeds := List.mem_filterMap.2 ⟨_, member, rfl⟩
  obtain ⟨call, within, here⟩ := List.mem_iff_getElem.1 poster
  exact ⟨call, by rw [List.getElem?_eq_getElem within, here]⟩

theorem fate_of_tells {start : Clients} {moves : List Move} {ledger : Ledger} {deeds : List Deed}
    (tells : Tells start moves ledger deeds) {handle : Nat} {who : Who} {errand : Errand}
    (dispatched : (start.dispatches moves)[handle]? = some (who, errand)) :
    ∃ task, (start.course moves).tasks[handle]? = some task ∧ task.who = who ∧
      task.job = errand.job ∧ Fate (start.course moves) deeds handle errand task.progress := by
  obtain ⟨keeps, same, recounts, heeds, -⟩ := tells
  rw [← same, Ledger.errands, List.getElem?_map, Option.map_eq_some_iff] at dispatched
  obtain ⟨entry, found, pair⟩ := dispatched
  obtain ⟨rfl, rfl⟩ := Prod.mk.inj pair
  obtain ⟨task, there, core⟩ := keeps.task found
  have progress : task.progress = entry.progress := congrArg (·.2.2) core
  refine ⟨task, there, congrArg (·.1) core, congrArg (·.2.1) core, ?_⟩
  have own := recounts handle
  rw [found, Option.elim_some, Entry.history] at own
  -- The reply to the task's own post, once it has posted.
  have awaits {rest : List Deed}
      (own : deeds.filter (Deed.isOf handle) = .post handle entry.errand :: rest) :
      ∃ call : Nat, (posters deeds)[call]? = some handle ∧
        entry.stage.Awaits call (start.course moves).replies := by
    obtain ⟨call, posted⟩ := posted_of_own own
    obtain ⟨stage, here, awaits⟩ := heeds.heard posted
    rw [Ledger.stage?_of_entry found] at here
    cases here
    exact ⟨call, posted, keeps.replies ▸ awaits⟩
  rw [progress, Entry.progress]
  cases stage : entry.stage with
  | queued =>
    rw [stage] at own
    exact .queued own
  | waiting waited =>
    rw [stage] at own awaits
    obtain ⟨call, posted, rfl, silence⟩ := awaits own
    exact .waiting own posted silence
  | answered reply =>
    rw [stage] at own awaits
    obtain ⟨call, posted, heard⟩ := awaits own
    cases reply <;> exact .answered own posted heard
  | closed reply =>
    rw [stage] at own awaits
    cases reply with
    | die =>
      obtain ⟨call, posted, heard⟩ := awaits own
      exact .lost own posted heard
    | answer answer =>
      obtain ⟨call, posted, heard⟩ := awaits own
      exact .closed own posted heard

/-! ## Turns -/

theorem advance_not_ready {α : Type} (handle : Nat) (program : Client α) (clients : Clients)
    (left : Client α) : (advance handle program clients).1 ≠ .ready left := by
  induction program generalizing clients with
  | done result => exact nofun
  | step effect next ih =>
    cases effect with
    | store call => exact ih _ _
    | notify notification => exact ih _ _
    | log entry => exact ih _ _
    | complete => exact ih _ _
    | abort => exact nofun
    | post endpoint body =>
      rw [advance_post]
      cases clients.replies.lookup clients.posts with
      | none => exact nofun
      | some reply =>
        cases reply with
        | die => exact nofun
        | answer answer => exact ih _ _

def Task.isReady (task : Task) : Bool :=
  match task.progress with
  | .ready _ => true
  | _ => false

theorem ready_run (clients : Clients) (handle other : Nat) {task : Task}
    (there : (clients.run handle).tasks[other]? = some task) (ready : Task.isReady task = true) :
    other ≠ handle ∧ clients.tasks[other]? = some task := by
  rcases run_cases clients handle with ⟨same, resting⟩ | ⟨mine, program, found, progress⟩
  · rw [same] at there
    refine ⟨?_, there⟩
    rintro rfl
    cases progress : task.progress with
    | ready program => exact resting task program there progress
    | _ => simp [Task.isReady, progress] at ready
  · have tasks : (clients.run handle).tasks = clients.tasks.set handle
        { mine with progress := (advance handle program clients).1 } := by
      rw [run_of_ready found progress, setTask]
      obtain ⟨-, tasks, -⟩ := landed_frame (advance handle program clients).2 mine
        (advance handle program clients).1
      rw [tasks, advance_tasks]
    rw [tasks, List.getElem?_set] at there
    by_cases same : handle = other
    · rw [if_pos same] at there
      split at there
      · cases there
        cases stopped : (advance handle program clients).1 with
        | ready left => exact absurd stopped (advance_not_ready handle program clients left)
        | _ => simp [Task.isReady, stopped] at ready
      · cases there
    · rw [if_neg same] at there
      exact ⟨Ne.symm same, there⟩

def Queued (clients : Clients) : Prop :=
  ∀ (handle : Nat) (task : Task), clients.tasks[handle]? = some task →
    Task.isReady task = true → handle ∈ clients.queue

theorem ready_turns (clients : Clients) (handles : List Nat) {other : Nat} {task : Task}
    (there : (clients.course (handles.map .turn)).tasks[other]? = some task)
    (ready : Task.isReady task = true) :
    other ∉ handles ∧ clients.tasks[other]? = some task := by
  induction handles generalizing clients with
  | nil => exact ⟨List.not_mem_nil, there⟩
  | cons handle rest ih =>
    obtain ⟨later, before⟩ := ih (clients.run handle) there
    obtain ⟨differs, first⟩ := ready_run clients handle other before ready
    exact ⟨by simp [differs, later], first⟩

theorem settle_leaves_none_ready {clients : Clients} (queued : Queued clients) {handle : Nat}
    {task : Task} (there : clients.settle.tasks[handle]? = some task) :
    Task.isReady task = false := by
  rw [settle_eq_course] at there
  cases ready : Task.isReady task with
  | false => rfl
  | true =>
    obtain ⟨missed, before⟩ := ready_turns { clients with queue := [] } clients.queue there ready
    exact absurd (queued handle task before ready) missed

namespace Queued

variable {clients : Clients}

theorem of_same {after : Clients} (queued : Queued clients) (tasks : after.tasks = clients.tasks)
    (queue : after.queue = clients.queue) : Queued after := by
  intro handle task there ready
  rw [tasks] at there
  rw [queue]
  exact queued _ _ there ready

theorem perform {α : Type} (queued : Queued clients) (program : Client α) :
    Queued (clients.perform program).2 := by
  have book := advance_book clients.tasks.length program clients
  rw [perform_snd]
  exact queued.of_same (congrArg (·.2.2.1) book) (congrArg (·.2.2.2.1) book)

theorem setDesk (queued : Queued clients) (who : Who) (desk : Desk) :
    Queued (clients.setDesk who desk) := by
  cases who <;> exact queued

theorem spawn (queued : Queued clients) (who : Who) (job : Job) (program : Client TaskResult) :
    Queued (clients.spawn who job program) := by
  intro handle task there ready
  change handle ∈ clients.queue ++ [clients.tasks.length]
  by_cases earlier : handle < clients.tasks.length
  · change (clients.tasks ++ _)[handle]? = some task at there
    rw [List.getElem?_append_left earlier] at there
    exact List.mem_append_left _ (queued _ _ there ready)
  · obtain ⟨within, -⟩ := List.getElem?_eq_some_iff.1 there
    change handle < (clients.tasks ++ _).length at within
    rw [List.length_append, List.length_singleton] at within
    have last : handle = clients.tasks.length := by omega
    exact List.mem_append_right _ (List.mem_singleton.2 last)

theorem release (queued : Queued clients) {handle : Nat} {task : Task}
    (found : clients.tasks[handle]? = some task) : Queued (clients.release handle task) := by
  intro other another there ready
  change (clients.tasks.set handle _)[other]? = some another at there
  rw [List.getElem?_set] at there
  by_cases same : handle = other
  · subst same
    rw [if_pos rfl] at there
    split at there
    · cases there
      exact queued _ _ found ready
    · cases there
  · rw [if_neg same] at there
    exact queued _ _ there ready

theorem deliver (queued : Queued clients) (call : Nat) (reply : Reply) :
    Queued (clients.deliver call reply).2 := by
  rcases deliver_cases clients call reply with
    ⟨-, delivered⟩ | ⟨-, ⟨-, delivered⟩ | ⟨handle, asleep, awake, -, -, delivered⟩⟩
  · rw [delivered]
    exact queued
  · rw [delivered]
    exact queued
  · rw [delivered]
    intro other another there ready
    change (clients.tasks.set handle awake)[other]? = some another at there
    change other ∈ clients.queue ++ [handle]
    rw [List.getElem?_set] at there
    by_cases same : handle = other
    · exact List.mem_append_right _ (List.mem_singleton.2 same.symm)
    · rw [if_neg same] at there
      exact List.mem_append_left _ (queued _ _ there ready)

theorem login (queued : Queued clients) (who : Who) : Queued (clients.login who).2 := by
  rw [login_snd]
  refine spawn ?_ who .login _
  exact dispatching_cases (motive := Queued) clients who (queued.setDesk who _) fun _ _ same => same

theorem poll (queued : Queued clients) (handle : Nat) : Queued (clients.poll handle).2 := by
  rcases poll_cases clients handle with
    same | ⟨task, found, -, ⟨result, -, polled⟩ | ⟨-, polled⟩⟩
  · rwa [same]
  · rw [polled]
    exact queued.release found
  · rw [polled]
    have logged : Queued (clients.noteLog lostEntry) := queued
    exact logged.release found

theorem drop (queued : Queued clients) (handle : Nat) : Queued (clients.drop handle).2 := by
  rcases drop_cases clients handle with ⟨-, same⟩ | ⟨task, found, dropped⟩
  · rwa [same]
  · rw [dropped]
    exact queued.release found

theorem act (queued : Queued clients) (action : Action) : Queued (clients.act action).2 := by
  cases action with
  | call call => exact queued
  | askAuthenticated => exact queued.perform Session.isAuthenticated
  | askUsername => exact queued.perform Session.currentUsername
  | establish token username => exact queued.perform (Session.establish token username)
  | clear => exact queued.perform Session.clear
  | logout => exact queued.perform Account.logout
  | fill who form => exact queued.setDesk who _
  | login who => exact queued.login who
  | load who next => exact queued.spawn who .submissions _
  | reply call reply => exact queued.deliver call reply
  | poll handle => exact queued.poll handle
  | drop handle => exact queued.drop handle
  | _ => exact queued

theorem settle : Queued clients → Queued clients.settle := by
  intro queued handle task there ready
  rw [settle_leaves_none_ready queued there] at ready
  cases ready

end Queued

/-! ## Whole courses -/

theorem dispatches_snoc (clients : Clients) (moves : List Move) (move : Move) :
    clients.dispatches (moves ++ [move]) =
      clients.dispatches moves ++ ((clients.course moves).dispatch? move).toList := by
  induction moves generalizing clients with
  | nil => exact List.append_nil _
  | cons first rest ih =>
    rw [List.cons_append, dispatches, dispatches, ih, List.append_assoc]
    rfl

theorem login_empties (clients : Clients) (who : Who) :
    (clients.act (.login who)).1 = .dispatched clients.tasks.length (some true) ∧
      ((clients.act (.login who)).2.desk who).form = .empty := by
  have empties (count : Nat) : ((clients.setDesk who ⟨.empty, count⟩).desk who).form = .empty := by
    rw [form_setDesk, if_pos rfl]
  constructor
  · change (clients.login who).1 = _
    unfold login
    simp only [LoginForm.take_form]
    split <;> cases who <;> rfl
  · change ((clients.login who).2.desk who).form = _
    unfold login
    simp only [LoginForm.take_form]
    split
    · exact empties _
    · exact empties _

theorem ended_iff_concluded {clients : Clients} {deeds : List Deed} {handle : Nat}
    {request : LoginRequest} {progress : Progress TaskResult}
    (fate : Fate clients deeds handle (.login request) progress) (result : TaskResult) :
    progress = .ended result ↔
      ∃ answer, Deed.conclude handle (.login request) answer ∈ deeds ∧
        result = .login (Verdict.ofAnswer answer).outcome := by
  have own {answer : ServerAnswer} :
      Deed.conclude handle (.login request) answer ∈ deeds ↔
        Deed.conclude handle (.login request) answer ∈ deeds.filter (Deed.isOf handle) := by
    simp [List.mem_filter, Deed.isOf, Deed.handle?]
  cases fate with
  | queued empty => simp [own, empty]
  | waiting posted => simp [own, posted]
  | answered posted => simp [own, posted]
  | lost posted => simp [own, posted]
  | closed concluded => simp [own, concluded, Errand.ending, eq_comm]

structure Accounts (start : Clients) (moves : List Move) (deeds : List Deed) : Prop where
  /-- A dispatched login empties its form at once and keeps what the form held. -/
  dispatched : ∀ who,
    ((start.course moves).act (.login who)).1 =
        .dispatched (start.dispatches moves).length (some true) ∧
      (((start.course moves).act (.login who)).2.desk who).form = .empty ∧
      start.dispatches (moves ++ [.act (.login who)]) =
        start.dispatches moves ++ [(who, .login ((start.course moves).desk who).form.take.1)]
  tasks : (start.course moves).tasks.length = (start.dispatches moves).length
  fates : ∀ {handle : Nat} {who : Who} {errand : Errand},
    (start.dispatches moves)[handle]? = some (who, errand) →
    ∃ task, (start.course moves).tasks[handle]? = some task ∧ task.who = who ∧
      task.job = errand.job ∧ Fate (start.course moves) deeds handle errand task.progress
  outcomes : ∀ {handle : Nat} {who : Who} {request : LoginRequest} {task : Task},
    (start.dispatches moves)[handle]? = some (who, .login request) →
    (start.course moves).tasks[handle]? = some task → ∀ result,
    (task.progress = .ended result ↔
      ∃ answer, Deed.conclude handle (.login request) answer ∈ deeds ∧
        result = .login (Verdict.ofAnswer answer).outcome)
  /-- A turn takes a task to its post at least, and past it if there is a reply. -/
  turns : ∀ {handle : Nat} {task : Task},
    ((start.course moves).run handle).tasks[handle]? = some task → Task.isReady task = false
  posts : (start.course moves).events.filterMap Event.post? = deeds.filterMap Deed.post?
  notices : List.Forall₂ Deed.Notifies (deeds.filter Deed.isNotice)
    ((start.course moves).events.filterMap Event.notification?)
  arrivals : (start.course moves).events.filterMap Event.completion? =
    deeds.filterMap Deed.arrival?

/-- Over every course each task makes one post with what it was dispatched with, and is concluded
once, by the reply to this post; posts, notifications and arrivals are those of the deeds. -/
theorem course_notices (machine : Machine) (store : Store) (moves : List Move) :
    let start := Clients.opening machine store
    let (ledger, deeds) := Ledger.opening.follow moves
    Tells start moves ledger deeds ∧ Accounts start moves deeds := by
  have tells := course_tells machine store moves
  have tasks : ((Clients.opening machine store).course moves).tasks.length =
      ((Clients.opening machine store).dispatches moves).length := by
    rw [tells.keeps.length, ← tells.dispatched, Ledger.errands, List.length_map]
  refine ⟨tells, ?_, tasks, fate_of_tells tells, ?_, ?_, ?_, ?_, ?_⟩
  · intro who
    obtain ⟨outcome, form⟩ := login_empties ((Clients.opening machine store).course moves) who
    exact ⟨by rw [outcome, tasks], form, dispatches_snoc _ _ _⟩
  · intro handle who request task dispatched there result
    obtain ⟨found, here, -, -, fate⟩ := fate_of_tells tells dispatched
    cases here.symm.trans there
    exact ended_iff_concluded fate result
  · intro handle task there
    cases ready : Task.isReady task with
    | false => rfl
    | true => exact absurd rfl (ready_run _ handle handle there ready).1
  · rw [← tells.shown.filterMap_eq Deed.Shows.posts]
    exact (filterMap_shown isPublic_of_post _).symm
  · rw [← filterMap_shown isPublic_of_notification]
    exact tells.shown.notices
  · rw [← tells.shown.filterMap_eq Deed.Shows.arrivals]
    exact (filterMap_shown isPublic_of_completion _).symm

end PracticeClient.Clients
