import PracticeClient.Proofs.Client.Deeds
import PracticeClient.Proofs.Client.Steps

namespace PracticeClient.Clients

/-! ## Clients and their ledger -/

def Entry.progress (entry : Entry) : Progress TaskResult :=
  match entry.stage with
  | .queued => .ready entry.errand.program
  | .waiting call => .waiting call entry.errand.conclusion
  | .answered (.answer answer) => .ready (entry.errand.conclusion answer)
  | .answered .die => .ready Client.abort
  | .closed (.answer answer) => entry.errand.ending answer
  | .closed .die => .died

theorem progress_eq_waiting {entry : Entry} {call : Nat} {next : ServerAnswer → Client TaskResult}
    (waits : entry.progress = .waiting call next) :
    entry.stage = .waiting call ∧ next = entry.errand.conclusion := by
  unfold Entry.progress at waits
  cases stage : entry.stage with
  | waiting waited =>
    simp only [stage] at waits
    cases waits
    exact ⟨rfl, rfl⟩
  | queued => simp [stage] at waits
  | answered reply => cases reply <;> simp [stage] at waits
  | closed reply =>
    cases reply with
    | die => simp [stage] at waits
    | answer answer =>
      simp only [stage] at waits
      exact absurd waits (ending_ne_waiting entry.errand answer call next)

def Entry.core (entry : Entry) : Who × Job × Progress TaskResult :=
  (entry.who, entry.errand.job, entry.progress)

def Task.core (task : Task) : Who × Job × Progress TaskResult :=
  (task.who, task.job, task.progress)

structure Keeps (ledger : Ledger) (clients : Clients) : Prop where
  forms : ∀ who, (clients.desk who).form = ledger.forms who
  tasks : clients.tasks.map Task.core = ledger.entries.map Entry.core
  posts : clients.posts = ledger.posts
  replies : clients.replies = ledger.replies

theorem landed_eq (clients : Clients) (task : Task) (progress : Progress TaskResult) :
    ∃ count, clients.landed task progress =
      clients.setDesk task.who ⟨(clients.desk task.who).form, count⟩ := by
  have same : clients = clients.setDesk task.who ⟨(clients.desk task.who).form,
      (clients.desk task.who).inFlight⟩ := by
    cases task.who <;> rfl
  unfold landed
  cases task.job with
  | submissions => exact ⟨_, same⟩
  | login =>
    cases Progress.isOver progress with
    | true => exact ⟨_, rfl⟩
    | false => exact ⟨_, same⟩

theorem form_setDesk (clients : Clients) (who other : Who) (form : LoginForm) (count : Nat) :
    ((clients.setDesk who ⟨form, count⟩).desk other).form =
      if other = who then form else (clients.desk other).form := by
  cases who <;> cases other <;> rfl

theorem landed_frame (clients : Clients) (task : Task) (progress : Progress TaskResult) :
    let after := clients.landed task progress
    (∀ who, (after.desk who).form = (clients.desk who).form) ∧ after.tasks = clients.tasks ∧
      after.posts = clients.posts ∧ after.replies = clients.replies ∧
      after.shown = clients.shown := by
  obtain ⟨count, same⟩ := landed_eq clients task progress
  rw [same]
  refine ⟨fun who => ?_, ?_, ?_, ?_, shown_setDesk _ _ _⟩
  · rw [form_setDesk]
    split
    · next here => rw [here]
    · rfl
  all_goals cases task.who <;> rfl

namespace Keeps

variable {ledger : Ledger} {clients : Clients}

theorem opening (machine : Machine) (store : Store) :
    Keeps .opening (Clients.opening machine store) where
  forms who := by cases who <;> rfl
  tasks := rfl
  posts := rfl
  replies := rfl

theorem length (keeps : Keeps ledger clients) : clients.tasks.length = ledger.entries.length := by
  have same := congrArg List.length keeps.tasks
  rwa [List.length_map, List.length_map] at same

theorem core_eq (keeps : Keeps ledger clients) (handle : Nat) :
    (clients.tasks[handle]?).map Task.core = (ledger.entries[handle]?).map Entry.core := by
  rw [← List.getElem?_map, keeps.tasks, List.getElem?_map]

theorem task (keeps : Keeps ledger clients) {handle : Nat} {entry : Entry}
    (found : ledger.entries[handle]? = some entry) :
    ∃ task, clients.tasks[handle]? = some task ∧ Task.core task = entry.core := by
  have same := keeps.core_eq handle
  rw [found, Option.map_some, Option.map_eq_some_iff] at same
  exact same

theorem entry (keeps : Keeps ledger clients) {handle : Nat} {task : Task}
    (found : clients.tasks[handle]? = some task) :
    ∃ entry, ledger.entries[handle]? = some entry ∧ Task.core task = entry.core := by
  have same := keeps.core_eq handle
  rw [found, Option.map_some, eq_comm, Option.map_eq_some_iff] at same
  obtain ⟨entry, there, core⟩ := same
  exact ⟨entry, there, core.symm⟩

theorem no_task (keeps : Keeps ledger clients) {handle : Nat}
    (missing : ledger.entries[handle]? = none) : clients.tasks[handle]? = none := by
  have same := keeps.core_eq handle
  rwa [missing, Option.map_none, Option.map_eq_none_iff] at same

theorem of_book_eq {after : Clients} (keeps : Keeps ledger clients)
    (book : after.book = clients.book) (posts : after.posts = clients.posts) :
    Keeps ledger after := by
  obtain ⟨forms, tasks, counted, replies⟩ := keeps
  simp only [Clients.book, Prod.mk.injEq] at book
  obtain ⟨first, second, sameTasks, -, sameReplies⟩ := book
  refine ⟨fun who => ?_, by rw [sameTasks, tasks], by rw [posts, counted],
    by rw [sameReplies, replies]⟩
  rw [← forms who]
  cases who with
  | first => exact congrArg Desk.form first
  | second => exact congrArg Desk.form second

theorem advanceTo {after : Clients} (keeps : Keeps ledger after) {handle : Nat} {entry : Entry}
    {task : Task} (same : Task.core task = entry.core) {stage : Stage}
    {progress : Progress TaskResult} (reached : progress = Entry.progress { entry with stage }) :
    Keeps (ledger.advanceTo handle entry stage)
      ((after.landed task progress).setTask handle { task with progress }) := by
  obtain ⟨forms, tasks, posts, replies⟩ := keeps
  have core : Task.core { task with progress } = Entry.core { entry with stage } := by
    obtain ⟨who, job⟩ : task.who = entry.who ∧ task.job = entry.errand.job := by
      simpa [Task.core, Entry.core] using And.intro (congrArg (·.1) same) (congrArg (·.2.1) same)
    simp only [Task.core, Entry.core, who, job, reached]
  obtain ⟨landedForms, landedTasks, landedPosts, landedReplies, -⟩ :=
    landed_frame after task progress
  refine ⟨fun who => (landedForms who).trans (forms who), ?_, landedPosts.trans posts,
    landedReplies.trans replies⟩
  simp only [setTask, Ledger.advanceTo, List.map_set, landedTasks, tasks, core]

end Keeps

/-! ## Turns -/

theorem keeps_run {ledger : Ledger} {clients : Clients} (keeps : Keeps ledger clients)
    {handle : Nat} {entry : Entry} (found : ledger.entries[handle]? = some entry)
    {program : Client TaskResult} (ready : entry.progress = .ready program) {stage : Stage}
    (reached : (advance handle program clients).1 = Entry.progress { entry with stage })
    {posts : Nat} (counted : (advance handle program clients).2.posts = posts)
    {deeds : List Deed} (leads : Leads deeds clients (advance handle program clients).2) :
    Keeps (({ ledger with posts } : Ledger).advanceTo handle entry stage) (clients.run handle) ∧
      Leads deeds clients (clients.run handle) := by
  obtain ⟨task, there, same⟩ := keeps.task found
  have progress : task.progress = entry.progress := congrArg (·.2.2) same
  rw [run_of_ready there (progress.trans ready)]
  have book := advance_book handle program clients
  generalize advance handle program clients = result at reached counted leads book
  obtain ⟨forms, tasks, -, replies⟩ := keeps
  constructor
  · refine Keeps.advanceTo ⟨fun who => ?_, ?_, counted, ?_⟩ same reached
    · cases who with
      | first => rw [← forms .first]; exact congrArg (·.1.form) book
      | second => rw [← forms .second]; exact congrArg (·.2.1.form) book
    · rw [← tasks]; exact congrArg (·.2.2.1.map Task.core) book
    · rw [← replies]; exact congrArg (·.2.2.2.2) book
  · obtain ⟨events, shown, more⟩ := leads
    obtain ⟨-, -, -, -, landed⟩ := landed_frame result.2 task result.1
    exact ⟨events, shown, by rw [shown_setTask, landed, more]⟩

theorem leads_sent (handle : Nat) (errand : Errand) (clients : Clients) :
    Leads [.post handle errand] clients
      ((clients.begun errand).sent errand.endpoint errand.body) :=
  ⟨_, .single rfl, by rw [shown_sent, shown_begun]⟩

theorem keeps_resting {ledger : Ledger} {clients : Clients} (keeps : Keeps ledger clients)
    {handle : Nat} {entry : Entry} (found : ledger.entries[handle]? = some entry)
    (rests : (∃ call, entry.stage = .waiting call) ∨ ∃ reply, entry.stage = .closed reply) :
    Keeps ledger (clients.run handle) ∧ Leads [] clients (clients.run handle) := by
  obtain ⟨task, there, same⟩ := keeps.task found
  have progress : task.progress = entry.progress := congrArg (·.2.2) same
  have resting (program : Client TaskResult) : entry.progress ≠ .ready program := by
    rcases rests with ⟨call, stage⟩ | ⟨reply, stage⟩
    · simp [Entry.progress, stage]
    · cases reply with
      | die => simp [Entry.progress, stage]
      | answer answer =>
        rw [Entry.progress, stage]
        exact ending_ne_ready entry.errand answer program
  rw [run_of_not_ready there (progress ▸ resting)]
  exact ⟨keeps, .of_shown_eq rfl⟩

theorem keeps_posted {ledger : Ledger} {clients : Clients} (keeps : Keeps ledger clients)
    {handle : Nat} {entry : Entry} (found : ledger.entries[handle]? = some entry)
    (queued : entry.stage = .queued) (unanswered : ledger.replies.lookup ledger.posts = none) :
    Keeps (({ ledger with posts := ledger.posts + 1 } : Ledger).advanceTo handle entry
        (.waiting ledger.posts)) (clients.run handle) ∧
      Leads [.post handle entry.errand] clients (clients.run handle) := by
  have ready : entry.progress = .ready entry.errand.program := by
    rw [Entry.progress, queued]
  have program := advance_program handle entry.errand clients
  rw [keeps.posts, keeps.replies, unanswered] at program
  refine keeps_run keeps found ready ?_ ?_ ?_ <;> rw [program]
  · rfl
  · rw [posts_sent, posts_begun, keeps.posts]
  · exact leads_sent handle entry.errand clients

theorem keeps_finished {ledger : Ledger} {clients : Clients} (keeps : Keeps ledger clients)
    {handle : Nat} {entry : Entry} {reply : Reply} (found : ledger.entries[handle]? = some entry)
    (queued : entry.stage = .queued)
    (answered : ledger.replies.lookup ledger.posts = some reply) :
    Keeps (({ ledger with posts := ledger.posts + 1 } : Ledger).advanceTo handle entry
        (.closed reply)) (clients.run handle) ∧
      Leads (.post handle entry.errand :: entry.errand.deeds handle reply) clients
        (clients.run handle) := by
  have ready : entry.progress = .ready entry.errand.program := by
    rw [Entry.progress, queued]
  have program := advance_program handle entry.errand clients
  rw [keeps.posts, keeps.replies, answered] at program
  cases reply with
  | die =>
    refine keeps_run keeps found ready ?_ ?_ ?_ <;> rw [program]
    · rfl
    · rw [posts_sent, posts_begun, keeps.posts]
    · exact leads_sent handle entry.errand clients
  | answer answer =>
    obtain ⟨ended, posts, leads⟩ := advance_conclusion handle entry.errand answer
      ((clients.begun entry.errand).sent entry.errand.endpoint entry.errand.body)
    refine keeps_run keeps found ready ?_ ?_ ?_ <;> rw [program]
    · exact ended
    · rw [posts, posts_sent, posts_begun, keeps.posts]
    · exact (leads_sent handle entry.errand clients).trans leads

theorem keeps_concluded {ledger : Ledger} {clients : Clients} (keeps : Keeps ledger clients)
    {handle : Nat} {entry : Entry} {reply : Reply} (found : ledger.entries[handle]? = some entry)
    (answered : entry.stage = .answered reply) :
    Keeps (ledger.advanceTo handle entry (.closed reply)) (clients.run handle) ∧
      Leads (entry.errand.deeds handle reply) clients (clients.run handle) := by
  cases reply with
  | die =>
    have ready : entry.progress = .ready Client.abort := by rw [Entry.progress, answered]
    exact keeps_run keeps found ready rfl keeps.posts (.of_shown_eq rfl)
  | answer answer =>
    have ready : entry.progress = .ready (entry.errand.conclusion answer) := by
      rw [Entry.progress, answered]
    obtain ⟨ended, posts, leads⟩ := advance_conclusion handle entry.errand answer clients
    have reached : (advance handle (entry.errand.conclusion answer) clients).1 =
        Entry.progress { entry with stage := .closed (.answer answer) } := ended
    exact keeps_run keeps found ready reached (posts.trans keeps.posts) leads

theorem keeps_turn {ledger : Ledger} {clients : Clients} (keeps : Keeps ledger clients)
    (handle : Nat) :
    Keeps (ledger.turn handle).1 (clients.run handle) ∧
      Leads (ledger.turn handle).2 clients (clients.run handle) := by
  have turned := ledger.turned handle
  generalize ledger.turn handle = after at turned ⊢
  cases turned with
  | posted found queued unanswered => exact keeps_posted keeps found queued unanswered
  | finished found queued answered => exact keeps_finished keeps found queued answered
  | concluded found answered => exact keeps_concluded keeps found answered
  | passed rests =>
    cases found : ledger.entries[handle]? with
    | none =>
      rw [run, keeps.no_task found]
      exact ⟨keeps, .of_shown_eq rfl⟩
    | some entry => exact keeps_resting keeps found (rests found)

/-! ## Replies -/

theorem wake_eq_none {call : Nat} {reply : Reply} {task : Task} {entry : Entry}
    (same : Task.core task = entry.core) (asleep : Task.wake call reply task = none) :
    entry.stage.hear call reply = entry.stage := by
  have progress : task.progress = entry.progress := congrArg (·.2.2) same
  cases stage : entry.stage with
  | waiting waited =>
    have waits : task.progress = .waiting waited entry.errand.conclusion := by
      rw [progress, Entry.progress, stage]
    have other : waited ≠ call := by
      rintro rfl
      cases reply <;> simp [Task.wake, waits] at asleep
    simp [Stage.hear, other]
  | queued => rfl
  | answered earlier => rfl
  | closed earlier => rfl

theorem wake_eq_some {call : Nat} {reply : Reply} {task woken : Task} {entry : Entry}
    (same : Task.core task = entry.core) (wakes : Task.wake call reply task = some woken) :
    entry.stage = .waiting call ∧
      Task.core woken = Entry.core { entry with stage := .answered reply } := by
  have progress : task.progress = entry.progress := congrArg (·.2.2) same
  have who : task.who = entry.who := congrArg (·.1) same
  have job : task.job = entry.errand.job := congrArg (·.2.1) same
  cases waits : task.progress with
  | waiting waited next =>
    have hears : waited = call := by
      by_contra other
      simp [Task.wake, waits, other] at wakes
    subst hears
    have stage := progress_eq_waiting (progress.symm.trans waits)
    obtain ⟨here, rfl⟩ := stage
    refine ⟨here, ?_⟩
    cases reply <;>
    · simp only [Task.wake, waits, ↓reduceIte, Option.some.injEq] at wakes
      subst wakes
      simp [Task.core, Entry.core, who, job, Entry.progress]
  | ready program => simp [Task.wake, waits] at wakes
  | ended result => simp [Task.wake, waits] at wakes
  | died => simp [Task.wake, waits] at wakes

theorem keeps_deliver {ledger : Ledger} {clients : Clients} (keeps : Keeps ledger clients)
    (orderly : ledger.Orderly) (call : Nat) (reply : Reply) :
    Keeps (ledger.deliver call reply) (clients.deliver call reply).2 ∧
      (clients.deliver call reply).2.shown = clients.shown := by
  rcases deliver_cases clients call reply with
    ⟨replied, delivered⟩ | ⟨first, outcome⟩
  · rw [delivered, Ledger.deliver, ← keeps.replies, if_pos replied]
    exact ⟨keeps, rfl⟩
  have fresh : ¬(ledger.replies.lookup call).isSome = true := by
    rw [← keeps.replies, first]
    exact Bool.false_ne_true
  rw [Ledger.deliver, if_neg fresh, ← keeps.replies]
  rcases outcome with ⟨nobody, delivered⟩ | ⟨handle, asleep, awake, found, wakes, delivered⟩
  · rw [delivered]
    refine ⟨⟨keeps.forms, ?_, keeps.posts, rfl⟩, rfl⟩
    change clients.tasks.map Task.core = _
    rw [keeps.tasks, List.map_map]
    refine List.map_congr_left fun entry member => ?_
    obtain ⟨handle, there⟩ := List.mem_iff_getElem?.1 member
    obtain ⟨task, found, same⟩ := keeps.task there
    have stays := wake_eq_none same (nobody found)
    rw [Function.comp_apply, stays]
  · rw [delivered]
    refine ⟨⟨keeps.forms, ?_, keeps.posts, rfl⟩, rfl⟩
    change (clients.tasks.set handle awake).map Task.core = _
    rw [List.map_set, keeps.tasks]
    obtain ⟨entry, there, same⟩ := keeps.entry found
    obtain ⟨waits, answered⟩ := wake_eq_some same wakes
    rw [orderly.map_hear reply there waits, List.map_set, answered]

/-! ## Actions -/

theorem perform_snd {α : Type} (program : Client α) (clients : Clients) :
    (clients.perform program).2 = (advance clients.tasks.length program clients).2 := by
  unfold perform
  split
  · next same => rw [same]
  · next same => rw [same]

theorem advance_isAuthenticated (handle : Nat) (clients : Clients) :
    advance handle Session.isAuthenticated clients =
      let (token, asked) := clients.callStore (.get Session.tokenKey)
      match token with
      | none => (.ended false, asked)
      | some _ =>
        let (username, asked) := asked.callStore (.get Session.usernameKey)
        (.ended username.isSome, asked) := by
  change advance handle (.step (.store (.get Session.tokenKey)) _) clients = _
  rw [advance_store]
  generalize clients.callStore (.get Session.tokenKey) = first
  obtain ⟨token, asked⟩ := first
  cases token <;> rfl

theorem advance_isAuthenticated_frame (handle : Nat) (clients : Clients) :
    (advance handle Session.isAuthenticated clients).2.posts = clients.posts ∧
      (advance handle Session.isAuthenticated clients).2.shown = clients.shown := by
  have shown := shown_callStore clients (.get Session.tokenKey)
  have posts := posts_callStore clients (.get Session.tokenKey)
  rw [advance_isAuthenticated]
  generalize clients.callStore (.get Session.tokenKey) = first at shown posts ⊢
  obtain ⟨token, asked⟩ := first
  cases token with
  | none => exact ⟨posts, by simpa [StoreCall.isChange] using shown⟩
  | some token => exact ⟨posts, by simpa [StoreCall.isChange] using shown⟩

theorem keeps_perform {α : Type} {ledger : Ledger} {clients : Clients}
    (keeps : Keeps ledger clients) (program : Client α)
    (posts : (advance clients.tasks.length program clients).2.posts = clients.posts) :
    Keeps ledger (clients.perform program).2 := by
  rw [perform_snd]
  exact keeps.of_book_eq (advance_book _ program clients) posts

theorem keeps_note {ledger : Ledger} {clients : Clients} (keeps : Keeps ledger clients)
    (event : Event) : Keeps ledger (clients.note event) :=
  keeps.of_book_eq (book_note clients event) (posts_note clients event)

theorem keeps_spawn {ledger : Ledger} {clients : Clients} (keeps : Keeps ledger clients)
    (who : Who) (errand : Errand) :
    Keeps (ledger.enter who errand) (clients.spawn who errand.job errand.program) where
  forms := keeps.forms
  tasks := by
    simp only [spawn, Ledger.enter, List.map_append, keeps.tasks]
    rfl
  posts := keeps.posts
  replies := keeps.replies

theorem keeps_form {ledger : Ledger} {clients : Clients} (keeps : Keeps ledger clients)
    (who : Who) (form : LoginForm) (count : Nat) :
    Keeps (ledger.setForm who form) (clients.setDesk who ⟨form, count⟩) where
  forms other := by
    rw [form_setDesk, keeps.forms other]
    exact (Function.update_apply ledger.forms who form other).symm
  tasks := by cases who <;> exact keeps.tasks
  posts := by cases who <;> exact keeps.posts
  replies := by cases who <;> exact keeps.replies

theorem keeps_login {ledger : Ledger} {clients : Clients} (keeps : Keeps ledger clients)
    (who : Who) :
    Keeps (ledger.act (.login who)).1 (clients.login who).2 ∧
      (clients.login who).2.shown = clients.shown := by
  have same : (clients.desk who).form = ledger.forms who := keeps.forms who
  have cleared := keeps_form keeps who .empty (clients.inFlight who + 1)
  have dispatching : Keeps (ledger.setForm who .empty) (clients.dispatching who) :=
    dispatching_cases (motive := Keeps (ledger.setForm who .empty)) clients who cleared
      fun _ entry kept => keeps_note kept (.system (.logged entry))
  have silent : (clients.dispatching who).shown = clients.shown :=
    dispatching_cases (motive := fun after => after.shown = clients.shown) clients who
      (shown_setDesk clients who _) fun before entry quiet => (shown_noteLog before entry).trans quiet
  rw [login_snd]
  refine ⟨?_, (shown_spawn _ who _ _).trans silent⟩
  simp only [Ledger.act, ← same]
  exact keeps_spawn dispatching who (.login (clients.desk who).form.take.1)

theorem keeps_release {ledger : Ledger} {clients : Clients} (keeps : Keeps ledger clients)
    {handle : Nat} {task : Task} (there : clients.tasks[handle]? = some task) :
    Keeps ledger (clients.release handle task) where
  forms := keeps.forms
  tasks := by
    have same : Task.core { task with held := false } = Task.core task := rfl
    exact (map_set_self there same).trans keeps.tasks
  posts := keeps.posts
  replies := keeps.replies

theorem keeps_poll {ledger : Ledger} {clients : Clients} (keeps : Keeps ledger clients)
    (handle : Nat) :
    Keeps ledger (clients.poll handle).2 ∧ (clients.poll handle).2.shown = clients.shown := by
  rcases poll_cases clients handle with
    same | ⟨task, there, -, ⟨result, -, polled⟩ | ⟨-, polled⟩⟩
  · rw [same]
    exact ⟨keeps, rfl⟩
  · rw [polled]
    exact ⟨keeps_release keeps there, shown_setTask clients handle _⟩
  · rw [polled]
    refine ⟨keeps_release (keeps_note keeps _) there, ?_⟩
    exact (shown_setTask _ handle _).trans (shown_noteLog clients lostEntry)

theorem keeps_drop {ledger : Ledger} {clients : Clients} (keeps : Keeps ledger clients)
    (handle : Nat) :
    Keeps ledger (clients.drop handle).2 ∧ (clients.drop handle).2.shown = clients.shown := by
  rcases drop_cases clients handle with ⟨-, same⟩ | ⟨task, there, dropped⟩
  · rw [same]
    exact ⟨keeps, rfl⟩
  · rw [dropped]
    exact ⟨keeps_release keeps there, shown_setTask clients handle _⟩

theorem keeps_call {ledger : Ledger} {clients : Clients} (keeps : Keeps ledger clients)
    (call : StoreCall) :
    Keeps ledger (clients.callStore call).2 ∧
      Leads (if call.isChange then [.order call] else []) clients (clients.callStore call).2 := by
  refine ⟨keeps.of_book_eq (book_callStore clients call) (posts_callStore clients call), ?_⟩
  cases change : call.isChange with
  | true => exact ⟨[.stored call], .single rfl, by rw [shown_callStore, change, if_pos rfl]⟩
  | false => exact .of_shown_eq (by simp [change])

theorem keeps_act {ledger : Ledger} {clients : Clients} (keeps : Keeps ledger clients)
    (orderly : ledger.Orderly) (action : Action) :
    Keeps (ledger.act action).1 (clients.act action).2 ∧
      Leads (ledger.act action).2 clients (clients.act action).2 := by
  cases action with
  | call call => exact keeps_call keeps call
  | askPath => exact ⟨keeps, .of_shown_eq rfl⟩
  | askAuthenticated =>
    obtain ⟨posts, shown⟩ := advance_isAuthenticated_frame clients.tasks.length clients
    exact ⟨keeps_perform keeps Session.isAuthenticated posts,
      .of_shown_eq ((congrArg Clients.shown (perform_snd _ clients)).trans shown)⟩
  | askUsername =>
    refine ⟨keeps_perform keeps Session.currentUsername rfl, .of_shown_eq ?_⟩
    exact (shown_callStore clients _).trans (List.append_nil _)
  | establish token username =>
    refine ⟨keeps_perform keeps (Session.establish token username) rfl,
      [.stored (Session.establishing token username)], .single rfl, ?_⟩
    exact shown_established clients token username
  | clear =>
    refine ⟨keeps_perform keeps Session.clear rfl, [.stored Session.clearing], .single rfl, ?_⟩
    exact (shown_noteLog _ _).trans (shown_callStore clients Session.clearing)
  | fill who form =>
    exact ⟨keeps_form keeps who form _, .of_shown_eq (shown_setDesk clients who _)⟩
  | login who =>
    obtain ⟨next, shown⟩ := keeps_login keeps who
    exact ⟨next, .of_shown_eq shown⟩
  | load who next => exact ⟨keeps_spawn keeps who (.load next), .of_shown_eq rfl⟩
  | logout =>
    obtain ⟨-, posts, leads⟩ := advance_logout clients.tasks.length clients
    refine ⟨keeps_perform keeps _ posts, ?_⟩
    change Leads _ _ (clients.perform Account.logout).2
    rw [perform_snd]
    exact leads
  | askInFlight who => exact ⟨keeps, .of_shown_eq rfl⟩
  | reply call reply =>
    obtain ⟨next, shown⟩ := keeps_deliver keeps orderly call reply
    exact ⟨next, .of_shown_eq shown⟩
  | poll handle =>
    obtain ⟨next, shown⟩ := keeps_poll keeps handle
    exact ⟨next, .of_shown_eq shown⟩
  | drop handle =>
    obtain ⟨next, shown⟩ := keeps_drop keeps handle
    exact ⟨next, .of_shown_eq shown⟩
  | file step => exact ⟨⟨keeps.forms, keeps.tasks, keeps.posts, keeps.replies⟩, .of_shown_eq rfl⟩
  | fault fault => exact ⟨⟨keeps.forms, keeps.tasks, keeps.posts, keeps.replies⟩, .of_shown_eq rfl⟩
  | mend action key =>
    exact ⟨⟨keeps.forms, keeps.tasks, keeps.posts, keeps.replies⟩, .of_shown_eq rfl⟩
  | secret key secret =>
    exact ⟨⟨keeps.forms, keeps.tasks, keeps.posts, keeps.replies⟩, .of_shown_eq rfl⟩

/-- Whatever moves the clients moves their ledger, and its deeds are all that shows. -/
theorem keeps_move {ledger : Ledger} {clients : Clients} (keeps : Keeps ledger clients)
    (orderly : ledger.Orderly) (move : Move) :
    Keeps (ledger.move move).1 (clients.move move) ∧
      Leads (ledger.move move).2 clients (clients.move move) := by
  cases move with
  | act action => exact keeps_act keeps orderly action
  | turn handle => exact keeps_turn keeps handle
  | takeQueue => exact ⟨⟨keeps.forms, keeps.tasks, keeps.posts, keeps.replies⟩, .of_shown_eq rfl⟩

theorem follow_keeps {ledger : Ledger} {clients : Clients} (keeps : Keeps ledger clients)
    (orderly : ledger.Orderly) (moves : List Move) :
    Keeps (ledger.follow moves).1 (clients.course moves) ∧
      Leads (ledger.follow moves).2 clients (clients.course moves) := by
  induction moves generalizing ledger clients with
  | nil => exact ⟨keeps, .of_shown_eq rfl⟩
  | cons move rest ih =>
    obtain ⟨next, leads⟩ := keeps_move keeps orderly move
    obtain ⟨last, later⟩ := ih next (orderly.move move)
    exact ⟨last, leads.trans later⟩

theorem course_keeps (machine : Machine) (store : Store) (moves : List Move) :
    let clients := (Clients.opening machine store).course moves
    let (ledger, deeds) := Ledger.opening.follow moves
    Keeps ledger clients ∧ ledger.Orderly ∧ Shown deeds clients.shown := by
  obtain ⟨keeps, events, shown, same⟩ := follow_keeps (.opening machine store) .opening moves
  refine ⟨keeps, Ledger.Orderly.opening.follow moves, ?_⟩
  have start : (Clients.opening machine store).shown = [] := rfl
  rw [start, List.nil_append] at same
  rw [same]
  exact shown

/-! ## Dispatches -/

def dispatch? (clients : Clients) : Move → Option (Who × Errand)
  | .act (.login who) => some (who, .login (clients.desk who).form.take.1)
  | .act (.load who next) => some (who, .load next)
  | _ => none

/-- The errands that a course dispatches. A handle is the place of an errand in this list. -/
def dispatches (clients : Clients) : List Move → List (Who × Errand)
  | [] => []
  | move :: rest => (clients.dispatch? move).toList ++ dispatches (clients.move move) rest

def Ledger.errands (ledger : Ledger) : List (Who × Errand) :=
  ledger.entries.map fun entry => (entry.who, entry.errand)

theorem errands_advanceTo {ledger : Ledger} {handle : Nat} {entry : Entry} (posts : Nat)
    (stage : Stage) (found : ledger.entries[handle]? = some entry) :
    (({ ledger with posts } : Ledger).advanceTo handle entry stage).errands = ledger.errands := by
  obtain ⟨within, rfl⟩ := List.getElem?_eq_some_iff.1 found
  unfold Ledger.errands Ledger.advanceTo
  have same := List.map_set (f := fun entry : Entry => (entry.who, entry.errand))
    (l := ledger.entries) (i := handle) (a := ledger.entries[handle])
  rw [List.set_getElem_self] at same
  rw [List.map_set]
  exact same.symm

theorem errands_turn (ledger : Ledger) (handle : Nat) :
    (ledger.turn handle).1.errands = ledger.errands := by
  have turned := ledger.turned handle
  generalize ledger.turn handle = after at turned ⊢
  cases turned with
  | passed => rfl
  | posted found => exact errands_advanceTo _ _ found
  | finished found => exact errands_advanceTo _ _ found
  | concluded found => exact errands_advanceTo ledger.posts _ found

theorem errands_deliver (ledger : Ledger) (call : Nat) (reply : Reply) :
    (ledger.deliver call reply).errands = ledger.errands := by
  unfold Ledger.deliver
  split
  · rfl
  · exact List.map_map

theorem errands_move {ledger : Ledger} {clients : Clients} (keeps : Keeps ledger clients)
    (move : Move) :
    (ledger.move move).1.errands = ledger.errands ++ (clients.dispatch? move).toList := by
  have nothing : ledger.errands = ledger.errands ++ [] := (List.append_nil _).symm
  cases move with
  | turn handle => exact (errands_turn ledger handle).trans nothing
  | takeQueue => exact nothing
  | act action =>
    cases action with
    | login who =>
      have form := keeps.forms who
      rw [Ledger.move, Ledger.act, dispatch?, LoginForm.take_request, form]
      exact List.map_append
    | load who next => exact List.map_append
    | reply call reply => exact (errands_deliver ledger call reply).trans nothing
    | _ => exact nothing

theorem errands_follow {ledger : Ledger} {clients : Clients} (keeps : Keeps ledger clients)
    (orderly : ledger.Orderly) (moves : List Move) :
    (ledger.follow moves).1.errands = ledger.errands ++ clients.dispatches moves := by
  induction moves generalizing ledger clients with
  | nil => exact (List.append_nil _).symm
  | cons move rest ih =>
    obtain ⟨next, -⟩ := keeps_move keeps orderly move
    have later := ih next (orderly.move move)
    rw [errands_move keeps move, List.append_assoc] at later
    exact later

theorem errands_course (machine : Machine) (store : Store) (moves : List Move) :
    (Ledger.opening.follow moves).1.errands =
      (Clients.opening machine store).dispatches moves :=
  errands_follow (.opening machine store) .opening moves

end PracticeClient.Clients
