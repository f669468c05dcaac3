import PracticeClient.Proofs.Client.Notices
import PracticeClient.Proofs.Client.Overlaps

namespace PracticeClient.Clients

/-! ## Happenings -/

/-- Comes to grief after so many operations, unless it has ended by then. -/
def cutShort {α : Type} : Nat → Client α → Client α
  | 0, _ => Client.abort
  | _ + 1, .done result => .done result
  | count + 1, .step effect next => .step effect fun answer => cutShort count (next answer)

def Progress.cutShort {α : Type} (count : Nat) : Progress α → Progress α
  | .ready program => .ready (Clients.cutShort count program)
  | .waiting call next => .waiting call fun answer => Clients.cutShort count (next answer)
  | .ended result => .ended result
  | .died => .died

/-- Besides their moves, a task may be bound to come to grief in its next turn, and whoever runs the
tasks may give one up. -/
inductive Happening where
  | move (move : Move)
  | doom (handle count : Nat)
  | giveUp (handle : Nat)

def doom (handle count : Nat) (clients : Clients) : Clients :=
  match clients.tasks[handle]? with
  | none => clients
  | some task =>
    clients.setTask handle { task with progress := Progress.cutShort count task.progress }

def giveUp (handle : Nat) (clients : Clients) : Clients :=
  match clients.tasks[handle]? with
  | none => clients
  | some task =>
    if Progress.isOver task.progress then clients
    else (clients.landed task .died).setTask handle { task with progress := .died }

def happen (clients : Clients) : Happening → Clients
  | .move move => clients.move move
  | .doom handle count => clients.doom handle count
  | .giveUp handle => clients.giveUp handle

def history (clients : Clients) (happenings : List Happening) : Clients :=
  happenings.foldl happen clients

theorem doom_cases (clients : Clients) (handle count : Nat) :
    clients.doom handle count = clients ∨
      ∃ task, clients.tasks[handle]? = some task ∧
        clients.doom handle count =
          clients.setTask handle { task with progress := Progress.cutShort count task.progress } := by
  unfold doom
  cases clients.tasks[handle]? with
  | none => exact .inl rfl
  | some task => exact .inr ⟨task, rfl, rfl⟩

theorem giveUp_cases (clients : Clients) (handle : Nat) :
    clients.giveUp handle = clients ∨
      ∃ task, clients.tasks[handle]? = some task ∧ Progress.isOver task.progress = false ∧
        clients.giveUp handle =
          (clients.landed task .died).setTask handle { task with progress := .died } := by
  unfold giveUp
  cases clients.tasks[handle]? with
  | none => exact .inl rfl
  | some task =>
    cases gone : Progress.isOver task.progress with
    | true => exact .inl (by simp [gone])
    | false => exact .inr ⟨task, rfl, gone, by simp [gone]⟩

def Happening.dispatched? : Happening → Option (Who × Job)
  | .move (.act (.login who)) => some (who, .login)
  | .move (.act (.load who _)) => some (who, .submissions)
  | _ => none

/-! ## Tasks and counts -/

structure Standing where
  who : Who
  job : Job
  isOver : Bool
  deriving DecidableEq

def Task.standing (task : Task) : Standing :=
  ⟨task.who, task.job, Progress.isOver task.progress⟩

def standings (clients : Clients) : List Standing :=
  clients.tasks.map Task.standing

def Task.isPending (who : Who) (task : Task) : Bool :=
  Task.standing task = ⟨who, .login, false⟩

def pending (clients : Clients) (who : Who) : Nat :=
  clients.tasks.countP (Task.isPending who)

def one (who : Who) (job : Job) (other : Who) : Nat :=
  if job = .login ∧ other = who then 1 else 0

/-- What one happening does to the tasks and to the counts: a task is dispatched, or one comes to
its end, or neither. -/
inductive Turn (before after : Clients) : Option (Who × Job) → Prop where
  | steady (same : after.standings = before.standings)
      (counts : ∀ who, after.inFlight who = before.inFlight who) : Turn before after none
  | spawned {who : Who} {job : Job}
      (more : after.standings = before.standings ++ [⟨who, job, false⟩])
      (counts : ∀ other, after.inFlight other = before.inFlight other + one who job other) :
      Turn before after (some (who, job))
  | landed {handle : Nat} {who : Who} {job : Job}
      (found : before.standings[handle]? = some ⟨who, job, false⟩)
      (gone : after.standings = before.standings.set handle ⟨who, job, true⟩)
      (counts : ∀ other, after.inFlight other = before.inFlight other - one who job other) :
      Turn before after none

theorem one_eq (who : Who) (job : Job) (other : Who) :
    (if ((⟨who, job, false⟩ : Standing) == ⟨other, .login, false⟩) = true then 1 else 0) =
      one who job other := by
  cases who <;> cases job <;> cases other <;> rfl

theorem pending_eq (clients : Clients) (who : Who) :
    clients.pending who = clients.standings.count ⟨who, .login, false⟩ := by
  rw [pending, standings, List.count, List.countP_map]
  refine List.countP_congr fun task _ => ?_
  simp [Task.isPending]

theorem standings_getElem? (clients : Clients) (handle : Nat) :
    clients.standings[handle]? = (clients.tasks[handle]?).map Task.standing :=
  List.getElem?_map

theorem standings_setTask (clients : Clients) (handle : Nat) (task : Task) :
    (clients.setTask handle task).standings = clients.standings.set handle (Task.standing task) :=
  List.map_set

theorem standings_setTask_self {clients : Clients} {handle : Nat} {task other : Task}
    (found : clients.tasks[handle]? = some task) (same : Task.standing other = Task.standing task) :
    (clients.setTask handle other).standings = clients.standings :=
  map_set_self found same

theorem inFlight_setDesk (clients : Clients) (who other : Who) (desk : Desk) :
    (clients.setDesk who desk).inFlight other =
      if other = who then desk.inFlight else clients.inFlight other := by
  cases who <;> cases other <;> rfl

theorem inFlight_setTask (clients : Clients) (handle : Nat) (task : Task) (who : Who) :
    (clients.setTask handle task).inFlight who = clients.inFlight who := by
  cases who <;> rfl

theorem inFlight_landed (clients : Clients) (task : Task) {progress : Progress TaskResult}
    (gone : Progress.isOver progress = true) (other : Who) :
    (clients.landed task progress).inFlight other =
      clients.inFlight other - one task.who task.job other := by
  unfold landed one
  cases task.job with
  | submissions => simp
  | login =>
    rw [if_pos gone, inFlight_setDesk]
    by_cases same : other = task.who
    · subst same
      simp [inFlight]
    · simp [same]

theorem landed_of_running (clients : Clients) (task : Task) {progress : Progress TaskResult}
    (running : Progress.isOver progress = false) : clients.landed task progress = clients := by
  unfold landed
  cases task.job with
  | submissions => rfl
  | login => rw [if_neg (by simp [running])]

theorem standings_landed (clients : Clients) (task : Task) (progress : Progress TaskResult) :
    (clients.landed task progress).standings = clients.standings :=
  congrArg (List.map Task.standing) (landed_frame clients task progress).2.1

theorem turn_landed {before after : Clients} {handle : Nat} {task : Task}
    (found : before.tasks[handle]? = some task) (running : Progress.isOver task.progress = false)
    (tasks : after.tasks = before.tasks) (counts : ∀ who, after.inFlight who = before.inFlight who)
    {progress : Progress TaskResult} (gone : Progress.isOver progress = true) :
    Turn before ((after.landed task progress).setTask handle { task with progress }) none := by
  have there : before.standings[handle]? = some ⟨task.who, task.job, false⟩ := by
    rw [standings_getElem?, found, Option.map_some, Task.standing, running]
  refine .landed there ?_ ?_
  · rw [standings_setTask, standings_landed, Task.standing, gone, standings, tasks]
    rfl
  · intro other
    rw [inFlight_setTask, inFlight_landed _ _ gone, counts]

/-! ## What most actions leave alone -/

structure Rests (before after : Clients) : Prop where
  tasks : after.tasks.map Task.core = before.tasks.map Task.core
  counts : ∀ who, after.inFlight who = before.inFlight who
  posts : before.posts ≤ after.posts
  replies : after.replies = before.replies
  overlaps : after.overlaps = before.overlaps

theorem posts_advance {α : Type} (handle : Nat) (program : Client α) (clients : Clients) :
    clients.posts ≤ (advance handle program clients).2.posts := by
  induction program generalizing clients with
  | done result => exact Nat.le_refl _
  | step effect next ih =>
    cases effect with
    | store call => exact ih _ (clients.callStore call).2
    | notify notification => exact ih _ (clients.note (.notified notification))
    | log entry => exact ih _ (clients.noteLog entry)
    | complete => exact ih _ (clients.note (.completed handle))
    | abort => exact Nat.le_refl _
    | post endpoint body =>
      rw [advance_post]
      cases clients.replies.lookup clients.posts with
      | none => exact Nat.le_succ _
      | some reply =>
        cases reply with
        | die => exact Nat.le_succ _
        | answer answer => exact Nat.le_trans (Nat.le_succ _) (ih answer (clients.sent endpoint body))

namespace Rests

theorem refl (clients : Clients) : Rests clients clients :=
  ⟨rfl, fun _ => rfl, Nat.le_refl _, rfl, rfl⟩

theorem perform {α : Type} (clients : Clients) (program : Client α) (quiet : Client.Quiet program) :
    Rests clients (clients.perform program).2 := by
  rw [perform_snd]
  exact {
    tasks := congrArg (List.map Task.core) (advance_tasks _ program clients)
    counts := fun who => congrArg Desk.inFlight (advance_desk _ program clients who)
    posts := posts_advance _ program clients
    replies := advance_replies _ program clients
    overlaps := (overlaps_advance _ quiet clients).1 }

theorem release {clients : Clients} {handle : Nat} {task : Task}
    (found : clients.tasks[handle]? = some task) :
    Rests clients (clients.release handle task) := by
  have same : Task.core { task with held := false } = Task.core task := rfl
  exact ⟨map_set_self found same, fun who => inFlight_setTask _ _ _ who, Nat.le_refl _, rfl, rfl⟩

theorem poll (clients : Clients) (handle : Nat) : Rests clients (clients.poll handle).2 := by
  rcases poll_cases clients handle with
    same | ⟨task, found, -, ⟨result, -, polled⟩ | ⟨-, polled⟩⟩
  · rw [same]
    exact refl clients
  · rw [polled]
    exact release found
  · rw [polled]
    have logged : (clients.noteLog lostEntry).tasks[handle]? = some task := found
    have released := release logged
    exact { released with
      overlaps := released.overlaps.trans (overlaps_note clients rfl) }

theorem drop (clients : Clients) (handle : Nat) : Rests clients (clients.drop handle).2 := by
  rcases drop_cases clients handle with ⟨-, same⟩ | ⟨task, found, dropped⟩
  · rw [same]
    exact refl clients
  · rw [dropped]
    exact release found

theorem call (clients : Clients) (call : StoreCall) : Rests clients (clients.callStore call).2 :=
  ⟨rfl, fun _ => rfl, Nat.le_refl _, rfl, overlaps_callStore clients call⟩

theorem fill (clients : Clients) (who : Who) (form : LoginForm) :
    Rests clients (clients.setDesk who { clients.desk who with form }) := by
  refine ⟨?_, ?_, ?_, ?_, overlaps_setDesk clients who _⟩
  · cases who <;> rfl
  · intro other
    rw [inFlight_setDesk]
    split
    · next same => rw [same]; rfl
    · rfl
  · cases who <;> exact Nat.le_refl _
  · cases who <;> rfl

end Rests

def Action.isAside : Action → Bool
  | .login _ => false
  | .load _ _ => false
  | .reply _ _ => false
  | _ => true

theorem rests_act (clients : Clients) {action : Action} (aside : action.isAside = true) :
    Rests clients (clients.act action).2 := by
  cases action with
  | login who => cases aside
  | load who next => cases aside
  | reply call reply => cases aside
  | call call => exact .call clients call
  | askAuthenticated =>
    refine .perform clients Session.isAuthenticated ⟨trivial, ?_⟩
    intro token
    cases token with
    | none => trivial
    | some token => exact ⟨trivial, fun _ => trivial⟩
  | askUsername => exact .perform clients Session.currentUsername ⟨trivial, fun _ => trivial⟩
  | establish token username =>
    exact .perform clients (Session.establish token username)
      ⟨trivial, fun _ => ⟨rfl, fun _ => trivial⟩⟩
  | clear => exact .perform clients Session.clear ⟨trivial, fun _ => ⟨rfl, fun _ => trivial⟩⟩
  | logout => exact .perform clients Account.logout Account.quiet_logout
  | fill who form => exact .fill clients who form
  | poll handle => exact .poll clients handle
  | drop handle => exact .drop clients handle
  | _ => exact ⟨rfl, fun _ => rfl, Nat.le_refl _, rfl, rfl⟩

theorem Rests.turn {before after : Clients} (rests : Rests before after) :
    Turn before after none := by
  refine .steady ?_ rests.counts
  have same := congrArg (List.map fun core : Who × Job × Progress TaskResult =>
    (⟨core.1, core.2.1, Progress.isOver core.2.2⟩ : Standing)) rests.tasks
  rw [List.map_map, List.map_map] at same
  exact same

/-! ## One happening -/

theorem turn_run (clients : Clients) (handle : Nat) : Turn clients (clients.run handle) none := by
  rcases run_cases clients handle with ⟨same, -⟩ | ⟨task, program, found, progress⟩
  · rw [same]
    exact .steady rfl fun _ => rfl
  · have running : Progress.isOver task.progress = false := by rw [progress]; rfl
    have tasks := advance_tasks handle program clients
    have counts who : (advance handle program clients).2.inFlight who = clients.inFlight who :=
      congrArg Desk.inFlight (advance_desk handle program clients who)
    rw [run_of_ready found progress]
    cases gone : Progress.isOver (advance handle program clients).1 with
    | true => exact turn_landed found running tasks counts gone
    | false =>
      rw [landed_of_running _ _ gone]
      refine .steady ?_ fun who => (inFlight_setTask _ _ _ who).trans (counts who)
      have there := found
      rw [← tasks] at there
      rw [standings_setTask_self there (by simp only [Task.standing, gone, running])]
      exact congrArg (List.map Task.standing) tasks

theorem turn_spawn {clients after : Clients} (tasks : after.tasks = clients.tasks) (who : Who)
    (job : Job) (program : Client TaskResult)
    (counts : ∀ other, after.inFlight other = clients.inFlight other + one who job other) :
    Turn clients (after.spawn who job program) (some (who, job)) := by
  refine .spawned ?_ counts
  change (after.tasks ++ [_]).map Task.standing = _
  rw [tasks, List.map_append]
  rfl

theorem turn_login (clients : Clients) (who : Who) :
    Turn clients (clients.login who).2 (some (who, .login)) := by
  rw [login_snd]
  refine turn_spawn (dispatching_tasks clients who) who .login _ fun other => ?_
  refine dispatching_cases (motive := fun after => after.inFlight other =
    clients.inFlight other + one who .login other) clients who ?_ fun _ _ same => same
  rw [inFlight_setDesk, one]
  by_cases same : other = who
  · simp [same]
  · simp [same]

theorem standing_of_wake {call : Nat} {reply : Reply} {task awake : Task}
    (wakes : Task.wake call reply task = some awake) : Task.standing awake = Task.standing task := by
  unfold Task.wake at wakes
  cases progress : task.progress with
  | waiting waited next =>
    simp only [progress] at wakes
    split at wakes
    · cases reply <;> cases wakes <;> simp [Task.standing, progress, Progress.isOver]
    · cases wakes
  | _ => simp [progress] at wakes

theorem turn_deliver (clients : Clients) (call : Nat) (reply : Reply) :
    Turn clients (clients.deliver call reply).2 none := by
  rcases deliver_cases clients call reply with
    ⟨-, delivered⟩ | ⟨-, ⟨-, delivered⟩ | ⟨handle, asleep, awake, found, wakes, delivered⟩⟩
  · rw [delivered]
    exact .steady rfl fun _ => rfl
  · rw [delivered]
    exact .steady rfl fun _ => rfl
  · rw [delivered]
    exact .steady (standings_setTask_self found (standing_of_wake wakes)) fun _ => rfl

theorem turn_doom (clients : Clients) (handle count : Nat) :
    Turn clients (clients.doom handle count) none := by
  rcases doom_cases clients handle count with same | ⟨task, found, doomed⟩
  · rw [same]
    exact .steady rfl fun _ => rfl
  · rw [doomed]
    refine .steady (standings_setTask_self found ?_) fun who => inFlight_setTask _ _ _ who
    cases progress : task.progress <;> simp only [Task.standing, progress] <;> rfl

theorem turn_giveUp (clients : Clients) (handle : Nat) :
    Turn clients (clients.giveUp handle) none := by
  rcases giveUp_cases clients handle with same | ⟨task, found, running, given⟩
  · rw [same]
    exact .steady rfl fun _ => rfl
  · rw [given]
    exact turn_landed found running rfl (fun _ => rfl) rfl

theorem turn_happen (clients : Clients) (happening : Happening) :
    Turn clients (clients.happen happening) happening.dispatched? := by
  cases happening with
  | doom handle count => exact turn_doom clients handle count
  | giveUp handle => exact turn_giveUp clients handle
  | move move =>
    cases move with
    | turn handle => exact turn_run clients handle
    | takeQueue => exact .steady rfl fun _ => rfl
    | act action =>
      cases action with
      | login who => exact turn_login clients who
      | load who next => exact turn_spawn rfl who .submissions _ fun _ => rfl
      | reply call reply => exact turn_deliver clients call reply
      | _ => exact (rests_act clients rfl).turn

/-! ## What a turn does to a count -/

def Ends (before after : Clients) (who : Who) (handle : Nat) : Prop :=
  before.standings[handle]? = some ⟨who, .login, false⟩ ∧
    after.standings[handle]? = some ⟨who, .login, true⟩

def Falls (before after : Clients) (who : Who) : Prop :=
  ((∃! handle, Ends before after who handle) ∧
      before.inFlight who = after.inFlight who + 1) ∨
    ((∀ handle, ¬Ends before after who handle) ∧ after.inFlight who = before.inFlight who)

def Balanced (clients : Clients) : Prop :=
  ∀ who, clients.inFlight who = clients.pending who

namespace Turn

variable {before after : Clients} {dispatch : Option (Who × Job)}

theorem balanced (turn : Turn before after dispatch) (balanced : Balanced before) :
    Balanced after := by
  intro other
  have start := balanced other
  rw [pending_eq] at start ⊢
  cases turn with
  | steady same counts => rw [counts, same, start]
  | spawned more counts =>
    rw [counts, more, List.count_append, start, List.count_singleton, one_eq]
  | @landed handle who job found gone counts =>
    obtain ⟨within, here⟩ := List.getElem?_eq_some_iff.1 found
    have ended : ((⟨who, job, true⟩ : Standing) == ⟨other, .login, false⟩) = false := by simp
    rw [counts, gone, List.count_set within, here, start, one_eq, ended]
    rfl

theorem falls (turn : Turn before after dispatch) (other : ∀ who, dispatch ≠ some (who, .login))
    (balanced : Balanced before) (who : Who) : Falls before after who := by
  have unended {handle : Nat} (same : ∀ standing, before.standings[handle]? = some standing →
      after.standings[handle]? = some standing) : ¬Ends before after who handle := by
    rintro ⟨running, gone⟩
    rw [same _ running] at gone
    cases gone
  cases turn with
  | steady same counts => exact .inr ⟨fun handle => unended fun _ there => same ▸ there, counts who⟩
  | @spawned dispatcher job more counts =>
    refine .inr ⟨fun handle => unended fun standing there => ?_, ?_⟩
    · obtain ⟨within, -⟩ := List.getElem?_eq_some_iff.1 there
      rw [more, List.getElem?_append_left within, there]
    · have load : job ≠ .login := by
        rintro rfl
        exact other dispatcher rfl
      rw [counts who, one, if_neg fun both => load both.1, Nat.add_zero]
  | @landed handle owner job found gone counts =>
    -- No other task has moved, so no other login can have come to its end.
    have only {another : Nat} (ends : Ends before after who another) : another = handle := by
      by_contra differs
      refine unended (fun standing there => ?_) ends
      rw [gone, List.getElem?_set_ne (Ne.symm differs), there]
    by_cases mine : job = .login ∧ who = owner
    · obtain ⟨rfl, rfl⟩ := mine
      obtain ⟨within, -⟩ := List.getElem?_eq_some_iff.1 found
      have here : Ends before after who handle :=
        ⟨found, by rw [gone, List.getElem?_set_self within]⟩
      refine .inl ⟨⟨handle, here, fun another => only⟩, ?_⟩
      have positive : 0 < before.inFlight who := by
        rw [balanced who, pending_eq]
        exact List.count_pos_iff.2 (List.mem_of_getElem? found)
      have falls := counts who
      simp only [one, and_self, if_true] at falls
      omega
    · refine .inr ⟨fun another ends => ?_, by rw [counts who, one, if_neg mine, Nat.sub_zero]⟩
      have running := ends.1
      rw [only ends, found] at running
      cases running
      exact mine ⟨rfl, rfl⟩

theorem stays_over (turn : Turn before after dispatch) {handle : Nat} {who : Who} {job : Job}
    (gone : before.standings[handle]? = some ⟨who, job, true⟩) :
    after.standings[handle]? = some ⟨who, job, true⟩ := by
  cases turn with
  | steady same => rw [same, gone]
  | spawned more =>
    obtain ⟨within, -⟩ := List.getElem?_eq_some_iff.1 gone
    rw [more, List.getElem?_append_left within, gone]
  | @landed ended other job' found set =>
    rw [set, List.getElem?_set]
    by_cases same : ended = handle
    · rw [same, gone] at found
      cases found
    · rw [if_neg same, gone]

theorem dispatched (turn : Turn before after dispatch) :
    (after.standings.map fun standing => (standing.who, standing.job)) =
      (before.standings.map fun standing => (standing.who, standing.job)) ++ dispatch.toList := by
  cases turn with
  | steady same => rw [same]; exact (List.append_nil _).symm
  | spawned more => rw [more, List.map_append]; rfl
  | @landed handle who job found set =>
    have same : (⟨who, job, true⟩ : Standing).who = who ∧
        (⟨who, job, true⟩ : Standing).job = job := ⟨rfl, rfl⟩
    rw [set, map_set_self found (Prod.ext same.1 same.2)]
    exact (List.append_nil _).symm

end Turn

end PracticeClient.Clients
