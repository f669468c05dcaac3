import Mathlib.Data.List.Induction
import PracticeClient.Proofs.Client.Happenings

namespace PracticeClient.Clients

/-! ## Who waits for what -/

def progresses (clients : Clients) : List (Progress TaskResult) :=
  clients.tasks.map Task.progress

def Progress.awaited? {α : Type} : Progress α → Option Nat
  | .waiting call _ => some call
  | _ => none

def awaited? (clients : Clients) (handle : Nat) : Option Nat :=
  (clients.progresses[handle]?).bind Progress.awaited?

theorem awaited?_of_task {clients : Clients} {handle : Nat} {task : Task}
    (found : clients.tasks[handle]? = some task) :
    clients.awaited? handle = Progress.awaited? task.progress := by
  rw [awaited?, progresses, List.getElem?_map, found]
  rfl

theorem task_of_awaited {clients : Clients} {handle call : Nat}
    (waits : clients.awaited? handle = some call) :
    ∃ task next, clients.tasks[handle]? = some task ∧ task.progress = .waiting call next := by
  rw [awaited?, progresses, List.getElem?_map] at waits
  obtain ⟨progress, found, waits⟩ := Option.bind_eq_some_iff.1 waits
  obtain ⟨task, there, rfl⟩ := Option.map_eq_some_iff.1 found
  cases progress : task.progress with
  | waiting waited next =>
    rw [progress] at waits
    cases waits
    exact ⟨task, next, there, progress⟩
  | _ => rw [progress] at waits; cases waits

theorem awaited?_setTask {clients : Clients} {handle : Nat} {task : Task}
    (found : clients.tasks[handle]? = some task) (changed : Task) (other : Nat) :
    (clients.setTask handle changed).awaited? other =
      if other = handle then Progress.awaited? changed.progress else clients.awaited? other := by
  obtain ⟨within, -⟩ := List.getElem?_eq_some_iff.1 found
  rw [awaited?, progresses, setTask, List.getElem?_map, List.getElem?_set]
  by_cases same : handle = other
  · subst same
    simp [within]
  · rw [if_neg same, if_neg (Ne.symm same), awaited?, progresses, List.getElem?_map]

theorem awaited?_spawn (clients : Clients) (who : Who) (job : Job) (program : Client TaskResult)
    {handle call : Nat} (waits : (clients.spawn who job program).awaited? handle = some call) :
    clients.awaited? handle = some call := by
  rw [awaited?, progresses, spawn, List.map_append] at waits
  by_cases earlier : handle < (clients.tasks.map Task.progress).length
  · rwa [List.getElem?_append_left earlier] at waits
  · rw [List.getElem?_append_right (Nat.le_of_not_lt earlier)] at waits
    cases past : handle - (clients.tasks.map Task.progress).length with
    | zero => rw [past] at waits; cases waits
    | succ _ => rw [past] at waits; cases waits

theorem awaits_of_wake {call : Nat} {reply : Reply} {task awake : Task}
    (wakes : Task.wake call reply task = some awake) :
    Progress.awaited? task.progress = some call ∧ Progress.awaited? awake.progress = none := by
  unfold Task.wake at wakes
  cases progress : task.progress with
  | waiting waited next =>
    simp only [progress] at wakes
    split at wakes
    · next same =>
      subst same
      cases reply <;> cases wakes <;> exact ⟨rfl, rfl⟩
    · cases wakes
  | _ => simp [progress] at wakes

theorem wakes_of_waiting {call : Nat} {task : Task} {next : ServerAnswer → Client TaskResult}
    (waits : task.progress = .waiting call next) (reply : Reply) :
    Task.wake call reply task ≠ none := by
  cases reply <;> simp [Task.wake, waits]

structure Attentive (clients : Clients) : Prop where
  made : ∀ {handle call}, clients.awaited? handle = some call → call < clients.posts
  silent : ∀ {handle call}, clients.awaited? handle = some call →
    clients.replies.lookup call = none
  apart : ∀ {handle other call}, clients.awaited? handle = some call →
    clients.awaited? other = some call → handle = other

theorem awaited?_advance {α : Type} (handle : Nat) (program : Client α) (clients : Clients)
    {call : Nat} (waits : Progress.awaited? (advance handle program clients).1 = some call) :
    clients.posts ≤ call ∧ call < (advance handle program clients).2.posts ∧
      clients.replies.lookup call = none := by
  induction program generalizing clients with
  | done result => cases waits
  | step effect next ih =>
    cases effect with
    | store store => exact ih _ (clients.callStore store).2 waits
    | notify notification => exact ih _ (clients.note (.notified notification)) waits
    | log entry => exact ih _ (clients.noteLog entry) waits
    | complete => exact ih _ (clients.note (.completed handle)) waits
    | abort => cases waits
    | post endpoint body =>
      rw [advance_post] at waits ⊢
      cases silent : clients.replies.lookup clients.posts with
      | none =>
        rw [silent] at waits
        cases waits
        exact ⟨Nat.le_refl _, Nat.lt_succ_self _, silent⟩
      | some reply =>
        rw [silent] at waits
        cases reply with
        | die => cases waits
        | answer answer =>
          obtain ⟨from', below, none⟩ := ih answer (clients.sent endpoint body) waits
          exact ⟨Nat.le_trans (Nat.le_succ _) from', below, none⟩

namespace Attentive

variable {clients : Clients}

theorem opening (machine : Machine) (store : Store) : Attentive (Clients.opening machine store) :=
  ⟨nofun, nofun, nofun⟩

theorem of_awaited {after : Clients} (attentive : Attentive clients) (mine : Nat)
    (posts : clients.posts ≤ after.posts) (replies : after.replies = clients.replies)
    (waits : ∀ {handle call}, after.awaited? handle = some call →
      clients.awaited? handle = some call ∨
        handle = mine ∧ clients.posts ≤ call ∧ call < after.posts ∧
          clients.replies.lookup call = none) : Attentive after := by
  refine ⟨fun {handle call} now => ?_, fun {handle call} now => ?_,
    fun {handle other call} now also => ?_⟩
  · rcases waits now with before | ⟨-, -, below, -⟩
    · exact Nat.lt_of_lt_of_le (attentive.made before) posts
    · exact below
  · rw [replies]
    rcases waits now with before | ⟨-, -, -, silent⟩
    · exact attentive.silent before
    · exact silent
  · rcases waits now with before | ⟨same, above, -⟩ <;>
      rcases waits also with before' | ⟨same', above', -⟩
    · exact attentive.apart before before'
    · exact absurd (attentive.made before) (Nat.not_lt.2 above')
    · exact absurd (attentive.made before') (Nat.not_lt.2 above)
    · exact same.trans same'.symm

theorem of_rests {after : Clients} (attentive : Attentive clients) (rests : Rests clients after) :
    Attentive after := by
  have same : after.progresses = clients.progresses := by
    have cores := congrArg (List.map fun core : Who × Job × Progress TaskResult => core.2.2)
      rests.tasks
    rwa [List.map_map, List.map_map] at cores
  refine attentive.of_awaited 0 rests.posts rests.replies fun waits => .inl ?_
  rwa [awaited?, same] at waits

theorem spawn (attentive : Attentive clients) (who : Who) (job : Job)
    (program : Client TaskResult) : Attentive (clients.spawn who job program) :=
  attentive.of_awaited 0 (Nat.le_refl _) rfl fun waits => .inl (awaited?_spawn _ _ _ _ waits)

theorem setTask (attentive : Attentive clients) {handle : Nat} {task changed : Task}
    (found : clients.tasks[handle]? = some task)
    (waits : ∀ call, Progress.awaited? changed.progress = some call →
      Progress.awaited? task.progress = some call) :
    Attentive (clients.setTask handle changed) := by
  refine attentive.of_awaited 0 (Nat.le_refl _) rfl fun {other call} now => .inl ?_
  rw [awaited?_setTask found] at now
  split at now
  · next same =>
    rw [same, awaited?_of_task found]
    exact waits call now
  · exact now

theorem run (attentive : Attentive clients) (handle : Nat) : Attentive (clients.run handle) := by
  rcases run_cases clients handle with ⟨same, -⟩ | ⟨task, program, found, progress⟩
  · rwa [same]
  · have there : ((advance handle program clients).2.landed task
        (advance handle program clients).1).tasks[handle]? = some task := by
      rw [(landed_frame _ _ _).2.1, advance_tasks, found]
    obtain ⟨-, tasks, posts, replies, -⟩ := landed_frame (advance handle program clients).2 task
      (advance handle program clients).1
    rw [run_of_ready found progress]
    refine attentive.of_awaited handle ?_ (replies.trans (advance_replies handle program clients))
      fun {other call} now => ?_
    · exact Nat.le_trans (posts_advance handle program clients) (Nat.le_of_eq posts.symm)
    · rw [awaited?_setTask there] at now
      split at now
      · next same =>
        obtain ⟨above, below, silent⟩ := awaited?_advance handle program clients now
        exact .inr ⟨same, above, Nat.lt_of_lt_of_eq below posts.symm, silent⟩
      · rw [awaited?, progresses, tasks, advance_tasks] at now
        exact .inl now

theorem answered (attentive : Attentive clients) {after : Clients} {call : Nat} {reply : Reply}
    (posts : after.posts = clients.posts)
    (replies : after.replies = clients.replies ++ [(call, reply)])
    (waits : ∀ {handle waited}, after.awaited? handle = some waited →
      clients.awaited? handle = some waited ∧ waited ≠ call) : Attentive after := by
  refine ⟨fun now => ?_, fun {handle waited} now => ?_, fun now also => ?_⟩
  · rw [posts]
    exact attentive.made (waits now).1
  · rw [replies, lookup_snoc, attentive.silent (waits now).1, if_neg (waits now).2]
    rfl
  · exact attentive.apart (waits now).1 (waits also).1

theorem deliver (attentive : Attentive clients) (call : Nat) (reply : Reply) :
    Attentive (clients.deliver call reply).2 := by
  rcases deliver_cases clients call reply with
    ⟨-, delivered⟩ | ⟨-, ⟨nobody, delivered⟩ | ⟨mine, asleep, awake, there, wakes, delivered⟩⟩
  · rw [delivered]
    exact attentive
  · rw [delivered]
    refine attentive.answered rfl rfl fun {handle waited} now => ⟨now, ?_⟩
    rintro rfl
    obtain ⟨task, next, there, progress⟩ := task_of_awaited now
    exact wakes_of_waiting progress reply (nobody there)
  · rw [delivered]
    obtain ⟨waited, awakes⟩ := awaits_of_wake wakes
    have listens : clients.awaited? mine = some call := (awaited?_of_task there).trans waited
    refine attentive.answered rfl rfl fun {handle waited} now => ?_
    change (clients.setTask mine awake).awaited? handle = some waited at now
    rw [awaited?_setTask there, awakes] at now
    split at now
    · cases now
    · next apart =>
      refine ⟨now, ?_⟩
      rintro rfl
      exact apart (attentive.apart now listens)

theorem doom (attentive : Attentive clients) (handle count : Nat) :
    Attentive (clients.doom handle count) := by
  rcases doom_cases clients handle count with same | ⟨task, found, doomed⟩
  · rwa [same]
  · rw [doomed]
    refine attentive.setTask found fun call waits => ?_
    cases progress : task.progress with
    | waiting waited next =>
      simp only [progress] at waits
      exact waits
    | _ => simp only [progress] at waits; cases waits

theorem giveUp (attentive : Attentive clients) (handle : Nat) :
    Attentive (clients.giveUp handle) := by
  rcases giveUp_cases clients handle with same | ⟨task, found, -, given⟩
  · rwa [same]
  · rw [given]
    obtain ⟨-, tasks, posts, replies, -⟩ := landed_frame clients task .died
    have landed : Attentive (clients.landed task .died) := by
      refine attentive.of_awaited 0 (Nat.le_of_eq posts.symm) replies fun waits => .inl ?_
      rwa [awaited?, progresses, tasks] at waits
    exact landed.setTask (tasks ▸ found) nofun

theorem login (attentive : Attentive clients) (who : Who) : Attentive (clients.login who).2 := by
  rw [login_snd]
  refine spawn ?_ who .login _
  refine dispatching_cases (motive := Attentive) clients who ?_
    fun _ _ before => ⟨before.made, before.silent, before.apart⟩
  cases who <;> exact ⟨attentive.made, attentive.silent, attentive.apart⟩

theorem happen (attentive : Attentive clients) (happening : Happening) :
    Attentive (clients.happen happening) := by
  cases happening with
  | doom handle count => exact attentive.doom handle count
  | giveUp handle => exact attentive.giveUp handle
  | move move =>
    cases move with
    | turn handle => exact attentive.run handle
    | takeQueue => exact ⟨attentive.made, attentive.silent, attentive.apart⟩
    | act action =>
      cases action with
      | login who => exact attentive.login who
      | load who next => exact attentive.spawn who .submissions _
      | reply call reply => exact attentive.deliver call reply
      | _ => exact attentive.of_rests (rests_act clients rfl)

end Attentive

/-! ## What tasks report -/

def Silent (clients : Clients) : Prop :=
  ∀ task ∈ clients.tasks, Progress.Quiet task.progress

theorem quiet_of_wake {call : Nat} {reply : Reply} {task awake : Task}
    (wakes : Task.wake call reply task = some awake) (quiet : Progress.Quiet task.progress) :
    Progress.Quiet awake.progress := by
  unfold Task.wake at wakes
  cases progress : task.progress with
  | waiting waited next =>
    simp only [progress] at wakes quiet
    split at wakes
    · cases reply with
      | answer answer => cases wakes; exact quiet answer
      | die => cases wakes; exact ⟨trivial, nofun⟩
    · cases wakes
  | _ => simp [progress] at wakes

theorem quiet_cutShort {α : Type} {program : Client α} (quiet : Client.Quiet program)
    (count : Nat) : Client.Quiet (cutShort count program) := by
  induction program generalizing count with
  | done result => cases count <;> first | trivial | exact ⟨trivial, nofun⟩
  | step effect next ih =>
    cases count with
    | zero => exact ⟨trivial, nofun⟩
    | succ count => exact ⟨quiet.1, fun answer => ih answer (quiet.2 answer) count⟩

theorem overlaps_landed (clients : Clients) (task : Task) (progress : Progress TaskResult) :
    (clients.landed task progress).overlaps = clients.overlaps := by
  obtain ⟨count, same⟩ := landed_eq clients task progress
  rw [same, overlaps_setDesk]

namespace Silent

variable {clients : Clients}

theorem setTask {after : Clients} (silent : Silent clients) (handle : Nat) {changed : Task}
    (quiet : Progress.Quiet changed.progress) (tasks : after.tasks = clients.tasks) :
    Silent (after.setTask handle changed) := by
  intro task member
  change task ∈ after.tasks.set handle changed at member
  rw [tasks] at member
  rcases List.mem_or_eq_of_mem_set member with old | new
  · exact silent task old
  · rwa [new]

theorem spawn {after : Clients} (silent : Silent clients) (who : Who) (job : Job)
    {program : Client TaskResult} (quiet : Client.Quiet program)
    (tasks : after.tasks = clients.tasks) : Silent (after.spawn who job program) := by
  intro task member
  change task ∈ after.tasks ++ [_] at member
  rw [tasks] at member
  rcases List.mem_append.1 member with old | new
  · exact silent task old
  · rw [List.mem_singleton.1 new]
    exact quiet

theorem of_rests {after : Clients} (silent : Silent clients) (rests : Rests clients after) :
    Silent after := by
  intro task member
  have core : Task.core task ∈ after.tasks.map Task.core := List.mem_map_of_mem member
  rw [rests.tasks] at core
  obtain ⟨before, old, same⟩ := List.mem_map.1 core
  have progress : before.progress = task.progress := congrArg (·.2.2) same
  exact progress ▸ silent before old

theorem run (silent : Silent clients) (handle : Nat) :
    Silent (clients.run handle) ∧ (clients.run handle).overlaps = clients.overlaps := by
  rcases run_cases clients handle with ⟨same, -⟩ | ⟨task, program, found, progress⟩
  · rw [same]
    exact ⟨silent, rfl⟩
  · have quiet := silent task (List.mem_of_getElem? found)
    rw [progress] at quiet
    obtain ⟨same, left⟩ := overlaps_advance handle quiet clients
    obtain ⟨-, tasks, -⟩ := landed_frame (advance handle program clients).2 task
      (advance handle program clients).1
    rw [run_of_ready found progress]
    refine ⟨silent.setTask handle left (tasks.trans (advance_tasks handle program clients)), ?_⟩
    exact (overlaps_landed _ task _).trans same

theorem deliver (silent : Silent clients) (call : Nat) (reply : Reply) :
    Silent (clients.deliver call reply).2 ∧
      (clients.deliver call reply).2.overlaps = clients.overlaps := by
  rcases deliver_cases clients call reply with
    ⟨-, delivered⟩ | ⟨-, ⟨-, delivered⟩ | ⟨handle, asleep, awake, found, wakes, delivered⟩⟩
  · rw [delivered]
    exact ⟨silent, rfl⟩
  · rw [delivered]
    exact ⟨silent, rfl⟩
  · rw [delivered]
    refine ⟨silent.setTask handle ?_ rfl, rfl⟩
    exact quiet_of_wake wakes (silent asleep (List.mem_of_getElem? found))

theorem doom (silent : Silent clients) (handle count : Nat) :
    Silent (clients.doom handle count) ∧
      (clients.doom handle count).overlaps = clients.overlaps := by
  rcases doom_cases clients handle count with same | ⟨task, found, doomed⟩
  · rw [same]
    exact ⟨silent, rfl⟩
  · rw [doomed]
    refine ⟨silent.setTask handle ?_ rfl, rfl⟩
    have quiet := silent task (List.mem_of_getElem? found)
    cases progress : task.progress with
    | ready program =>
      rw [progress] at quiet
      exact quiet_cutShort quiet count
    | waiting call next =>
      rw [progress] at quiet
      exact fun answer => quiet_cutShort (quiet answer) count
    | ended result => trivial
    | died => trivial

theorem giveUp (silent : Silent clients) (handle : Nat) :
    Silent (clients.giveUp handle) ∧
      (clients.giveUp handle).overlaps = clients.overlaps := by
  rcases giveUp_cases clients handle with same | ⟨task, -, -, given⟩
  · rw [same]
    exact ⟨silent, rfl⟩
  · rw [given]
    obtain ⟨-, tasks, -⟩ := landed_frame clients task .died
    exact ⟨silent.setTask handle trivial tasks, overlaps_landed clients task .died⟩

theorem happen (silent : Silent clients) (happening : Happening) :
    Silent (clients.happen happening) ∧
      ((∀ who, happening ≠ .move (.act (.login who))) →
        (clients.happen happening).overlaps = clients.overlaps) := by
  cases happening with
  | doom handle count => exact (silent.doom handle count).imp_right fun same _ => same
  | giveUp handle => exact (silent.giveUp handle).imp_right fun same _ => same
  | move move =>
    cases move with
    | takeQueue => exact ⟨silent, fun _ => rfl⟩
    | turn handle => exact (silent.run handle).imp_right fun same _ => same
    | act action =>
      cases dispatch : action.isAside with
      | true =>
        have rests := rests_act clients dispatch
        exact ⟨silent.of_rests rests, fun _ => rests.overlaps⟩
      | false =>
        cases action with
        | login who =>
          have program : Client.Quiet (Errand.login (clients.desk who).form.take.1).program :=
            Program.uses_bind (Account.quiet_login _) fun _ => trivial
          exact ⟨silent.spawn who .login program (dispatching_tasks clients who),
            fun other => absurd rfl (other who)⟩
        | load who next =>
          have program : Client.Quiet (Errand.load next).program :=
            Program.uses_bind (Submissions.quiet_load (quiet_continuation next)) fun _ => trivial
          exact ⟨silent.spawn who .submissions program rfl, fun _ => rfl⟩
        | reply call reply => exact (silent.deliver call reply).imp_right fun same _ => same
        | _ => cases dispatch

end Silent

/-! ## Whole histories -/

structure Sound (clients : Clients) : Prop where
  balanced : Balanced clients
  attentive : Attentive clients
  silent : Silent clients

theorem sound_history (machine : Machine) (store : Store) (happenings : List Happening) :
    Sound ((Clients.opening machine store).history happenings) := by
  induction happenings using List.reverseRecOn with
  | nil => exact ⟨fun who => by cases who <;> rfl, .opening machine store, nofun⟩
  | append_singleton earlier last ih =>
    rw [history, List.foldl_append]
    exact ⟨(turn_happen _ last).balanced ih.balanced, ih.attentive.happen last,
      (ih.silent.happen last).1⟩

theorem standings_history (clients : Clients) (happenings : List Happening) :
    ((clients.history happenings).standings.map fun standing => (standing.who, standing.job)) =
      (clients.standings.map fun standing => (standing.who, standing.job)) ++
        happenings.filterMap Happening.dispatched? := by
  induction happenings using List.reverseRecOn with
  | nil => exact (List.append_nil _).symm
  | append_singleton earlier last ih =>
    rw [history, List.foldl_append, List.filterMap_append, ← List.append_assoc]
    refine (turn_happen _ last).dispatched.trans ?_
    change (List.map _ (history clients earlier).standings) ++ _ = _
    rw [ih]
    cases dispatch : last.dispatched? <;> simp [dispatch]

theorem events_login (clients : Clients) (who : Who) :
    (clients.login who).2.events = clients.events ++
      if 0 < clients.inFlight who then
        [.system (.logged (Account.overlapWarning (clients.inFlight who)))]
      else [] := by
  have raised : (clients.setDesk who ⟨.empty, clients.inFlight who + 1⟩).events = clients.events := by
    cases who <;> rfl
  rw [login_snd]
  change (clients.dispatching who).events = _
  unfold dispatching
  dsimp only
  split
  · exact congrArg (· ++ _) raised
  · rw [raised, List.append_nil]

def Processed (clients : Clients) (who : Who) : Prop :=
  ∀ task ∈ clients.tasks, Task.isPending who task = true → Task.isReady task = false ∧
    ∀ call < clients.posts, Progress.awaited? task.progress = some call →
      (clients.replies.lookup call).isSome = true

theorem inFlight_of_processed {clients : Clients} (sound : Sound clients) {who : Who}
    (processed : Processed clients who) : clients.inFlight who = 0 := by
  rw [sound.balanced who, pending, List.countP_eq_zero]
  intro task member pending
  obtain ⟨still, heard⟩ := processed task member pending
  obtain ⟨handle, found⟩ := List.mem_iff_getElem?.1 member
  have running : Progress.isOver task.progress = false := by
    simp only [Task.isPending, Task.standing, decide_eq_true_eq, Standing.mk.injEq] at pending
    exact pending.2.2
  cases progress : task.progress with
  | ready program => simp [Task.isReady, progress] at still
  | ended result => simp [progress, Progress.isOver] at running
  | died => simp [progress, Progress.isOver] at running
  | waiting call next =>
    have waits : clients.awaited? handle = some call := by
      rw [awaited?_of_task found, progress]
      rfl
    have answered := heard call (sound.attentive.made waits) (by rw [progress]; rfl)
    rw [sound.attentive.silent waits] at answered
    cases answered

theorem eq_of_dispatched {happening : Happening} {who : Who}
    (dispatches : happening.dispatched? = some (who, .login)) :
    happening = .move (.act (.login who)) := by
  cases happening with
  | doom handle count => cases dispatches
  | giveUp handle => cases dispatches
  | move move =>
    cases move with
    | turn handle => cases dispatches
    | takeQueue => cases dispatches
    | act action => cases action <;> cases dispatches; rfl

structure CountsLogins (happenings : List Happening) (clients : Clients) : Prop where
  /-- The tasks are the dispatches, in their order. -/
  dispatched : (clients.tasks.map fun task => (task.who, task.job)) =
    happenings.filterMap Happening.dispatched?
  counted : ∀ who, (clients.act (.askInFlight who)).1 = .number (clients.pending who)
  /-- A dispatch counts at once, for its own client, when its task has not had a turn. -/
  raised : ∀ who, let after := clients.happen (.move (.act (.login who)))
    after.tasks = clients.tasks ++
        [⟨who, .login, .ready (Errand.login (clients.desk who).form.take.1).program, true⟩] ∧
      ∀ other, after.inFlight other = clients.inFlight other + if other = who then 1 else 0
  /-- Nothing else raises a count, and one login that ends lowers it by one. -/
  lowered : ∀ happening, (∀ who, happening ≠ .move (.act (.login who))) →
    ∀ who, Falls clients (clients.happen happening) who
  final : ∀ happening {handle : Nat} {who : Who},
    clients.standings[handle]? = some ⟨who, .login, true⟩ →
    (clients.happen happening).standings[handle]? = some ⟨who, .login, true⟩
  processed : ∀ who, Processed clients who → clients.inFlight who = 0
  warned : ∀ who, (clients.happen (.move (.act (.login who)))).events = clients.events ++
    if 0 < clients.inFlight who then
      [.system (.logged (Account.overlapWarning (clients.inFlight who)))]
    else []
  unwarned : ∀ happening, (∀ who, happening ≠ .move (.act (.login who))) →
    (clients.happen happening).overlaps = clients.overlaps

/-- After every history each client's count is the number of its logins that are not over, and a
dispatch warns of overlapping logins just when there are any, with their number. -/
theorem history_in_flight (machine : Machine) (store : Store) (happenings : List Happening) :
    CountsLogins happenings ((Clients.opening machine store).history happenings) := by
  have sound := sound_history machine store happenings
  refine {
    dispatched := ?_
    counted := fun who => congrArg Outcome.number (sound.balanced who)
    raised := fun who => ⟨?_, fun other => ?_⟩
    lowered := fun happening other who => ?_
    final := fun happening => (turn_happen _ happening).stays_over
    processed := fun who => inFlight_of_processed sound
    warned := fun who => events_login _ who
    unwarned := fun happening => (sound.silent.happen happening).2 }
  · have same := standings_history (Clients.opening machine store) happenings
    rw [standings, List.map_map] at same
    exact same
  · exact congrArg (· ++ _) (dispatching_tasks _ who)
  · cases turn_login ((Clients.opening machine store).history happenings) who with
    | spawned more counts =>
      refine (counts other).trans ?_
      simp [one]
  · exact (turn_happen _ happening).falls
      (fun owner dispatches => other owner (eq_of_dispatched dispatches)) sound.balanced who

example (machine : Machine) (store : Store) :
    ((Clients.opening machine store).history
      [.move (.act (.login .first)), .giveUp 0]).inFlight .first = 0 := rfl

end PracticeClient.Clients
