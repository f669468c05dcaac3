import PracticeClient.Proofs.Client.Ledger

namespace PracticeClient.Clients

variable {clients : Clients} {handle call : Nat} {task : Task} {reply : Reply}

/-! ## Turns -/

theorem run_of_ready {program : Client TaskResult} (there : clients.tasks[handle]? = some task)
    (ready : task.progress = .ready program) :
    clients.run handle =
      ((advance handle program clients).2.landed task (advance handle program clients).1).setTask
        handle { task with progress := (advance handle program clients).1 } := by
  rw [run, there]
  simp only [ready]

theorem run_of_not_ready (there : clients.tasks[handle]? = some task)
    (resting : ∀ program, task.progress ≠ .ready program) : clients.run handle = clients := by
  rw [run, there]
  cases progress : task.progress with
  | ready program => exact absurd progress (resting program)
  | waiting call next => simp only [progress]
  | ended result => simp only [progress]
  | died => simp only [progress]

theorem run_cases (clients : Clients) (handle : Nat) :
    (clients.run handle = clients ∧ ∀ task program, clients.tasks[handle]? = some task →
        task.progress ≠ .ready program) ∨
      ∃ task program, clients.tasks[handle]? = some task ∧ task.progress = .ready program := by
  cases found : clients.tasks[handle]? with
  | none => exact .inl ⟨by rw [run, found], nofun⟩
  | some task =>
    by_cases ready : ∃ program, task.progress = .ready program
    · obtain ⟨program, ready⟩ := ready
      exact .inr ⟨task, program, rfl, ready⟩
    · have resting (program : Client TaskResult) (same : task.progress = .ready program) : False :=
        ready ⟨program, same⟩
      refine .inl ⟨run_of_not_ready found resting, fun _ program there => ?_⟩
      cases there
      exact resting program

/-! ## Dispatches -/

def inFlight (clients : Clients) (who : Who) : Nat :=
  (clients.desk who).inFlight

/-- What a client is like once a login has taken its form and raised its count, just before the
task is there. -/
def dispatching (clients : Clients) (who : Who) : Clients :=
  let raised := clients.setDesk who ⟨.empty, clients.inFlight who + 1⟩
  if 0 < clients.inFlight who then
    raised.noteLog (Account.overlapWarning (clients.inFlight who))
  else raised

theorem login_snd (clients : Clients) (who : Who) :
    (clients.login who).2 = (clients.dispatching who).spawn who .login
      (Errand.login (clients.desk who).form.take.1).program := rfl

theorem dispatching_cases {motive : Clients → Prop} (clients : Clients) (who : Who)
    (raised : motive (clients.setDesk who ⟨.empty, clients.inFlight who + 1⟩))
    (noted : ∀ before entry, motive before → motive (before.noteLog entry)) :
    motive (clients.dispatching who) := by
  unfold dispatching
  dsimp only
  split
  · exact noted _ _ raised
  · exact raised

theorem dispatching_tasks (clients : Clients) (who : Who) :
    (clients.dispatching who).tasks = clients.tasks := by
  refine dispatching_cases (motive := fun after => after.tasks = clients.tasks) clients who ?_ ?_
  · cases who <;> rfl
  · exact fun _ _ same => same

/-! ## Replies -/

theorem woken_eq_none (nobody : woken call reply clients = none)
    (there : clients.tasks[handle]? = some task) : Task.wake call reply task = none := by
  rw [woken, List.findSome?_eq_none_iff] at nobody
  have member : (Task.wake call reply task).map (fun task => (handle, task)) ∈
      clients.tasks.mapIdx fun handle task =>
        (Task.wake call reply task).map fun task => (handle, task) := by
    refine List.mem_of_getElem? (i := handle) ?_
    rw [List.getElem?_mapIdx, there]
    rfl
  simpa using nobody _ member

theorem woken_eq_some (wakes : woken call reply clients = some (handle, task)) :
    ∃ asleep, clients.tasks[handle]? = some asleep ∧ Task.wake call reply asleep = some task := by
  obtain ⟨found, member, same⟩ := List.exists_of_findSome?_eq_some wakes
  subst same
  obtain ⟨index, there⟩ := List.mem_iff_getElem?.1 member
  rw [List.getElem?_mapIdx, Option.map_eq_some_iff] at there
  obtain ⟨asleep, found, awake⟩ := there
  rw [Option.map_eq_some_iff] at awake
  obtain ⟨woken, wakes, same⟩ := awake
  cases same
  exact ⟨asleep, found, wakes⟩

theorem deliver_cases (clients : Clients) (call : Nat) (reply : Reply) :
    ((clients.replies.lookup call).isSome = true ∧
        clients.deliver call reply = (.flag false, clients)) ∨
      clients.replies.lookup call = none ∧
        (((∀ {handle : Nat} {task : Task}, clients.tasks[handle]? = some task →
              Task.wake call reply task = none) ∧
            clients.deliver call reply =
              (.flag true, { clients with replies := clients.replies ++ [(call, reply)] })) ∨
          ∃ handle asleep awake, clients.tasks[handle]? = some asleep ∧
            Task.wake call reply asleep = some awake ∧
            clients.deliver call reply =
              (.flag true, { clients.setTask handle awake with
                replies := clients.replies ++ [(call, reply)]
                queue := clients.queue ++ [handle] })) := by
  unfold deliver
  split
  · next replied => exact .inl ⟨replied, rfl⟩
  · next first =>
    refine .inr ⟨Option.not_isSome_iff_eq_none.1 first, ?_⟩
    dsimp only
    split
    · next nobody => exact .inl ⟨woken_eq_none nobody, rfl⟩
    · next handle awake wakes =>
      obtain ⟨asleep, there, woken⟩ := woken_eq_some wakes
      exact .inr ⟨handle, asleep, awake, there, woken, rfl⟩

/-! ## Handles -/

theorem map_set_self {α β : Type} {read : α → β} {list : List α} {index : Nat} {old new : α}
    (found : list[index]? = some old) (same : read new = read old) :
    (list.set index new).map read = list.map read := by
  obtain ⟨within, rfl⟩ := List.getElem?_eq_some_iff.1 found
  rw [List.map_set, same, ← List.map_set, List.set_getElem_self]

theorem poll_cases (clients : Clients) (handle : Nat) :
    (clients.poll handle).2 = clients ∨
      ∃ task, clients.tasks[handle]? = some task ∧ task.held = true ∧
        ((∃ result, task.progress = .ended result ∧
            clients.poll handle = (.result result, clients.release handle task)) ∨
          task.progress = .died ∧
            clients.poll handle = (.result task.job.lostResult,
              (clients.noteLog lostEntry).release handle task)) := by
  unfold poll
  cases clients.tasks[handle]? with
  | none => exact .inl rfl
  | some task =>
    cases held : task.held with
    | false => exact .inl (by simp [held])
    | true =>
      cases progress : task.progress with
      | ready program => exact .inl (by simp [held, progress])
      | waiting call next => exact .inl (by simp [held, progress])
      | ended result =>
        exact .inr ⟨task, rfl, held, .inl ⟨result, progress, by simp [held, progress]⟩⟩
      | died => exact .inr ⟨task, rfl, held, .inr ⟨progress, by simp [held, progress]⟩⟩

theorem drop_cases (clients : Clients) (handle : Nat) :
    clients.tasks[handle]? = none ∧ clients.drop handle = (.noHandle, clients) ∨
      ∃ task, clients.tasks[handle]? = some task ∧
        clients.drop handle = (.flag task.held, clients.release handle task) := by
  unfold drop
  cases clients.tasks[handle]? with
  | none => exact .inl ⟨rfl, rfl⟩
  | some task => exact .inr ⟨task, rfl, rfl⟩

end PracticeClient.Clients
