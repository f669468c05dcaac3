import PracticeClient.Client.Clients

namespace PracticeClient

def StoreCall.isChange : StoreCall → Bool
  | .get _ => false
  | .set _ _ => true
  | .remove _ => true
  | .setMany _ => true
  | .removeMany _ => true

namespace Event

def isPublic : Event → Bool
  | .system _ => false
  | .stored call => call.isChange
  | .notified _ => true
  | .posted _ _ => true
  | .completed _ => true

def change? : Event → Option StoreCall
  | .stored call => if call.isChange then some call else none
  | _ => none

def notification? : Event → Option Notification
  | .notified notification => some notification
  | _ => none

def post? : Event → Option (String × Json.Value)
  | .posted endpoint body => some (endpoint, body)
  | _ => none

def completion? : Event → Option Nat
  | .completed handle => some handle
  | _ => none

end Event

namespace Clients

variable {α β : Type}

def shown (clients : Clients) : List Event :=
  clients.events.filter Event.isPublic

def book (clients : Clients) : Desk × Desk × List Task × List Nat × List (Nat × Reply) :=
  (clients.first, clients.second, clients.tasks, clients.queue, clients.replies)

/-! ## Events -/

@[simp] theorem shown_note (clients : Clients) (event : Event) :
    (clients.note event).shown = clients.shown ++ [event].filter Event.isPublic := by
  simp [shown, note]

@[simp] theorem shown_noteLog (clients : Clients) (entry : LogEntry) :
    (clients.noteLog entry).shown = clients.shown := by
  simp [noteLog, Event.isPublic]

theorem filter_system (events : List SystemEvent) :
    (events.map Event.system).filter Event.isPublic = [] := by
  rw [List.filter_eq_nil_iff]
  intro event member
  obtain ⟨inner, -, rfl⟩ := List.mem_map.1 member
  simp [Event.isPublic]

@[simp] theorem shown_callStore (clients : Clients) (call : StoreCall) :
    (clients.callStore call).2.shown =
      clients.shown ++ if call.isChange then [.stored call] else [] := by
  simp only [shown, callStore, List.filter_append, List.filter_cons, Event.isPublic, filter_system]

@[simp] theorem shown_setDesk (clients : Clients) (who : Who) (desk : Desk) :
    (clients.setDesk who desk).shown = clients.shown := by
  cases who <;> rfl

@[simp] theorem shown_setTask (clients : Clients) (handle : Nat) (task : Task) :
    (clients.setTask handle task).shown = clients.shown := rfl

@[simp] theorem shown_spawn (clients : Clients) (who : Who) (job : Job)
    (program : Client TaskResult) : (clients.spawn who job program).shown = clients.shown := rfl

@[simp] theorem book_note (clients : Clients) (event : Event) :
    (clients.note event).book = clients.book := rfl

@[simp] theorem book_callStore (clients : Clients) (call : StoreCall) :
    (clients.callStore call).2.book = clients.book := rfl

@[simp] theorem posts_note (clients : Clients) (event : Event) :
    (clients.note event).posts = clients.posts := rfl

@[simp] theorem posts_callStore (clients : Clients) (call : StoreCall) :
    (clients.callStore call).2.posts = clients.posts := rfl

theorem filterMap_shown {read : Event → Option β}
    (visible : ∀ {event : Event} {value : β}, read event = some value → event.isPublic = true)
    (clients : Clients) : clients.shown.filterMap read = clients.events.filterMap read := by
  unfold shown
  rw [List.filterMap_filter]
  congr 1
  funext event
  cases shows : event.isPublic with
  | true => rfl
  | false =>
    cases value : read event with
    | none => rfl
    | some found => exact absurd (visible value) (by simp [shows])

/-! ## Running -/

@[simp] theorem advance_done (handle : Nat) (result : α) (clients : Clients) :
    advance handle (.done result) clients = (.ended result, clients) := rfl

@[simp] theorem advance_store (handle : Nat) (call : StoreCall) (next : call.Answer → Client α)
    (clients : Clients) :
    advance handle (.step (.store call) next) clients =
      advance handle (next (clients.callStore call).1) (clients.callStore call).2 := rfl

@[simp] theorem advance_notify (handle : Nat) (notification : Notification)
    (next : Unit → Client α) (clients : Clients) :
    advance handle (.step (.notify notification) next) clients =
      advance handle (next ()) (clients.note (.notified notification)) := rfl

@[simp] theorem advance_log (handle : Nat) (entry : LogEntry) (next : Unit → Client α)
    (clients : Clients) :
    advance handle (.step (.log entry) next) clients =
      advance handle (next ()) (clients.noteLog entry) := rfl

@[simp] theorem advance_complete (handle : Nat) (next : Unit → Client α) (clients : Clients) :
    advance handle (.step .complete next) clients =
      advance handle (next ()) (clients.note (.completed handle)) := rfl

@[simp] theorem advance_abort (handle : Nat) (next : Empty → Client α) (clients : Clients) :
    advance handle (.step .abort next) clients = (.died, clients) := rfl

def sent (clients : Clients) (endpoint : String) (body : Json.Value) : Clients :=
  { clients.note (.posted endpoint body) with posts := clients.posts + 1 }

theorem advance_post (handle : Nat) (endpoint : String) (body : Json.Value)
    (next : ServerAnswer → Client α) (clients : Clients) :
    advance handle (.step (.post endpoint body) next) clients =
      match clients.replies.lookup clients.posts with
      | none => (.waiting clients.posts next, clients.sent endpoint body)
      | some .die => (.died, clients.sent endpoint body)
      | some (.answer answer) => advance handle (next answer) (clients.sent endpoint body) := by
  rw [advance]
  change (match clients.replies.lookup clients.posts with
    | none => _
    | some .die => _
    | some (.answer answer) => _) = _
  cases clients.replies.lookup clients.posts with
  | none => rfl
  | some reply => cases reply <;> rfl

@[simp] theorem shown_sent (clients : Clients) (endpoint : String) (body : Json.Value) :
    (clients.sent endpoint body).shown = clients.shown ++ [.posted endpoint body] :=
  shown_note clients (.posted endpoint body)

@[simp] theorem posts_sent (clients : Clients) (endpoint : String) (body : Json.Value) :
    (clients.sent endpoint body).posts = clients.posts + 1 := rfl

@[simp] theorem book_sent (clients : Clients) (endpoint : String) (body : Json.Value) :
    (clients.sent endpoint body).book = clients.book := rfl

theorem advance_book (handle : Nat) (program : Client α) (clients : Clients) :
    (advance handle program clients).2.book = clients.book := by
  induction program generalizing clients with
  | done result => rfl
  | step effect next ih =>
    cases effect with
    | store call => rw [advance_store, ih, book_callStore]
    | notify notification => rw [advance_notify, ih, book_note]
    | log entry => rw [advance_log, ih, noteLog, book_note]
    | complete => rw [advance_complete, ih, book_note]
    | abort => rfl
    | post endpoint body =>
      rw [advance_post]
      cases clients.replies.lookup clients.posts with
      | none => rfl
      | some reply =>
        cases reply with
        | die => rfl
        | answer answer => rw [ih, book_sent]

theorem advance_tasks (handle : Nat) (program : Client α) (clients : Clients) :
    (advance handle program clients).2.tasks = clients.tasks :=
  congrArg (·.2.2.1) (advance_book handle program clients)

theorem advance_replies (handle : Nat) (program : Client α) (clients : Clients) :
    (advance handle program clients).2.replies = clients.replies :=
  congrArg (·.2.2.2.2) (advance_book handle program clients)

theorem advance_desk (handle : Nat) (program : Client α) (clients : Clients) (who : Who) :
    (advance handle program clients).2.desk who = clients.desk who := by
  have same := advance_book handle program clients
  cases who with
  | first => exact congrArg (·.1) same
  | second => exact congrArg (·.2.1) same

def Progress.andThen (handle : Nat) (rest : α → Client β) :
    Progress α × Clients → Progress β × Clients
  | (.ended result, clients) => advance handle (rest result) clients
  | (.ready program, clients) => (.ready (program.bind rest), clients)
  | (.waiting call next, clients) => (.waiting call fun answer => (next answer).bind rest, clients)
  | (.died, clients) => (.died, clients)

theorem advance_bind (handle : Nat) (program : Client α) (rest : α → Client β)
    (clients : Clients) :
    advance handle (program.bind rest) clients =
      Progress.andThen handle rest (advance handle program clients) := by
  induction program generalizing clients with
  | done result => rfl
  | step effect next ih =>
    cases effect with
    | store call => exact ih _ _
    | notify notification => exact ih _ _
    | log entry => exact ih _ _
    | complete => exact ih _ _
    | abort => rfl
    | post endpoint body =>
      rw [Program.step_bind, advance_post, advance_post]
      cases clients.replies.lookup clients.posts with
      | none => rfl
      | some reply =>
        cases reply with
        | die => rfl
        | answer answer => exact ih _ _

end Clients

end PracticeClient
