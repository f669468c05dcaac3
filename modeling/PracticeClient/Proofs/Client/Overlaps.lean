import PracticeClient.Proofs.Client.Running
import PracticeClient.Proofs.Storage.Requests

namespace PracticeClient

def overlapMessage : String := "Login dispatched while another is pending, last response wins"

def LogEntry.isOverlap (entry : LogEntry) : Bool :=
  entry.message = overlapMessage

def SystemEvent.isOverlap : SystemEvent → Bool
  | .logged entry => entry.isOverlap
  | _ => false

def Event.isOverlap : Event → Bool
  | .system event => event.isOverlap
  | _ => false

/-! ## Stores -/

def SystemOp.Quiet : SystemOp → Prop
  | .log entry => entry.isOverlap = false
  | _ => True

abbrev System.Quiet {α : Type} (program : System α) : Prop :=
  program.Uses SystemOp.Quiet

theorem LogEntry.isOverlap_of_mem {entry : LogEntry} {messages : List String}
    (known : entry.message ∈ messages) (other : overlapMessage ∉ messages) :
    entry.isOverlap = false := by
  rw [isOverlap, decide_eq_false_iff_not]
  intro same
  rw [same] at known
  exact other known

theorem FileStore.quiet_perform (path : Path) (call : StoreCall) :
    System.Quiet (perform path call) := by
  refine Program.uses_mono ?_ (asks_perform call)
  intro op asks
  cases asks with
  | file concerns => trivial
  | log known => exact LogEntry.isOverlap_of_mem known (by decide)

theorem KeychainStore.quiet_perform (call : StoreCall) (store : KeychainStore) :
    System.Quiet (perform call store) := by
  refine Program.uses_mono ?_ (asks_perform call store)
  intro op asks
  cases asks with
  | keychain wanted => trivial
  | log known => exact LogEntry.isOverlap_of_mem known (by decide)

namespace Store

theorem quiet_setEach (entries : List (String × String)) (values : Table String) :
    System.Quiet (setEach entries values) := by
  induction entries generalizing values with
  | nil => trivial
  | cons entry rest ih => exact ⟨trivial, fun _ => ih _⟩

theorem quiet_removeEach (keys : List String) (values : Table String) :
    System.Quiet (removeEach keys values) := by
  induction keys generalizing values with
  | nil => trivial
  | cons key rest ih => exact ⟨trivial, fun _ => ih _⟩

theorem quiet_onPlain (call : StoreCall) (values : Table String) :
    System.Quiet (onPlain call values) := by
  cases call with
  | setMany entries => exact Program.uses_bind (quiet_setEach entries values) fun _ => trivial
  | removeMany keys => exact Program.uses_bind (quiet_removeEach keys values) fun _ => trivial
  | get key => exact ⟨trivial, fun _ => trivial⟩
  | set key value => exact ⟨trivial, fun _ => trivial⟩
  | remove key => exact ⟨trivial, fun _ => trivial⟩

theorem quiet_perform (call : StoreCall) (store : Store) : System.Quiet (store.perform call) := by
  cases store with
  | memory values => trivial
  | file path => exact Program.uses_bind (FileStore.quiet_perform path call) fun _ => trivial
  | keychain store =>
    exact Program.uses_bind (KeychainStore.quiet_perform call store) fun _ => trivial
  | plain values => exact Program.uses_bind (quiet_onPlain call values) fun _ => trivial
  | batching values => exact ⟨trivial, fun _ => trivial⟩

end Store

theorem SystemOp.Quiet.handled {op : SystemOp} (quiet : op.Quiet)
    {state : Machine × List SystemEvent} (before : ∀ event ∈ state.2, event.isOverlap = false) :
    ∀ event ∈ (Machine.handle op state).2.2, event.isOverlap = false := by
  have snoc {last : SystemEvent} (other : last.isOverlap = false) :
      ∀ event ∈ state.2 ++ [last], event.isOverlap = false :=
    List.forall_mem_append.2 ⟨before, List.forall_mem_singleton.2 other⟩
  cases op with
  | file op => exact before
  | keychain op => exact snoc rfl
  | log entry => exact snoc quiet
  | announce call => exact snoc rfl

theorem System.Quiet.events {α : Type} {program : System α} (quiet : System.Quiet program)
    (machine : Machine) :
    ∀ event ∈ (program.run Machine.handle (machine, [])).2.2, event.isOverlap = false := by
  let Holds : Machine × List SystemEvent → Prop := fun state =>
    ∀ event ∈ state.2, event.isOverlap = false
  have preserves (op : SystemOp) (state : Machine × List SystemEvent) (kind : op.Quiet)
      (before : Holds state) : Holds (Machine.handle op state).2 := kind.handled before
  have start : Holds (machine, []) := nofun
  exact Program.through_end (Program.through_of_uses preserves quiet start)

/-! ## Programs -/

def Effect.Quiet : Effect → Prop
  | .log entry => entry.isOverlap = false
  | _ => True

abbrev Client.Quiet {α : Type} (program : Client α) : Prop :=
  program.Uses Effect.Quiet

namespace Account

theorem quiet_accept (token username : String) : Client.Quiet (accept token username) :=
  ⟨trivial, fun _ => ⟨rfl, fun _ => ⟨trivial, fun _ => ⟨rfl, fun _ => ⟨trivial, fun _ => trivial⟩⟩⟩⟩⟩

theorem quiet_conclude (username : String) (answer : Except Http.TransportError Json.Value) :
    Client.Quiet (conclude username answer) := by
  cases answer with
  | error error => exact ⟨rfl, fun _ => ⟨trivial, fun _ => trivial⟩⟩
  | ok body =>
    rw [conclude]
    cases LoginReply.interpret body with
    | accepted token => exact quiet_accept token username
    | rejected => exact ⟨rfl, fun _ => ⟨trivial, fun _ => trivial⟩⟩
    | malformed reason => exact ⟨rfl, fun _ => ⟨trivial, fun _ => trivial⟩⟩

theorem quiet_login (request : LoginRequest) : Client.Quiet (login request) :=
  ⟨rfl, fun _ => ⟨trivial, fun answer => quiet_conclude request.username answer⟩⟩

theorem quiet_logout : Client.Quiet logout :=
  ⟨trivial, fun _ => ⟨rfl, fun _ => ⟨rfl, fun _ => ⟨trivial, fun _ => trivial⟩⟩⟩⟩

end Account

namespace Submissions

theorem quiet_load {next : Client Unit} (quiet : Client.Quiet next) : Client.Quiet (load next) := by
  refine ⟨trivial, ?_⟩
  intro answer
  cases answer with
  | ok body => exact ⟨rfl, fun _ => ⟨trivial, fun _ => quiet⟩⟩
  | error error => exact ⟨rfl, fun _ => ⟨trivial, fun _ => trivial⟩⟩

end Submissions

namespace Clients

theorem quiet_continuation (next : Continuation) : Client.Quiet next.program := by
  cases next with
  | nothing => trivial
  | logout => exact Account.quiet_logout
  | die => exact ⟨trivial, nofun⟩

def Progress.Quiet {α : Type} : Progress α → Prop
  | .ready program => Client.Quiet program
  | .waiting _ next => ∀ answer, Client.Quiet (next answer)
  | _ => True

def overlaps (clients : Clients) : List Event :=
  clients.events.filter Event.isOverlap

theorem overlaps_note (clients : Clients) {event : Event} (other : event.isOverlap = false) :
    (clients.note event).overlaps = clients.overlaps := by
  simp [overlaps, note, other]

@[simp] theorem overlaps_setDesk (clients : Clients) (who : Who) (desk : Desk) :
    (clients.setDesk who desk).overlaps = clients.overlaps := by
  cases who <;> rfl

@[simp] theorem overlaps_callStore (clients : Clients) (call : StoreCall) :
    (clients.callStore call).2.overlaps = clients.overlaps := by
  have none : ((((clients.store.perform call).run Machine.handle (clients.machine, [])).2.2).map
      Event.system).filter Event.isOverlap = [] := by
    rw [List.filter_eq_nil_iff]
    intro event member
    obtain ⟨inner, inside, rfl⟩ := List.mem_map.1 member
    have other := (Store.quiet_perform call clients.store).events clients.machine inner inside
    simp [Event.isOverlap, other]
  simp only [overlaps, callStore, List.filter_append, List.filter_cons, none]
  simp [Event.isOverlap]

theorem overlaps_advance {α : Type} (handle : Nat) {program : Client α}
    (quiet : Client.Quiet program) (clients : Clients) :
    (advance handle program clients).2.overlaps = clients.overlaps ∧
      Progress.Quiet (advance handle program clients).1 := by
  induction program generalizing clients with
  | done result => exact ⟨rfl, trivial⟩
  | step effect next ih =>
    obtain ⟨kind, later⟩ := quiet
    cases effect with
    | store call =>
      obtain ⟨same, left⟩ := ih _ (later _) (clients.callStore call).2
      exact ⟨same.trans (overlaps_callStore clients call), left⟩
    | notify notification =>
      obtain ⟨same, left⟩ := ih _ (later _) (clients.note (.notified notification))
      exact ⟨same.trans (overlaps_note clients rfl), left⟩
    | log entry =>
      obtain ⟨same, left⟩ := ih _ (later _) (clients.noteLog entry)
      exact ⟨same.trans (overlaps_note clients kind), left⟩
    | complete =>
      obtain ⟨same, left⟩ := ih _ (later _) (clients.note (.completed handle))
      exact ⟨same.trans (overlaps_note clients rfl), left⟩
    | abort => exact ⟨rfl, trivial⟩
    | post endpoint body =>
      have sent : (clients.sent endpoint body).overlaps = clients.overlaps :=
        overlaps_note clients rfl
      rw [advance_post]
      cases clients.replies.lookup clients.posts with
      | none => exact ⟨sent, later⟩
      | some reply =>
        cases reply with
        | die => exact ⟨sent, trivial⟩
        | answer answer =>
          obtain ⟨same, left⟩ := ih _ (later answer) (clients.sent endpoint body)
          exact ⟨same.trans sent, left⟩

end Clients

end PracticeClient
