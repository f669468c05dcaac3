import PracticeClient.Cli.Host
import PracticeClient.Proofs.Client.Standing

namespace PracticeClient

namespace Http.Server

def quiet : Program.Handler Op Op.Answer Server
  | .send request, server => server.meet request
  | .log _, server => ((), server)

end Http.Server

namespace Cli

variable {α β : Type}

/-- A host without its log. -/
structure View where
  machine : Machine
  server : Http.Server
  input : Bytes
  output : String
  errors : String

def Host.view (host : Host) : View :=
  ⟨host.machine, host.server, host.input, host.output, host.errors⟩

@[simp] theorem Host.view_machine (host : Host) : host.view.machine = host.machine := rfl

@[simp] theorem Host.view_server (host : Host) : host.view.server = host.server := rfl

namespace View

def respond : (op : ConsoleOp) → View → Option op.Answer × View
  | .system op, view =>
    (some (Machine.quiet op view.machine).1,
      { view with machine := (Machine.quiet op view.machine).2 })
  | .startLog _, view => (some (), view)
  | .send request, view =>
    (some (view.server.meet request).1, { view with server := (view.server.meet request).2 })
  | .print text, view => (some (), { view with output := view.output ++ text })
  | .report text, view => (some (), { view with errors := view.errors ++ text })
  | .readLine, view =>
    (some (Host.decodeLine (Host.takeLine view.input).1),
      { view with input := (Host.takeLine view.input).2 })
  | .askPassword _, view => (some (.error .noTerminal), view)
  | .crash, view => (none, view)

def execute : Console α → View → Option α × View
  | .done result, view => (some result, view)
  | .step op next, view =>
    match respond op view with
    | (some answer, view) => execute (next answer) view
    | (none, view) => (none, view)

/-! ## Sequences -/

def andThen (rest : α → Console β) : Option α × View → Option β × View
  | (some result, view) => execute (rest result) view
  | (none, view) => (none, view)

theorem execute_step (op : ConsoleOp) (next : op.Answer → Console α) (view : View) :
    execute (.step op next) view = andThen next (respond op view) := by
  rw [execute]
  obtain ⟨answered, after⟩ := respond op view
  cases answered <;> rfl

theorem execute_bind (program : Console α) (rest : α → Console β) (view : View) :
    execute (program.bind rest) view = andThen rest (execute program view) := by
  induction program generalizing view with
  | done result => rfl
  | step op next ih =>
    rw [Program.step_bind, execute_step, execute_step]
    obtain ⟨answered, after⟩ := respond op view
    cases answered with
    | none => rfl
    | some answer => exact ih answer after

end View

/-! ## Hosts and their logs -/

namespace Host

theorem join_own (remarks more : List Remark) :
    String.join ((remarks ++ more).filterMap ownText?) =
      String.join (remarks.filterMap ownText?) ++ String.join (more.filterMap ownText?) := by
  simp [String.join_append]

theorem view_note (host : Host) (entry : LogEntry) : (host.note entry).view = host.view := by
  have silent : String.join ([Remark.entry entry].filterMap ownText?) = "" := rfl
  unfold note
  split
  · split
    · simp only [view, errors, join_own, silent, String.append_empty]
    · rfl
  · rfl

theorem view_hear (host : Host) (events : List SystemEvent) :
    (events.foldl hear host).view = host.view := by
  induction events generalizing host with
  | nil => rfl
  | cons event events ih =>
    rw [List.foldl_cons, ih]
    cases event with
    | logged entry => exact view_note host entry
    | announced call => rfl
    | asked op => rfl

theorem view_report (host : Host) (text : String) :
    ({ host with remarks := host.remarks ++ [.text text] } : Host).view =
      { host.view with errors := host.view.errors ++ text } := by
  have own : String.join ([Remark.text text].filterMap ownText?) = text := by
    simp [ownText?, String.join]
  simp only [view, errors, join_own, own]

theorem execute_system (op : SystemOp) (next : op.Answer → Console α) (host : Host) :
    execute (.step (.system op) next) host =
      execute (next (Machine.quiet op host.machine).1)
        ((Machine.handle op (host.machine, [])).2.2.foldl hear
          { host with machine := (Machine.quiet op host.machine).2 }) := by
  obtain ⟨answer, after⟩ := Machine.handle_quiet op host.machine []
  rw [← answer, ← after]
  rfl

/-- Whatever is logged, a run goes the same way. -/
theorem view_execute (program : Console α) (host : Host) :
    (execute program host).1 = (View.execute program host.view).1 ∧
      (execute program host).2.view = (View.execute program host.view).2 := by
  induction program generalizing host with
  | done result => exact ⟨rfl, rfl⟩
  | step op next ih =>
    rw [View.execute_step]
    cases op with
    | system op =>
      rw [execute_system]
      have later := ih (Machine.quiet op host.machine).1
        ((Machine.handle op (host.machine, [])).2.2.foldl hear
          { host with machine := (Machine.quiet op host.machine).2 })
      rw [view_hear] at later
      exact later
    | report text =>
      have later := ih () { host with remarks := host.remarks ++ [.text text] }
      rw [view_report] at later
      exact later
    | crash => exact ⟨rfl, rfl⟩
    | _ => exact ih _ _

theorem execute_of_view {program : Console α} {host : Host} {result : Option α} {after : View}
    (executed : View.execute program host.view = (result, after)) :
    ∃ host', execute program host = (result, host') ∧ host'.view = after := by
  obtain ⟨same, view⟩ := view_execute program host
  rw [executed] at same view
  exact ⟨(execute program host).2, Prod.ext same rfl, view⟩

end Host

namespace View

/-! ## Programs of other kinds -/

theorem execute_ofSystem (program : System α) (view : View) :
    execute (Console.ofSystem program) view =
      (some (program.run Machine.quiet view.machine).1,
        { view with machine := (program.run Machine.quiet view.machine).2 }) := by
  induction program generalizing view with
  | done result => rfl
  | step op next ih => exact ih _ _

theorem execute_ofExchange (exchange : Http.Exchange α) (view : View) :
    execute (Console.ofExchange exchange) view =
      (some (exchange.run Http.Server.quiet view.server).1,
        { view with server := (exchange.run Http.Server.quiet view.server).2 }) := by
  induction exchange generalizing view with
  | done result => rfl
  | step op next ih =>
    cases op with
    | send request => exact ih _ _
    | log entry => exact ih _ _

/-! ## The client -/

def said (notification : Notification) (view : View) : View :=
  match notification.severity with
  | .success => { view with output := view.output ++ (notification.terminalLine ++ "\n") }
  | .danger => { view with errors := view.errors ++ (notification.terminalLine ++ "\n") }

theorem said_machine (notification : Notification) (view : View) :
    (said notification view).machine = view.machine := by
  unfold said
  cases notification.severity <;> rfl

section

variable (transport : Http.Transport) (progress : Console.Progress) (view : View)

abbrev carry [Idna] (client : Client α) : Console (α × Console.Progress) :=
  client.expand (Console.perform transport) progress

@[simp] theorem execute_done [Idna] (result : α) :
    execute (carry transport progress (.done result)) view = (some (result, progress), view) := rfl

@[simp] theorem execute_store [Idna] (call : StoreCall) (next : call.Answer → Client α) :
    execute (carry transport progress (.step (.store call) next)) view =
      execute (carry transport
          { progress with store := (Store.call call progress.store view.machine).1.2 }
          (next (Store.call call progress.store view.machine).1.1))
        { view with machine := (Store.call call progress.store view.machine).2 } := by
  rw [carry, Program.expand, Console.perform, Program.bind_eq, Program.bind_assoc, execute_bind,
    execute_ofSystem]
  rfl

@[simp] theorem execute_post [Idna] (endpoint : String) (body : Json.Value)
    (next : Except Http.TransportError Json.Value → Client α) :
    execute (carry transport progress (.step (.post endpoint body) next)) view =
      execute (carry transport progress
          (next ((transport.post endpoint body).run Http.Server.quiet view.server).1))
        { view with
          server := ((transport.post endpoint body).run Http.Server.quiet view.server).2 } := by
  rw [carry, Program.expand, Console.perform, Program.bind_eq, Program.bind_assoc, execute_bind,
    execute_ofExchange]
  rfl

@[simp] theorem execute_notify [Idna] (notification : Notification) (next : Unit → Client α) :
    execute (carry transport progress (.step (.notify notification) next)) view =
      execute (carry transport progress (next ())) (said notification view) := by
  rw [carry, Program.expand, Console.perform, Console.announce, said]
  cases notification.severity <;> rfl

@[simp] theorem execute_log [Idna] (entry : LogEntry) (next : Unit → Client α) :
    execute (carry transport progress (.step (.log entry) next)) view =
      execute (carry transport progress (next ())) view := rfl

@[simp] theorem execute_complete [Idna] (next : Unit → Client α) :
    execute (carry transport progress (.step .complete next)) view =
      execute (carry transport { progress with arrived := true } (next ()))
        { view with output := view.output ++ "Submissions loaded\n" } := rfl

end

end View

end Cli

end PracticeClient
