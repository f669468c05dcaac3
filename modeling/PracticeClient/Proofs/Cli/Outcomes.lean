import PracticeClient.Proofs.Cli.Executing

namespace PracticeClient.Cli.View

variable {α β : Type}

/-! ## A condition on the operations of the machine -/

def Asks (good : SystemOp → Machine → Prop) : ConsoleOp → View → Prop
  | .system op, view => good op view.machine
  | _, _ => True

instance (good : SystemOp → Machine → Prop) [∀ op machine, Decidable (good op machine)] :
    (op : ConsoleOp) → (view : View) → Decidable (Asks good op view)
  | .system op, view => inferInstanceAs (Decidable (good op view.machine))
  | .startLog _, _ => inferInstanceAs (Decidable True)
  | .send _, _ => inferInstanceAs (Decidable True)
  | .print _, _ => inferInstanceAs (Decidable True)
  | .report _, _ => inferInstanceAs (Decidable True)
  | .readLine, _ => inferInstanceAs (Decidable True)
  | .askPassword _, _ => inferInstanceAs (Decidable True)
  | .crash, _ => inferInstanceAs (Decidable True)

def Along (good : SystemOp → Machine → Prop) : Console α → View → Prop
  | .done _, _ => True
  | .step op next, view =>
    Asks good op view ∧ ∀ answer ∈ (respond op view).1, Along good (next answer) (respond op view).2

instance decidableAlong (good : SystemOp → Machine → Prop)
    [∀ op machine, Decidable (good op machine)] :
    (program : Console α) → (view : View) → Decidable (Along good program view)
  | .done _, _ => inferInstanceAs (Decidable True)
  | .step op next, view =>
    have (answer : op.Answer) : Decidable (Along good (next answer) (respond op view).2) :=
      decidableAlong good (next answer) (respond op view).2
    inferInstanceAs (Decidable (_ ∧ ∀ answer ∈ (respond op view).1, _))

variable {good : SystemOp → Machine → Prop}

theorem along_bind (program : Console α) (rest : α → Console β) (view : View) :
    Along good (program.bind rest) view ↔ Along good program view ∧
      ∀ result ∈ (execute program view).1, Along good (rest result) (execute program view).2 := by
  induction program generalizing view with
  | done result => simp [Along, execute]
  | step op next ih =>
    rw [Program.step_bind, execute_step, Along, Along, and_assoc]
    generalize respond op view = responded
    obtain ⟨answered, after⟩ := responded
    cases answered with
    | none => simp [andThen]
    | some answer => simp [andThen, ih]

theorem along_ofSystem (program : System α) (view : View) :
    Along good (Console.ofSystem program) view ↔
      program.Along good Machine.quiet view.machine := by
  induction program generalizing view with
  | done result => exact Iff.rfl
  | step op next ih =>
    rw [Console.ofSystem, Program.answerWith]
    change Along good (.step (.system op) fun answer => Console.ofSystem (next answer)) view ↔ _
    rw [Along, Program.along_step]
    simp only [respond, Option.mem_some_iff, forall_eq', ih]
    exact Iff.rfl

/-! ## What a run comes to -/

/-- What holds of the result of a run and of the view after it, if its operations go well. -/
def Ends (good : SystemOp → Machine → Prop) (holds : Option α → View → Prop)
    (program : Console α) (view : View) : Prop :=
  Along good program view → holds (execute program view).1 (execute program view).2

def thenEnds (good : SystemOp → Machine → Prop) (holds : Option β → View → Prop)
    (rest : α → Console β) : Option α → View → Prop
  | some result, after => Ends good holds (rest result) after
  | none, after => holds none after

section

variable {holds : Option β → View → Prop} {view : View}

theorem ends_of_execute {program : Console β} {result : Option β} {after : View}
    (executed : execute program view = (result, after)) (reached : holds result after) :
    Ends good holds program view := by
  intro _
  rwa [executed]

theorem ends_done {value : β} (reached : holds (some value) view) :
    Ends good holds (.done value) view :=
  fun _ => reached

theorem thenEnds_done {after : α → β} {value : α} (reached : holds (some (after value)) view) :
    thenEnds good holds (fun value => .done (after value)) (some value) view :=
  fun _ => reached

theorem ends_mono {stronger : Option β → View → Prop} {program : Console β}
    (ends : Ends good stronger program view)
    (implies : ∀ result after, stronger result after → holds result after) :
    Ends good holds program view :=
  fun along => implies _ _ (ends along)

theorem ends_bind {program : Console α} {rest : α → Console β}
    (ends : Ends good (thenEnds good holds rest) program view) :
    Ends good holds (program.bind rest) view := by
  intro along
  obtain ⟨first, next⟩ := (along_bind program rest view).1 along
  have reached := ends first
  rw [execute_bind]
  generalize execute program view = executed at next reached ⊢
  obtain ⟨result, after⟩ := executed
  cases result with
  | none => exact reached
  | some result => exact reached (next result rfl)

theorem ends_ofSystem {program : System β}
    (ends : program.Along good Machine.quiet view.machine →
      holds (some (program.run Machine.quiet view.machine).1)
        { view with machine := (program.run Machine.quiet view.machine).2 }) :
    Ends good holds (Console.ofSystem program) view := by
  intro along
  rw [execute_ofSystem]
  exact ends ((along_ofSystem program view).1 along)

theorem ends_note {entry : LogEntry} {rest : Unit → Console β}
    (ends : Ends good holds (rest ()) view) :
    Ends good holds ((Console.log entry).bind rest) view :=
  fun along => ends (along.2 () rfl)

end

/-! ## The client -/

section

variable {transport : Http.Transport} {progress : Console.Progress} {view : View}
  {holds : Option (α × Console.Progress) → View → Prop}

theorem ends_store [Idna] {call : StoreCall} {next : call.Answer → Client α}
    (ends : (progress.store.perform call).Along good Machine.quiet view.machine →
      Ends good holds
        (carry transport
          { progress with store := (Store.call call progress.store view.machine).1.2 }
          (next (Store.call call progress.store view.machine).1.1))
        { view with machine := (Store.call call progress.store view.machine).2 }) :
    Ends good holds (carry transport progress (.step (.store call) next)) view := by
  rw [carry, Program.expand, Console.perform, Program.bind_eq, Program.bind_assoc]
  exact ends_bind (ends_ofSystem ends)

theorem ends_post [Idna] {endpoint : String} {body : Json.Value}
    {next : Except Http.TransportError Json.Value → Client α}
    (ends : ∀ answer server, Ends good holds (carry transport progress (next answer))
      { view with server }) :
    Ends good holds (carry transport progress (.step (.post endpoint body) next)) view := by
  rw [carry, Program.expand, Console.perform, Program.bind_eq, Program.bind_assoc]
  exact ends_bind (ends_of_execute (execute_ofExchange _ view) (ends _ _))

theorem ends_log [Idna] {entry : LogEntry} {next : Unit → Client α}
    (ends : Ends good holds (carry transport progress (next ())) view) :
    Ends good holds (carry transport progress (.step (.log entry) next)) view :=
  fun along => ends (along.2 () rfl)

end

end PracticeClient.Cli.View
