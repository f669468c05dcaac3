import PracticeClient.Proofs.Cli.Stages
import PracticeClient.Proofs.Storage.Resemblance

namespace PracticeClient.Cli

open FileStore

variable {α β : Type}

/-! ## Runs that start no log -/

def KeepsLog : ConsoleOp → Prop
  | .startLog _ => False
  | _ => True

theorem keepsLog_of_silent (op : ConsoleOp) (silent : IsSilent op) : KeepsLog op := by
  cases op with
  | startLog setting => exact silent
  | _ => trivial

theorem keepsLog_typing {typed : Except TerminalError String} {program : Console α}
    (keeps : program.Uses KeepsLog) : (typing typed program).Uses KeepsLog := by
  induction program with
  | done value => trivial
  | step op next ih =>
    have later (answer : op.Answer) := ih answer (keeps.2 answer)
    cases op with
    | askPassword question => exact later typed
    | _ => exact ⟨keeps.1, later⟩

section

variable (setting : Setting)

theorem keepsLog_findUsername (argument : Option String) :
    (findUsername setting argument).Uses KeepsLog := by
  unfold findUsername
  cases argument.or (setting.environment.get? "PWS_USERNAME") with
  | some username => trivial
  | none =>
    refine ⟨trivial, fun _ => ⟨trivial, ?_⟩⟩
    intro line
    cases line <;> trivial

theorem keepsLog_findPassword : (findPassword setting).Uses KeepsLog := by
  unfold findPassword
  cases setting.environment.get? "PWS_PASSWORD" with
  | some password => trivial
  | none =>
    refine ⟨trivial, ?_⟩
    intro password
    cases password <;> trivial

theorem keepsLog_findCredentials (argument : Option String) :
    (findCredentials setting argument).Uses KeepsLog := by
  apply Program.uses_bind (keepsLog_findUsername setting argument)
  intro username
  cases username with
  | error error => trivial
  | ok username =>
    apply Program.uses_bind (keepsLog_findPassword setting)
    intro password
    cases password with
    | error error => trivial
    | ok password =>
      dsimp only
      split <;> trivial

theorem keepsLog_login [Idna] (argument : Option String) :
    (login setting argument).Uses KeepsLog := by
  apply Program.uses_bind (keepsLog_findCredentials setting argument)
  intro found
  cases found with
  | error error => trivial
  | ok form =>
    apply Program.uses_bind (Program.uses_mono keepsLog_of_silent (silent_client setting _))
    rintro ⟨outcome, progress⟩
    refine ⟨trivial, fun _ => ?_⟩
    dsimp only
    split
    · apply Program.uses_bind
        (Program.uses_mono keepsLog_of_silent (silent_remember setting form.username))
      exact fun _ => trivial
    · trivial

theorem keepsLog_carryOut [Idna] (command : Command) :
    (carryOut setting command).Uses KeepsLog := by
  cases command with
  | login argument => exact keepsLog_login setting argument
  | _ => exact Program.uses_mono keepsLog_of_silent (silent_carryOut setting _ nofun)

end

namespace Host

/-! ## The log of a run -/

def setting? (host : Host) : Option LogSetting :=
  host.log.map Log.setting

theorem setting?_note (host : Host) (entry : LogEntry) :
    (host.note entry).setting? = host.setting? := by
  unfold note setting?
  split
  · next log there =>
    split
    · simp [there]
    · rfl
  · rfl

theorem setting?_hear (host : Host) (events : List SystemEvent) :
    (events.foldl hear host).setting? = host.setting? := by
  induction events generalizing host with
  | nil => rfl
  | cons event events ih =>
    rw [List.foldl_cons, ih]
    cases event with
    | logged entry => exact setting?_note host entry
    | announced call => rfl
    | asked op => rfl

theorem setting?_execute {program : Console α} (keeps : program.Uses KeepsLog) (host : Host) :
    (execute program host).2.setting? = host.setting? := by
  induction program generalizing host with
  | done result => rfl
  | step op next ih =>
    cases op with
    | startLog setting => exact keeps.1.elim
    | system op =>
      rw [execute_system, ih _ (keeps.2 _), setting?_hear]
      rfl
    | crash => rfl
    | _ => exact ih _ (keeps.2 _) _

theorem execute_bind (program : Console α) (rest : α → Console β) (host : Host) :
    execute (program.bind rest) host =
      match execute program host with
      | (some result, after) => execute (rest result) after
      | (none, after) => (none, after) := by
  induction program generalizing host with
  | done result => rfl
  | step op next ih =>
    cases op with
    | crash => rfl
    | _ => exact ih _ _

theorem setting?_run [Idna] (invocation : Invocation) (typed : Except TerminalError String)
    {host : Host} (fresh : host.log = none) :
    (execute (typing typed (Cli.run invocation)) host).2.setting? = none ∨
      ∃ env, ((invocation.environment.load? invocation.directory).run Machine.quiet
          host.machine).1 = some env ∧
        (execute (typing typed (Cli.run invocation)) host).2.setting? = some (logSetting env) := by
  have silent := silent_ofSystem (begin invocation)
  have unset : _ = none := (setting?_execute (Program.uses_mono keepsLog_of_silent silent) host).trans
    (congrArg (Option.map Log.setting) fresh)
  have begun := (view_execute (Console.ofSystem (begin invocation)) host).1
  rw [View.execute_ofSystem] at begun
  rw [run_eq, typing_bind, typing_of_silent silent, execute_bind]
  generalize execute (Console.ofSystem (begin invocation)) host = executed at begun unset
  obtain ⟨result, after⟩ := executed
  obtain rfl : result = _ := begun
  dsimp only at unset ⊢
  cases found : ((begin invocation).run Machine.quiet host.machine).1 with
  | none =>
    left
    rw [view_machine, found]
    exact unset
  | some env =>
    right
    refine ⟨env, loaded_of_begun found, ?_⟩
    rw [view_machine, found]
    have keeps : ((runArguments env invocation.arguments).bind conclude).Uses KeepsLog := by
      refine Program.uses_bind ?_ (uses_conclude fun _ => trivial)
      exact uses_runArguments (fun _ => trivial) (fun _ => trivial)
        (fun setting command _ => keepsLog_carryOut setting command) env
    exact setting?_execute (keepsLog_typing keeps) { after with log := some ⟨logSetting env, []⟩ }

/-! ## After a run -/

theorem close_cases (host : Host) :
    host.close.machine = host.machine ∨ ∃ setting path more, host.setting? = some setting ∧
      setting.file = some path ∧ host.close.machine =
        { host.machine with files := host.machine.files.append path more } := by
  unfold close
  split
  · next filter path entries there =>
    exact .inr ⟨_, path, host.recorder.lines entries, by rw [setting?, there]; rfl, rfl, rfl⟩
  · exact .inl rfl

theorem output_close (host : Host) : host.close.output = host.output := by
  unfold close
  split <;> rfl

theorem errors_close (host : Host) : host.close.errors = host.errors := by
  unfold close
  split <;> rfl

end Host

end PracticeClient.Cli
