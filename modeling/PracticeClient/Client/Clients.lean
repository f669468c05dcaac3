import PracticeClient.Client.Account
import PracticeClient.Client.Submissions
import PracticeClient.Storage.Store

/-!
# Two clients over one store

Two clients share a store, a server and a user, but each has a login form and a count of its logins
in flight. Requests run as tasks: dispatching one only puts it into a queue, and a task runs until
it has ended or waits for the answer to a post. Posts are numbered in the order in which they are
made, over both clients. A handle is the number of a task; what happens to the handle does not
touch the task.
-/

namespace PracticeClient

inductive Who where
  | first
  | second
  deriving DecidableEq, Repr

structure Desk where
  form : LoginForm
  inFlight : Nat
  deriving DecidableEq, Repr

inductive TaskResult where
  | login (outcome : LoginOutcome)
  | loaded
  deriving DecidableEq, Repr

inductive Job where
  | login
  | submissions
  deriving DecidableEq, Repr

def Job.lostResult : Job → TaskResult
  | login => .login .unreachable
  | submissions => .loaded

abbrev ServerAnswer : Type := Except Http.TransportError Json.Value

inductive Progress (α : Type) where
  | ready (program : Client α)
  | waiting (call : Nat) (next : ServerAnswer → Client α)
  | ended (result : α)
  | died

structure Task where
  who : Who
  job : Job
  progress : Progress TaskResult
  held : Bool

inductive Reply where
  | answer (answer : ServerAnswer)
  | die

inductive Event where
  | system (event : SystemEvent)
  | stored (call : StoreCall)
  | notified (notification : Notification)
  | posted (endpoint : String) (body : Json.Value)
  | completed (handle : Nat)

structure Clients where
  machine : Machine
  store : Store
  first : Desk
  second : Desk
  tasks : List Task
  queue : List Nat
  posts : Nat
  replies : List (Nat × Reply)
  events : List Event

namespace Clients

def opening (machine : Machine) (store : Store) : Clients :=
  { machine, store, first := ⟨.empty, 0⟩, second := ⟨.empty, 0⟩, tasks := [], queue := [],
    posts := 0, replies := [], events := [] }

def desk (clients : Clients) : Who → Desk
  | .first => clients.first
  | .second => clients.second

def setDesk (clients : Clients) (who : Who) (desk : Desk) : Clients :=
  match who with
  | .first => { clients with first := desk }
  | .second => { clients with second := desk }

def note (clients : Clients) (event : Event) : Clients :=
  { clients with events := clients.events ++ [event] }

def noteLog (clients : Clients) (entry : LogEntry) : Clients :=
  clients.note (.system (.logged entry))

/-! ## Running programs -/

def callStore (call : StoreCall) (clients : Clients) : call.Answer × Clients :=
  let ((answer, store), machine, events) :=
    (clients.store.perform call).run Machine.handle (clients.machine, [])
  (answer, { clients with
    machine, store, events := clients.events ++ .stored call :: events.map .system })

def advance {α : Type} (handle : Nat) : Client α → Clients → Progress α × Clients
  | .done result, clients => (.ended result, clients)
  | .step (.store call) next, clients =>
    let (answer, clients) := clients.callStore call
    advance handle (next answer) clients
  | .step (.post endpoint body) next, clients =>
    let call := clients.posts
    let clients := { clients.note (.posted endpoint body) with posts := call + 1 }
    match clients.replies.lookup call with
    | none => (.waiting call next, clients)
    | some .die => (.died, clients)
    | some (.answer answer) => advance handle (next answer) clients
  | .step (.notify notification) next, clients =>
    advance handle (next ()) (clients.note (.notified notification))
  | .step (.log entry) next, clients => advance handle (next ()) (clients.noteLog entry)
  | .step .complete next, clients => advance handle (next ()) (clients.note (.completed handle))
  | .step .abort _, clients => (.died, clients)

def perform {α : Type} (program : Client α) (clients : Clients) : Option α × Clients :=
  match advance clients.tasks.length program clients with
  | (.ended result, clients) => (some result, clients)
  | (_, clients) => (none, clients)

/-! ## Tasks -/

def Progress.isOver {α : Type} : Progress α → Bool
  | .ready _ => false
  | .waiting _ _ => false
  | .ended _ => true
  | .died => true

def landed (clients : Clients) (task : Task) (progress : Progress TaskResult) : Clients :=
  match task.job with
  | .submissions => clients
  | .login =>
    if Progress.isOver progress then
      let desk := clients.desk task.who
      clients.setDesk task.who { desk with inFlight := desk.inFlight - 1 }
    else clients

def setTask (clients : Clients) (handle : Nat) (task : Task) : Clients :=
  { clients with tasks := clients.tasks.set handle task }

def run (handle : Nat) (clients : Clients) : Clients :=
  match clients.tasks[handle]? with
  | some task =>
    match task.progress with
    | .ready program =>
      let (progress, clients) := advance handle program clients
      (clients.landed task progress).setTask handle { task with progress }
    | _ => clients
  | none => clients

/-- Takes tasks from the queue until it is empty. No turn makes another task ready. -/
def settle (clients : Clients) : Clients :=
  clients.queue.foldl (fun clients handle => clients.run handle) { clients with queue := [] }

def spawn (clients : Clients) (who : Who) (job : Job) (program : Client TaskResult) : Clients :=
  { clients with
    tasks := clients.tasks ++ [⟨who, job, .ready program, true⟩]
    queue := clients.queue ++ [clients.tasks.length] }

/-! ## What can happen -/

inductive Continuation where
  | nothing
  | logout
  | die
  deriving DecidableEq, Repr

def Continuation.program : Continuation → Client Unit
  | nothing => pure ()
  | logout => Account.logout
  | die => Client.abort

inductive FileStep where
  | write (path : Path) (content : Bytes)
  | makeDirectory (path : Path)
  | remove (path : Path)
  deriving DecidableEq, Repr

inductive Action where
  | call (call : StoreCall)
  | askPath
  | askAuthenticated
  | askUsername
  | establish (token username : String)
  | clear
  | fill (who : Who) (form : LoginForm)
  | login (who : Who)
  | load (who : Who) (next : Continuation)
  | logout
  | askInFlight (who : Who)
  | reply (call : Nat) (reply : Reply)
  | poll (handle : Nat)
  | drop (handle : Nat)
  | file (step : FileStep)
  | fault (fault : KeychainFault)
  | mend (action : KeychainAction) (key : String)
  | secret (key : String) (secret : Option Bytes)

inductive Outcome where
  | nothing
  | text (text : Option String)
  | flag (flag : Bool)
  | number (number : Nat)
  | dispatched (handle : Nat) (formEmpty : Option Bool)
  | pending
  | result (result : TaskResult)
  | gone
  | noHandle
  | fileStep (done : Bool)
  deriving DecidableEq, Repr

def callOutcome : (call : StoreCall) → call.Answer → Outcome
  | .get _, value => .text value
  | .set _ _, _ => .nothing
  | .remove _, _ => .nothing
  | .setMany _, _ => .nothing
  | .removeMany _, _ => .nothing

def login (who : Who) (clients : Clients) : Outcome × Clients :=
  let desk := clients.desk who
  let (request, form) := desk.form.take
  let clients := clients.setDesk who ⟨form, desk.inFlight + 1⟩
  let clients :=
    if 0 < desk.inFlight then clients.noteLog (Account.overlapWarning desk.inFlight) else clients
  let program : Client TaskResult := do
    let outcome ← Account.login request
    pure (.login outcome)
  (.dispatched clients.tasks.length (some form.isEmpty), clients.spawn who .login program)

def load (who : Who) (next : Continuation) (clients : Clients) : Outcome × Clients :=
  let program : Client TaskResult := do
    Submissions.load next.program
    pure .loaded
  (.dispatched clients.tasks.length none, clients.spawn who .submissions program)

def Task.wake (call : Nat) (reply : Reply) (task : Task) : Option Task :=
  match task.progress with
  | .waiting waited next =>
    if waited = call then
      match reply with
      | .answer answer => some { task with progress := .ready (next answer) }
      | .die => some { task with progress := .ready Client.abort }
    else none
  | _ => none

def woken (call : Nat) (reply : Reply) (clients : Clients) : Option (Nat × Task) :=
  (clients.tasks.mapIdx fun handle task =>
    (Task.wake call reply task).map fun task => (handle, task)).findSome? id

def deliver (call : Nat) (reply : Reply) (clients : Clients) : Outcome × Clients :=
  if (clients.replies.lookup call).isSome then (.flag false, clients)
  else
    let clients := { clients with replies := clients.replies ++ [(call, reply)] }
    match woken call reply clients with
    | none => (.flag true, clients)
    | some (handle, task) =>
      (.flag true, { clients.setTask handle task with queue := clients.queue ++ [handle] })

def release (handle : Nat) (task : Task) (clients : Clients) : Clients :=
  clients.setTask handle { task with held := false }

def lostEntry : LogEntry := .error "Request task did not finish" []

def poll (handle : Nat) (clients : Clients) : Outcome × Clients :=
  match clients.tasks[handle]? with
  | none => (.noHandle, clients)
  | some task =>
    if !task.held then (.gone, clients)
    else match task.progress with
      | .ready _ => (.pending, clients)
      | .waiting _ _ => (.pending, clients)
      | .ended result => (.result result, clients.release handle task)
      | .died => (.result task.job.lostResult, (clients.noteLog lostEntry).release handle task)

def drop (handle : Nat) (clients : Clients) : Outcome × Clients :=
  match clients.tasks[handle]? with
  | none => (.noHandle, clients)
  | some task => (.flag task.held, clients.release handle task)

/-! ## What others do to files and secrets -/

/-- Writes a file and makes the directories above it, as someone else might. The directories stay
even if the file cannot be written. -/
def writeThrough (files : FileSystem) (path : Path) (content : Bytes) :
    Except FileError Unit × FileSystem :=
  match files.createDirectories ((path.parent?).getD path) with
  | (.error error, files) => (.error error, files)
  | (.ok (), files) => FileOp.settle files (files.write path content)

def FileStep.apply (files : FileSystem) : FileStep → Except FileError Unit × FileSystem
  | write path content => writeThrough files path content
  | makeDirectory path => files.createDirectories path
  | remove path => FileOp.settle files (files.removeTree path)

def fileStep (step : FileStep) (clients : Clients) : Outcome × Clients :=
  let (result, files) := step.apply clients.machine.files
  (.fileStep result.isOk, { clients with machine := { clients.machine with files } })

def onKeychain (change : Keychain → Keychain) (clients : Clients) : Clients :=
  { clients with
    machine := { clients.machine with keychain := change clients.machine.keychain } }

def service : Store → String
  | .keychain store => store.service
  | _ => ""

def storePath : Store → Option Path
  | .file path => some path
  | _ => none

/-! ## Acting -/

def act (action : Action) (clients : Clients) : Outcome × Clients :=
  match action with
  | .call call =>
    let (answer, clients) := clients.callStore call
    (callOutcome call answer, clients)
  | .askPath => (.text ((storePath clients.store).map Path.text), clients)
  | .askAuthenticated =>
    let (answer, clients) := clients.perform Session.isAuthenticated
    (.flag (answer.getD false), clients)
  | .askUsername =>
    let (answer, clients) := clients.perform Session.currentUsername
    (.text (answer.getD none), clients)
  | .establish token username => (.nothing, (clients.perform (Session.establish token username)).2)
  | .clear => (.nothing, (clients.perform Session.clear).2)
  | .fill who form =>
    (.flag form.isEmpty, clients.setDesk who { clients.desk who with form })
  | .login who => clients.login who
  | .load who next => clients.load who next
  | .logout => (.nothing, (clients.perform Account.logout).2)
  | .askInFlight who => (.number (clients.desk who).inFlight, clients)
  | .reply call reply => clients.deliver call reply
  | .poll handle => clients.poll handle
  | .drop handle => clients.drop handle
  | .file step => clients.fileStep step
  | .fault fault => (.nothing, clients.onKeychain (·.withFault fault))
  | .mend action key => (.nothing, clients.onKeychain (·.withoutFault action key))
  | .secret key secret =>
    let service := service clients.store
    (.nothing, clients.onKeychain fun keychain =>
      match secret with
      | some secret => keychain.put service key secret
      | none => keychain.erase service key)

end Clients

end PracticeClient
