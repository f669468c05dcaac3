import Mathlib.Logic.Function.Basic
import PracticeClient.Proofs.Client.Running

/-!
# The ledger

What two clients are expected to do, told without programs, stores or events. The ledger has the
forms, an entry for each task with its errand and how far it has come, the number of posts, and the
replies that have arrived. Each move changes the ledger and leads to deeds: a post, the conclusion
of an errand, a logout, or a change to the store that someone orders directly.
-/

namespace PracticeClient.Clients

/-! ## Courses -/

/-- What moves the clients: someone acts, a task has a turn, or the queue is taken away by whoever
hands out the turns. -/
inductive Move where
  | act (action : Action)
  | turn (handle : Nat)
  | takeQueue

def move (clients : Clients) : Move → Clients
  | .act action => (clients.act action).2
  | .turn handle => clients.run handle
  | .takeQueue => { clients with queue := [] }

def course (clients : Clients) (moves : List Move) : Clients :=
  moves.foldl move clients

theorem course_append (clients : Clients) (moves more : List Move) :
    clients.course (moves ++ more) = (clients.course moves).course more :=
  List.foldl_append

theorem settle_eq_course (clients : Clients) :
    clients.settle = clients.course (.takeQueue :: clients.queue.map .turn) := by
  rw [course, List.foldl_cons, List.foldl_map]
  rfl

/-! ## Errands -/

inductive Errand where
  | login (request : LoginRequest)
  | load (next : Continuation)

inductive Verdict where
  | accepted (token : String)
  | refused
  | unreachable
  deriving DecidableEq

namespace Verdict

def ofAnswer : ServerAnswer → Verdict
  | .error _ => .unreachable
  | .ok body =>
    match LoginReply.interpret body with
    | .accepted token => .accepted token
    | .rejected => .refused
    | .malformed _ => .refused

def outcome : Verdict → LoginOutcome
  | accepted _ => .established
  | refused => .rejected
  | unreachable => .unreachable

/-- Whether a notification tells the user a verdict. A welcome may be to any name. -/
def Told : Verdict → Notification → Prop
  | accepted _, notification => ∃ name : String, notification = ⟨.success, s!"Welcome back, {name}"⟩
  | refused, notification => notification = ⟨.danger, "Sign in error"⟩
  | unreachable, notification =>
    notification = ⟨.danger, "Internal error while signing in: make sure your internet " ++
      "connection is working and, if the error persists, contact an administrator."⟩

def change? (username : String) : Verdict → Option StoreCall
  | accepted token => some (Session.establishing token username)
  | refused => none
  | unreachable => none

end Verdict

namespace Errand

def job : Errand → Job
  | login _ => .login
  | load _ => .submissions

def endpoint : Errand → String
  | login _ => Account.loginEndpoint
  | load _ => Submissions.endpoint

def body : Errand → Json.Value
  | login request => request.body
  | load _ => .empty

def program : Errand → Client TaskResult
  | login request => do
    let outcome ← Account.login request
    pure (.login outcome)
  | load next => do
    Submissions.load next.program
    pure .loaded

def conclusion : Errand → ServerAnswer → Client TaskResult
  | login request, answer => do
    let outcome ← Account.conclude request.username answer
    pure (.login outcome)
  | load next, answer => do
    Submissions.conclude next.program answer
    pure .loaded

def ending : Errand → ServerAnswer → Progress TaskResult
  | login _, answer => .ended (.login (Verdict.ofAnswer answer).outcome)
  | load .die, .ok _ => .died
  | load _, _ => .ended .loaded

end Errand

/-! ## Entries -/

/-- How far an errand has come: it has not begun, waits for the answer to a post, has been
answered and not gone on yet, or has come to its end. -/
inductive Stage where
  | queued
  | waiting (call : Nat)
  | answered (reply : Reply)
  | closed (reply : Reply)

def Stage.hear (call : Nat) (reply : Reply) : Stage → Stage
  | waiting waited => if waited = call then .answered reply else .waiting waited
  | stage => stage

structure Entry where
  who : Who
  errand : Errand
  stage : Stage

inductive Deed where
  | post (handle : Nat) (errand : Errand)
  | conclude (handle : Nat) (errand : Errand) (answer : ServerAnswer)
  | logout
  | order (call : StoreCall)

def Errand.deeds (handle : Nat) (errand : Errand) : Reply → List Deed
  | .die => []
  | .answer answer =>
    .conclude handle errand answer ::
      match errand, answer with
      | .load .logout, .ok _ => [.logout]
      | _, _ => []

def Deed.handle? : Deed → Option Nat
  | .post handle _ => some handle
  | .conclude handle _ _ => some handle
  | .logout => none
  | .order _ => none

/-! ## The ledger -/

structure Ledger where
  forms : Who → LoginForm
  entries : List Entry
  posts : Nat
  replies : List (Nat × Reply)

namespace Ledger

def opening : Ledger := ⟨fun _ => .empty, [], 0, []⟩

def enter (ledger : Ledger) (who : Who) (errand : Errand) : Ledger :=
  { ledger with entries := ledger.entries ++ [⟨who, errand, .queued⟩] }

def setForm (ledger : Ledger) (who : Who) (form : LoginForm) : Ledger :=
  { ledger with forms := Function.update ledger.forms who form }

def advanceTo (ledger : Ledger) (handle : Nat) (entry : Entry) (stage : Stage) : Ledger :=
  { ledger with entries := ledger.entries.set handle { entry with stage } }

/-- A reply counts only if it is the first to its post. -/
def deliver (ledger : Ledger) (call : Nat) (reply : Reply) : Ledger :=
  if (ledger.replies.lookup call).isSome then ledger
  else { ledger with
    replies := ledger.replies ++ [(call, reply)]
    entries := ledger.entries.map fun entry =>
      { entry with stage := entry.stage.hear call reply } }

def turn (ledger : Ledger) (handle : Nat) : Ledger × List Deed :=
  match ledger.entries[handle]? with
  | none => (ledger, [])
  | some entry =>
    match entry.stage with
    | .queued =>
      let sent := { ledger with posts := ledger.posts + 1 }
      match ledger.replies.lookup ledger.posts with
      | none => (sent.advanceTo handle entry (.waiting ledger.posts), [.post handle entry.errand])
      | some reply =>
        (sent.advanceTo handle entry (.closed reply),
          .post handle entry.errand :: entry.errand.deeds handle reply)
    | .answered reply =>
      (ledger.advanceTo handle entry (.closed reply), entry.errand.deeds handle reply)
    | .waiting _ => (ledger, [])
    | .closed _ => (ledger, [])

inductive Turned (ledger : Ledger) (handle : Nat) : Ledger × List Deed → Prop where
  | passed (rests : ∀ {entry : Entry}, ledger.entries[handle]? = some entry →
        (∃ call, entry.stage = .waiting call) ∨ ∃ reply, entry.stage = .closed reply) :
      Turned ledger handle (ledger, [])
  | posted {entry : Entry} (found : ledger.entries[handle]? = some entry)
      (queued : entry.stage = .queued) (unanswered : ledger.replies.lookup ledger.posts = none) :
      Turned ledger handle
        (({ ledger with posts := ledger.posts + 1 } : Ledger).advanceTo handle entry
          (.waiting ledger.posts), [.post handle entry.errand])
  | finished {entry : Entry} {reply : Reply} (found : ledger.entries[handle]? = some entry)
      (queued : entry.stage = .queued)
      (answered : ledger.replies.lookup ledger.posts = some reply) :
      Turned ledger handle
        (({ ledger with posts := ledger.posts + 1 } : Ledger).advanceTo handle entry
          (.closed reply), .post handle entry.errand :: entry.errand.deeds handle reply)
  | concluded {entry : Entry} {reply : Reply} (found : ledger.entries[handle]? = some entry)
      (answered : entry.stage = .answered reply) :
      Turned ledger handle
        (ledger.advanceTo handle entry (.closed reply), entry.errand.deeds handle reply)

theorem turned (ledger : Ledger) (handle : Nat) : Turned ledger handle (ledger.turn handle) := by
  unfold turn
  cases found : ledger.entries[handle]? with
  | none => exact .passed fun there => nomatch found.symm.trans there
  | some entry =>
    cases stage : entry.stage with
    | queued =>
      simp only [stage]
      cases reply : ledger.replies.lookup ledger.posts with
      | none => exact .posted found stage reply
      | some reply => exact .finished found stage reply
    | answered reply => simpa only [stage] using .concluded found stage
    | waiting call =>
      simp only [stage]
      refine .passed fun there => ?_
      cases found.symm.trans there
      exact .inl ⟨call, stage⟩
    | closed reply =>
      simp only [stage]
      refine .passed fun there => ?_
      cases found.symm.trans there
      exact .inr ⟨reply, stage⟩

def act (ledger : Ledger) : Action → Ledger × List Deed
  | .fill who form => (ledger.setForm who form, [])
  | .login who =>
    let form := ledger.forms who
    ((ledger.setForm who .empty).enter who (.login ⟨form.username, form.password⟩), [])
  | .load who next => (ledger.enter who (.load next), [])
  | .logout => (ledger, [.logout])
  | .reply call reply => (ledger.deliver call reply, [])
  | .call call => (ledger, if call.isChange then [.order call] else [])
  | .establish token username => (ledger, [.order (Session.establishing token username)])
  | .clear => (ledger, [.order Session.clearing])
  | _ => (ledger, [])

def move (ledger : Ledger) : Move → Ledger × List Deed
  | .act action => ledger.act action
  | .turn handle => ledger.turn handle
  | .takeQueue => (ledger, [])

def follow (ledger : Ledger) : List Move → Ledger × List Deed
  | [] => (ledger, [])
  | move :: rest =>
    let (next, deeds) := ledger.move move
    let (last, later) := next.follow rest
    (last, deeds ++ later)

/-! ## Who waits for what -/

def stage? (ledger : Ledger) (handle : Nat) : Option Stage :=
  (ledger.entries[handle]?).map Entry.stage

structure Orderly (ledger : Ledger) : Prop where
  made : ∀ {handle call}, ledger.stage? handle = some (.waiting call) → call < ledger.posts
  apart : ∀ {handle other call}, ledger.stage? handle = some (.waiting call) →
    ledger.stage? other = some (.waiting call) → handle = other

theorem stage?_of_entry {ledger : Ledger} {handle : Nat} {entry : Entry}
    (found : ledger.entries[handle]? = some entry) :
    ledger.stage? handle = some entry.stage := by
  rw [stage?, found]
  rfl

theorem stage?_enter (ledger : Ledger) (who : Who) (errand : Errand) (handle : Nat) :
    (ledger.enter who errand).stage? handle =
      if handle = ledger.entries.length then some .queued else ledger.stage? handle := by
  unfold stage? enter
  by_cases last : handle = ledger.entries.length
  · simp [last]
  · rw [if_neg last]
    rcases Nat.lt_or_gt_of_ne last with before | after
    · rw [List.getElem?_append_left before]
    · rw [List.getElem?_append_right (Nat.le_of_lt after), List.getElem?_eq_none (by simp; omega),
        List.getElem?_eq_none (Nat.le_of_lt after)]

theorem stage?_advanceTo {ledger : Ledger} {handle : Nat} {entry : Entry} (posts : Nat)
    (stage : Stage) (found : ledger.entries[handle]? = some entry) (other : Nat) :
    (({ ledger with posts } : Ledger).advanceTo handle entry stage).stage? other =
      if other = handle then some stage else ledger.stage? other := by
  obtain ⟨within, -⟩ := List.getElem?_eq_some_iff.1 found
  unfold stage? advanceTo
  rw [List.getElem?_set]
  by_cases same : handle = other
  · subst same
    simp [within]
  · rw [if_neg same, if_neg (Ne.symm same)]

theorem stage?_deliver {ledger : Ledger} {call : Nat} (reply : Reply)
    (first : (ledger.replies.lookup call).isSome = false) (handle : Nat) :
    (ledger.deliver call reply).stage? handle =
      (ledger.stage? handle).map (Stage.hear call reply) := by
  unfold deliver stage?
  rw [if_neg (by simp [first]), List.getElem?_map]
  cases ledger.entries[handle]? with
  | none => rfl
  | some entry => rfl

theorem waiting_of_hear {call waited : Nat} {reply : Reply} {stage : Stage}
    (waits : stage.hear call reply = .waiting waited) : stage = .waiting waited := by
  cases stage with
  | waiting earlier =>
    by_cases same : earlier = call
    · simp [Stage.hear, same] at waits
    · simpa [Stage.hear, same] using waits
  | _ => exact waits

namespace Orderly

theorem opening : Ledger.opening.Orderly where
  made waiting := by simp [Ledger.opening, stage?] at waiting
  apart waiting := by simp [Ledger.opening, stage?] at waiting

variable {ledger : Ledger}

theorem setForm (orderly : ledger.Orderly) (who : Who) (form : LoginForm) :
    (ledger.setForm who form).Orderly :=
  ⟨orderly.made, orderly.apart⟩

theorem enter (orderly : ledger.Orderly) (who : Who) (errand : Errand) :
    (ledger.enter who errand).Orderly := by
  have old {handle call : Nat}
      (waiting : (ledger.enter who errand).stage? handle = some (.waiting call)) :
      ledger.stage? handle = some (.waiting call) := by
    rw [stage?_enter] at waiting
    split at waiting
    · cases waiting
    · exact waiting
  exact ⟨fun waiting => orderly.made (old waiting),
    fun waiting waiting' => orderly.apart (old waiting) (old waiting')⟩

theorem advanceTo (orderly : ledger.Orderly) {handle : Nat} {entry : Entry} {stage : Stage}
    (found : ledger.entries[handle]? = some entry) (posts : Nat) (more : ledger.posts ≤ posts)
    (new : ∀ call, stage = .waiting call → ledger.posts ≤ call ∧ call < posts) :
    Orderly (({ ledger with posts } : Ledger).advanceTo handle entry stage) := by
  have stages := stage?_advanceTo posts stage found
  constructor
  · intro other call waiting
    rw [stages] at waiting
    split at waiting
    · exact (new call (Option.some.inj waiting)).2
    · exact Nat.lt_of_lt_of_le (orderly.made waiting) more
  · intro other another call waiting waiting'
    rw [stages] at waiting waiting'
    split at waiting <;> split at waiting'
    · omega
    · have old := orderly.made waiting'
      have := (new call (Option.some.inj waiting)).1
      omega
    · have old := orderly.made waiting
      have := (new call (Option.some.inj waiting')).1
      omega
    · exact orderly.apart waiting waiting'

theorem deliver (orderly : ledger.Orderly) (call : Nat) (reply : Reply) :
    (ledger.deliver call reply).Orderly := by
  cases first : (ledger.replies.lookup call).isSome with
  | true =>
    rw [Ledger.deliver, if_pos first]
    exact orderly
  | false =>
    have same : (ledger.deliver call reply).posts = ledger.posts := by
      simp [Ledger.deliver, first]
    have old {handle waited : Nat}
        (waiting : (ledger.deliver call reply).stage? handle = some (.waiting waited)) :
        ledger.stage? handle = some (.waiting waited) := by
      rw [stage?_deliver reply first, Option.map_eq_some_iff] at waiting
      obtain ⟨stage, found, hears⟩ := waiting
      rw [found, waiting_of_hear hears]
    exact ⟨fun waiting => same ▸ orderly.made (old waiting),
      fun waiting waiting' => orderly.apart (old waiting) (old waiting')⟩

theorem turn (orderly : ledger.Orderly) (handle : Nat) : (ledger.turn handle).1.Orderly := by
  have turned := ledger.turned handle
  generalize ledger.turn handle = after at turned ⊢
  cases turned with
  | passed => exact orderly
  | posted found =>
    refine orderly.advanceTo found (ledger.posts + 1) (Nat.le_succ _) fun call waits => ?_
    cases waits
    exact ⟨Nat.le_refl _, Nat.lt_succ_self _⟩
  | finished found =>
    exact orderly.advanceTo found (ledger.posts + 1) (Nat.le_succ _) fun call waits => nomatch waits
  | concluded found =>
    exact orderly.advanceTo found ledger.posts (Nat.le_refl _) fun call waits => nomatch waits

theorem move (orderly : ledger.Orderly) (move : Move) : (ledger.move move).1.Orderly := by
  cases move with
  | turn handle => exact orderly.turn handle
  | takeQueue => exact orderly
  | act action =>
    cases action with
    | fill who form => exact orderly.setForm who form
    | login who => exact (orderly.setForm who .empty).enter who _
    | load who next => exact orderly.enter who _
    | reply call reply => exact orderly.deliver call reply
    | _ => exact orderly

theorem follow (orderly : ledger.Orderly) (moves : List Move) :
    (ledger.follow moves).1.Orderly := by
  induction moves generalizing ledger with
  | nil => exact orderly
  | cons move rest ih => exact ih (orderly.move move)

theorem map_hear (orderly : ledger.Orderly) {handle call : Nat} {entry : Entry} (reply : Reply)
    (found : ledger.entries[handle]? = some entry) (waits : entry.stage = .waiting call) :
    (ledger.entries.map fun entry => { entry with stage := entry.stage.hear call reply }) =
      ledger.entries.set handle { entry with stage := .answered reply } := by
  obtain ⟨within, -⟩ := List.getElem?_eq_some_iff.1 found
  apply List.ext_getElem?
  intro other
  rw [List.getElem?_map, List.getElem?_set]
  by_cases same : handle = other
  · subst same
    rw [if_pos rfl, if_pos within, found, Option.map_some, waits, Stage.hear, if_pos rfl]
  · rw [if_neg same]
    cases there : ledger.entries[other]? with
    | none => rfl
    | some another =>
      have stays : another.stage.hear call reply = another.stage := by
        cases stage : another.stage with
        | waiting waited =>
          have differs : waited ≠ call := by
            rintro rfl
            exact same (orderly.apart ((stage?_of_entry found).trans (congrArg some waits))
              ((stage?_of_entry there).trans (congrArg some stage)))
          rw [Stage.hear, if_neg differs]
        | _ => rfl
      rw [Option.map_some, stays]

end Orderly

end Ledger

end PracticeClient.Clients
