import Mathlib.Data.List.Basic
import Mathlib.Data.List.Induction
import PracticeClient.Proofs.Client.History

namespace PracticeClient.Clients

/-! ## Changes -/

def Deed.change? : Deed → Option StoreCall
  | .conclude _ (.login request) answer => (Verdict.ofAnswer answer).change? request.username
  | .logout => some Session.clearing
  | .order call => if call.isChange then some call else none
  | _ => none

/-- The session that a deed leaves: the token of an accepted login and the user who dispatched it,
or none at a logout. -/
def Deed.session? : Deed → Option (Option (String × String))
  | .conclude _ (.login request) answer =>
    match Verdict.ofAnswer answer with
    | .accepted token => some (some (token, request.username))
    | .refused => none
    | .unreachable => none
  | .logout => some none
  | _ => none

def sessionCall : Option (String × String) → StoreCall
  | some (token, username) => Session.establishing token username
  | none => Session.clearing

theorem isPublic_of_change {event : Event} {call : StoreCall} (change : event.change? = some call) :
    event.isPublic = true := by
  cases event with
  | stored stored =>
    cases changes : stored.isChange with
    | true => exact changes
    | false => simp [Event.change?, changes] at change
  | _ => cases change

theorem Deed.Shows.changes {deed : Deed} {events : List Event} (shows : deed.Shows events) :
    events.filterMap Event.change? = deed.change?.toList := by
  cases deed with
  | post handle errand => subst shows; rfl
  | logout => subst shows; rfl
  | order call =>
    subst shows
    cases change : call.isChange <;> simp [Event.change?, Deed.change?, change]
  | conclude handle errand answer =>
    cases errand with
    | login request =>
      obtain ⟨notification, -, rfl⟩ := shows
      cases verdict : Verdict.ofAnswer answer <;> simp [Deed.change?, verdict, Verdict.change?,
        Event.change?, Session.establishing, StoreCall.isChange]
    | load next => cases answer <;> subst shows <;> rfl

/-! ## Who orders them -/

def Move.isIndirect : Move → Bool
  | .act (.call call) => !call.isChange
  | .act (.establish _ _) => false
  | .act .clear => false
  | _ => true

def Deed.isOrder : Deed → Bool
  | .order _ => true
  | _ => false

theorem deeds_no_order (handle : Nat) (errand : Errand) (reply : Reply) :
    ∀ deed ∈ errand.deeds handle reply, deed.isOrder = false := by
  cases reply with
  | die => simp [Errand.deeds]
  | answer answer =>
    cases errand with
    | login request => simp [Errand.deeds, Deed.isOrder]
    | load next => cases next <;> cases answer <;> simp [Errand.deeds, Deed.isOrder]

theorem turn_no_order (ledger : Ledger) (handle : Nat) :
    ∀ deed ∈ (ledger.turn handle).2, deed.isOrder = false := by
  have turned := ledger.turned handle
  generalize ledger.turn handle = after at turned ⊢
  cases turned with
  | passed => simp
  | posted => simp [Deed.isOrder]
  | @finished entry reply =>
    simpa [Deed.isOrder] using deeds_no_order handle entry.errand reply
  | @concluded entry reply => exact deeds_no_order handle entry.errand reply

theorem move_no_order (ledger : Ledger) {move : Move} (indirect : move.isIndirect = true) :
    ∀ deed ∈ (ledger.move move).2, deed.isOrder = false := by
  cases move with
  | turn handle => exact turn_no_order ledger handle
  | takeQueue => simp [Ledger.move]
  | act action =>
    cases action with
    | call call =>
      have reads : call.isChange = false := by simpa [Move.isIndirect] using indirect
      simp [Ledger.move, Ledger.act, reads]
    | establish token username => cases indirect
    | clear => cases indirect
    | logout => simp [Ledger.move, Ledger.act, Deed.isOrder]
    | _ => simp [Ledger.move, Ledger.act]

theorem follow_no_order (ledger : Ledger) {moves : List Move}
    (indirect : ∀ move ∈ moves, move.isIndirect = true) :
    ∀ deed ∈ (ledger.follow moves).2, deed.isOrder = false := by
  induction moves generalizing ledger with
  | nil => simp [Ledger.follow]
  | cons move rest ih =>
    have first := move_no_order ledger (indirect move List.mem_cons_self)
    have later := ih (ledger.move move).1 fun other member =>
      indirect other (List.mem_cons_of_mem move member)
    intro deed member
    rcases List.mem_append.1 member with now | afterwards
    · exact first deed now
    · exact later deed afterwards

theorem changes_of_no_order {deeds : List Deed}
    (indirect : ∀ deed ∈ deeds, deed.isOrder = false) :
    deeds.filterMap Deed.change? = (deeds.filterMap Deed.session?).map sessionCall := by
  rw [List.map_filterMap]
  refine List.filterMap_congr fun deed member => ?_
  cases deed with
  | post handle errand => rfl
  | logout => rfl
  | order call => cases indirect _ member
  | conclude handle errand answer =>
    cases errand with
    | login request =>
      cases verdict : Verdict.ofAnswer answer <;>
        simp [Deed.change?, Deed.session?, verdict, Verdict.change?, sessionCall]
    | load next => rfl

/-! ## Stores that act as tables -/

def replay (table : Table String) (changes : List StoreCall) : Table String :=
  changes.foldl (fun table call => (Store.onTable call table).2) table

/-- A way to see stores as tables: every call is answered as the table would answer, and leaves a
store that is seen as the table after it. -/
structure ActsAsTable (Holds : Table String → Store → Machine → Prop) : Prop where
  performs : ∀ {table : Table String} {store : Store} {machine : Machine} (call : StoreCall),
    Holds table store machine →
      let ((answer, store), machine, _) := (store.perform call).run Machine.handle (machine, [])
      answer = (Store.onTable call table).1 ∧ Holds (Store.onTable call table).2 store machine

def InMemory (table : Table String) (store : Store) (_ : Machine) : Prop :=
  store = .memory table ∨ store = .plain table ∨ store = .batching table

theorem run_setEach (entries : List (String × String)) (table : Table String)
    (state : Machine × List SystemEvent) :
    ((Store.setEach entries table).run Machine.handle state).1 = table.insertMany entries := by
  induction entries generalizing table state with
  | nil => rfl
  | cons entry rest ih => exact ih _ _

theorem run_removeEach (keys : List String) (table : Table String)
    (state : Machine × List SystemEvent) :
    ((Store.removeEach keys table).run Machine.handle state).1 = table.eraseMany keys := by
  induction keys generalizing table state with
  | nil => rfl
  | cons key rest ih => exact ih _ _

theorem run_onPlain (call : StoreCall) (table : Table String)
    (state : Machine × List SystemEvent) :
    ((Store.onPlain call table).run Machine.handle state).1 = Store.onTable call table := by
  cases call with
  | setMany entries =>
    have result := run_setEach entries table state
    simp only [Store.onPlain, Program.bind_eq, Program.run_bind, Program.pure_eq_done,
      Program.run_done, result]
    rfl
  | removeMany keys =>
    have result := run_removeEach keys table state
    simp only [Store.onPlain, Program.bind_eq, Program.run_bind, Program.pure_eq_done,
      Program.run_done, result]
    rfl
  | get key => rfl
  | set key value => rfl
  | remove key => rfl

theorem inMemory_actsAsTable : ActsAsTable InMemory where
  performs := by
    rintro table store machine call (rfl | rfl | rfl)
    · exact ⟨rfl, .inl rfl⟩
    · have result := run_onPlain call table (machine, [])
      simp only [Store.perform, Program.bind_eq, Program.run_bind, Program.pure_eq_done,
        Program.run_done, result]
      exact ⟨trivial, .inr (.inl rfl)⟩
    · exact ⟨rfl, .inr (.inr rfl)⟩

def Tracks (Holds : Table String → Store → Machine → Prop) (initial : Table String)
    (clients : Clients) : Prop :=
  Holds (replay initial (clients.events.filterMap Event.change?)) clients.store clients.machine

section

variable {Holds : Table String → Store → Machine → Prop} {initial : Table String}

theorem replay_append (table : Table String) (changes more : List StoreCall) :
    replay table (changes ++ more) = replay (replay table changes) more :=
  List.foldl_append

theorem replay_call (table : Table String) (call : StoreCall) :
    replay table (Event.change? (.stored call)).toList = (Store.onTable call table).2 := by
  cases call <;> rfl

theorem filterMap_change_system (events : List SystemEvent) :
    (events.map Event.system).filterMap Event.change? = [] := by
  rw [List.filterMap_map, List.filterMap_eq_nil_iff]
  intro event member
  rfl

theorem tracks_callStore (acts : ActsAsTable Holds) {clients : Clients}
    (tracks : Tracks Holds initial clients) (call : StoreCall) :
    (clients.callStore call).1 =
        (Store.onTable call (replay initial (clients.events.filterMap Event.change?))).1 ∧
      Tracks Holds initial (clients.callStore call).2 := by
  obtain ⟨answer, holds⟩ := acts.performs call tracks
  refine ⟨answer, ?_⟩
  have changes : (clients.callStore call).2.events.filterMap Event.change? =
      clients.events.filterMap Event.change? ++ (Event.change? (.stored call)).toList := by
    simp only [callStore, List.filterMap_append, List.filterMap_cons, filterMap_change_system]
    cases Event.change? (.stored call) <;> rfl
  rw [Tracks, changes, replay_append, replay_call]
  exact holds

theorem tracks_note {clients : Clients} (tracks : Tracks Holds initial clients) {event : Event}
    (quiet : event.change? = none) : Tracks Holds initial (clients.note event) := by
  have changes : (clients.note event).events.filterMap Event.change? =
      clients.events.filterMap Event.change? := by
    simp [note, List.filterMap_append, quiet]
  rw [Tracks, changes]
  exact tracks

theorem tracks_advance {α : Type} (acts : ActsAsTable Holds) (handle : Nat) (program : Client α)
    {clients : Clients} (tracks : Tracks Holds initial clients) :
    Tracks Holds initial (advance handle program clients).2 := by
  induction program generalizing clients with
  | done result => exact tracks
  | step effect next ih =>
    cases effect with
    | store call => exact ih _ (tracks_callStore acts tracks call).2
    | notify notification => exact ih _ (tracks_note tracks rfl)
    | log entry => exact ih _ (tracks_note tracks rfl)
    | complete => exact ih _ (tracks_note tracks rfl)
    | abort => exact tracks
    | post endpoint body =>
      have quiet : Event.change? (.posted endpoint body) = none := rfl
      have sent : Tracks Holds initial (clients.sent endpoint body) := tracks_note tracks quiet
      rw [advance_post]
      cases clients.replies.lookup clients.posts with
      | none => exact sent
      | some reply =>
        cases reply with
        | die => exact sent
        | answer answer => exact ih _ sent

theorem tracks_setDesk {clients : Clients} (tracks : Tracks Holds initial clients) (who : Who)
    (desk : Desk) : Tracks Holds initial (clients.setDesk who desk) := by
  cases who <;> exact tracks

theorem tracks_run (acts : ActsAsTable Holds) {clients : Clients}
    (tracks : Tracks Holds initial clients) (handle : Nat) :
    Tracks Holds initial (clients.run handle) := by
  rcases run_cases clients handle with ⟨same, -⟩ | ⟨task, program, found, ready⟩
  · rwa [same]
  · rw [run_of_ready found ready]
    have advanced := tracks_advance acts handle program tracks
    obtain ⟨count, same⟩ := landed_eq (advance handle program clients).2 task
      (advance handle program clients).1
    rw [same]
    exact tracks_setDesk advanced task.who _

/-! ## Courses -/

def Move.isOutside : Move → Bool
  | .act (.file _) => true
  | .act (.fault _) => true
  | .act (.mend _ _) => true
  | .act (.secret _ _) => true
  | _ => false

def Spares (Holds : Table String → Store → Machine → Prop) (move : Move) : Prop :=
  move.isOutside = true → ∀ (table : Table String) (clients : Clients),
    Holds table clients.store clients.machine →
      Holds table (clients.move move).store (clients.move move).machine

theorem inMemory_spares (move : Move) : Spares InMemory move := by
  intro outside table clients holds
  cases move with
  | turn handle => cases outside
  | takeQueue => cases outside
  | act action =>
    cases action with
    | file step => exact holds
    | fault fault => exact holds
    | mend action key => exact holds
    | secret key secret => exact holds
    | _ => cases outside

theorem tracks_perform {α : Type} (acts : ActsAsTable Holds) {clients : Clients}
    (tracks : Tracks Holds initial clients) (program : Client α) :
    Tracks Holds initial (clients.perform program).2 := by
  rw [perform_snd]
  exact tracks_advance acts _ program tracks

theorem tracks_login {clients : Clients} (tracks : Tracks Holds initial clients) (who : Who) :
    Tracks Holds initial (clients.login who).2 := by
  rw [login_snd]
  exact dispatching_cases (motive := Tracks Holds initial) clients who (tracks_setDesk tracks who _)
    fun _ _ before => tracks_note before rfl

theorem tracks_deliver {clients : Clients} (tracks : Tracks Holds initial clients) (call : Nat)
    (reply : Reply) : Tracks Holds initial (clients.deliver call reply).2 := by
  rcases deliver_cases clients call reply with
    ⟨-, delivered⟩ | ⟨-, ⟨-, delivered⟩ | ⟨handle, asleep, awake, -, -, delivered⟩⟩ <;>
  · rw [delivered]
    exact tracks

theorem tracks_poll {clients : Clients} (tracks : Tracks Holds initial clients) (handle : Nat) :
    Tracks Holds initial (clients.poll handle).2 := by
  rcases poll_cases clients handle with
    same | ⟨task, -, -, ⟨result, -, polled⟩ | ⟨-, polled⟩⟩
  · rwa [same]
  · rw [polled]
    exact tracks
  · rw [polled]
    have logged : Tracks Holds initial (clients.noteLog lostEntry) := tracks_note tracks rfl
    exact logged

theorem tracks_drop {clients : Clients} (tracks : Tracks Holds initial clients) (handle : Nat) :
    Tracks Holds initial (clients.drop handle).2 := by
  rcases drop_cases clients handle with ⟨-, same⟩ | ⟨task, -, dropped⟩
  · rwa [same]
  · rw [dropped]
    exact tracks

theorem tracks_move (acts : ActsAsTable Holds) {clients : Clients}
    (tracks : Tracks Holds initial clients) {move : Move} (spares : Spares Holds move) :
    Tracks Holds initial (clients.move move) := by
  cases move with
  | turn handle => exact tracks_run acts tracks handle
  | takeQueue => exact tracks
  | act action =>
    cases action with
    | call call => exact (tracks_callStore acts tracks call).2
    | askPath => exact tracks
    | askAuthenticated => exact tracks_perform acts tracks _
    | askUsername => exact tracks_perform acts tracks Session.currentUsername
    | establish token username => exact tracks_perform acts tracks _
    | clear => exact tracks_perform acts tracks _
    | fill who form => exact tracks_setDesk tracks who _
    | login who => exact tracks_login tracks who
    | load who next => exact tracks
    | logout => exact tracks_perform acts tracks _
    | askInFlight who => exact tracks
    | reply call reply => exact tracks_deliver tracks call reply
    | poll handle => exact tracks_poll tracks handle
    | drop handle => exact tracks_drop tracks handle
    | file step => exact spares rfl _ clients tracks
    | fault fault => exact spares rfl _ clients tracks
    | mend action key => exact spares rfl _ clients tracks
    | secret key secret => exact spares rfl _ clients tracks

theorem tracks_course (acts : ActsAsTable Holds) {clients : Clients}
    (tracks : Tracks Holds initial clients) {moves : List Move}
    (spares : ∀ move ∈ moves, Spares Holds move) :
    Tracks Holds initial (clients.course moves) := by
  induction moves generalizing clients with
  | nil => exact tracks
  | cons move rest ih =>
    have next := tracks_move acts tracks (spares move List.mem_cons_self)
    exact ih next fun other member => spares other (List.mem_cons_of_mem move member)

/-! ## The session that is left -/

def valueAfter (initial : Table String) (last : Option (Option (String × String))) (key : String) :
    Option String :=
  match last with
  | none => initial.get? key
  | some session =>
    if key = Session.tokenKey then session.map Prod.fst
    else if key = Session.usernameKey then session.map Prod.snd
    else initial.get? key

theorem get?_onTable_session (table : Table String) (session : Option (String × String))
    (key : String) :
    (Store.onTable (sessionCall session) table).2.get? key = valueAfter table (some session) key := by
  have differ : Session.usernameKey ≠ Session.tokenKey := by decide
  cases session with
  | none =>
    simp only [sessionCall, Session.clearing, Store.onTable, Table.eraseMany, List.foldl_cons,
      List.foldl_nil, Table.get?_erase, valueAfter, Option.map_none]
    by_cases token : key = Session.tokenKey
    · simp [token]
    · simp [token]
  | some pair =>
    simp only [sessionCall, Session.establishing, Store.onTable, Table.insertMany, List.foldl_cons,
      List.foldl_nil, Table.get?_insert, valueAfter, Option.map_some]
    by_cases token : key = Session.tokenKey
    · subst token
      simp [differ.symm]
    · simp [token]

theorem valueAfter_of_ne (initial : Table String) (last : Option (Option (String × String)))
    {key : String} (token : key ≠ Session.tokenKey) (username : key ≠ Session.usernameKey) :
    valueAfter initial last key = initial.get? key := by
  unfold valueAfter
  cases last with
  | none => rfl
  | some session => simp only [token, username, if_false]

theorem get?_replay_sessions (initial : Table String) (sessions : List (Option (String × String)))
    (key : String) :
    (replay initial (sessions.map sessionCall)).get? key =
      valueAfter initial sessions.getLast? key := by
  induction sessions using List.reverseRecOn with
  | nil => rfl
  | append_singleton earlier session ih =>
    rw [List.map_append, replay_append, List.getLast?_concat]
    change (Store.onTable (sessionCall session) _).2.get? key = _
    rw [get?_onTable_session]
    by_cases token : key = Session.tokenKey
    · simp only [valueAfter, token, if_true]
    by_cases username : key = Session.usernameKey
    · simp only [valueAfter, username, if_true]
    · rw [valueAfter_of_ne _ _ token username, ih, valueAfter_of_ne _ _ token username,
        valueAfter_of_ne _ _ token username]

/-- A store with the session of the last login or logout that counted, the values from before
where there was none, and under other keys those from before anyway. -/
structure HasSession (initial : Table String) (deeds : List Deed) (clients : Clients) : Prop where
  values : ∀ key, (clients.callStore (.get key)).1 =
    valueAfter initial (deeds.filterMap Deed.session?).getLast? key
  others : ∀ key, key ≠ Session.tokenKey → key ≠ Session.usernameKey →
    (clients.callStore (.get key)).1 = initial.get? key
  /-- A token and a username that stand together are from the same login. -/
  paired : ∀ token username,
    (clients.callStore (.get Session.tokenKey)).1 = some token →
    (clients.callStore (.get Session.usernameKey)).1 = some username →
    deeds.filterMap Deed.session? = [] ∨
      ∃ handle request answer, Deed.conclude handle (.login request) answer ∈ deeds ∧
        Verdict.ofAnswer answer = .accepted token ∧ request.username = username

theorem mem_of_session {deeds : List Deed} {token username : String}
    (member : some (token, username) ∈ deeds.filterMap Deed.session?) :
    ∃ handle request answer, Deed.conclude handle (.login request) answer ∈ deeds ∧
      Verdict.ofAnswer answer = .accepted token ∧ request.username = username := by
  obtain ⟨deed, present, session⟩ := List.mem_filterMap.1 member
  cases deed with
  | post handle errand => cases session
  | logout => cases session
  | order call => cases session
  | conclude handle errand answer =>
    cases errand with
    | load next => cases session
    | login request =>
      cases verdict : Verdict.ofAnswer answer with
      | accepted accepted =>
        simp only [Deed.session?, verdict, Option.some.injEq, Prod.mk.injEq] at session
        obtain ⟨rfl, rfl⟩ := session
        exact ⟨handle, request, answer, present, verdict, rfl⟩
      | refused => simp [Deed.session?, verdict] at session
      | unreachable => simp [Deed.session?, verdict] at session

theorem hasSession_of_tracks (acts : ActsAsTable Holds) {clients : Clients}
    (tracks : Tracks Holds initial clients) {deeds : List Deed}
    (changes : clients.events.filterMap Event.change? =
      (deeds.filterMap Deed.session?).map sessionCall) :
    HasSession initial deeds clients := by
  have values (key : String) : (clients.callStore (.get key)).1 =
      valueAfter initial (deeds.filterMap Deed.session?).getLast? key := by
    rw [← get?_replay_sessions, ← changes]
    exact (tracks_callStore acts tracks (.get key)).1
  refine ⟨values, fun key token username => ?_, fun token username first second => ?_⟩
  · rw [values, valueAfter_of_ne _ _ token username]
  · rw [values] at first second
    cases last : (deeds.filterMap Deed.session?).getLast? with
    | none => exact .inl (List.getLast?_eq_none_iff.1 last)
    | some session =>
      rw [last] at first second
      cases session with
      | none => cases first
      | some pair =>
        cases first
        cases second
        exact .inr (mem_of_session (List.mem_of_getLast? last))

/-- Over a course in which nobody orders changes directly, the changes that reach the store are one
for each accepted login and one for each logout, in the order of these deeds. A store that acts as
a table then has the session of the last of them. -/
theorem course_changes (machine : Machine) (store : Store) {moves : List Move}
    (indirect : ∀ move ∈ moves, move.isIndirect = true) :
    let start := Clients.opening machine store
    let (ledger, deeds) := Ledger.opening.follow moves
    Tells start moves ledger deeds ∧
      (start.course moves).events.filterMap Event.change? =
        (deeds.filterMap Deed.session?).map sessionCall ∧
      ∀ {Holds : Table String → Store → Machine → Prop} {initial : Table String},
        ActsAsTable Holds → (∀ move ∈ moves, Spares Holds move) → Holds initial store machine →
        HasSession initial deeds (start.course moves) := by
  have tells := course_tells machine store moves
  have changes : ((Clients.opening machine store).course moves).events.filterMap Event.change? =
      ((Ledger.opening.follow moves).2.filterMap Deed.session?).map sessionCall := by
    rw [← filterMap_shown isPublic_of_change, tells.shown.filterMap_eq Deed.Shows.changes]
    exact changes_of_no_order (follow_no_order .opening indirect)
  refine ⟨tells, changes, fun {Holds initial} acts spares holds => ?_⟩
  have tracks : Tracks Holds initial (.opening machine store) := holds
  exact hasSession_of_tracks acts (tracks_course acts tracks spares) changes

def accepting (token : String) : Reply :=
  .answer (.ok (.object [("success", .number (.integer 1)), ("token", .string token)]))

/-- Two clients sign in, the later one is answered first and signs out again, and then the earlier
one is answered. -/
def crossing : List Move :=
  [.act (.fill .first ⟨"ana", "sun"⟩), .act (.login .first),
    .act (.fill .second ⟨"bob", "sea"⟩), .act (.login .second),
    .turn 1, .turn 0, .act (.reply 0 (accepting "b")), .turn 1, .act .logout,
    .act (.reply 1 (accepting "a")), .turn 0]

theorem course_changes_crossing :
    let clients := (Clients.opening ⟨.empty, .empty⟩ (.memory .empty)).course crossing
    (∀ move ∈ crossing, move.isIndirect = true) ∧
      (clients.callStore (.get Session.tokenKey)).1 = some "a" ∧
      (clients.callStore (.get Session.usernameKey)).1 = some "ana" := by
  have indirect : ∀ move ∈ crossing, move.isIndirect = true := by decide
  obtain ⟨-, -, session⟩ := course_changes ⟨.empty, .empty⟩ (.memory .empty) indirect
  obtain ⟨values, -, -⟩ := session inMemory_actsAsTable
    (fun move _ => inMemory_spares move) (.inl rfl)
  exact ⟨indirect, values Session.tokenKey, values Session.usernameKey⟩

end

end PracticeClient.Clients
