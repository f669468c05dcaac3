import PracticeClient.Proofs.Client.Notices
import PracticeClient.Proofs.Client.Standing

namespace PracticeClient.Clients

open Session

def notices (clients : Clients) : List Notification :=
  clients.events.filterMap Event.notification?

theorem notices_eq (clients : Clients) :
    clients.notices = clients.shown.filterMap Event.notification? :=
  (filterMap_shown isPublic_of_notification clients).symm

@[simp] theorem notices_callStore (clients : Clients) (call : StoreCall) :
    (clients.callStore call).2.notices = clients.notices := by
  rw [notices_eq, notices_eq, shown_callStore, List.filterMap_append]
  cases call.isChange with
  | true => exact List.append_nil _
  | false => exact List.append_nil _

@[simp] theorem notices_noteLog (clients : Clients) (entry : LogEntry) :
    (clients.noteLog entry).notices = clients.notices := by
  rw [notices_eq, notices_eq, shown_noteLog]

@[simp] theorem notices_notified (clients : Clients) (notification : Notification) :
    (clients.note (.notified notification)).notices = clients.notices ++ [notification] := by
  simp [notices, note, Event.notification?]

/-! ## Logging out -/

def loggedOut (clients : Clients) : Clients :=
  (((clients.callStore clearing).2.noteLog (.debug "Session cleared" [])).noteLog
    (.info "Logged out" [])).note (.notified ⟨.success, Account.farewell⟩)

theorem advance_logout_eq (handle : Nat) (clients : Clients) :
    advance handle Account.logout clients = (.ended (), clients.loggedOut) := rfl

/-- Every logout says goodbye, whoever calls for it, and the user is signed in afterwards just if a
session was held that the store could not remove and can still be read. -/
theorem signed_in_after_logout_iff (clients : Clients) :
    (clients.act .logout).2 = clients.loggedOut ∧
      (∀ handle, advance handle Account.logout clients = (.ended (), clients.loggedOut)) ∧
      clients.loggedOut.notices = clients.notices ++ [⟨.success, "Goodbye"⟩] ∧
      ((clients.loggedOut.act .askAuthenticated).1 = .flag true ↔
        clients.store.HoldsSession clients.machine ∧ clients.store.Resists clients.machine ∧
          clients.loggedOut.Legible) := by
  have said : clients.loggedOut.notices = clients.notices ++ [⟨.success, Account.farewell⟩] := by
    simp [loggedOut]
  have left : clients.loggedOut.store.HoldsSession clients.loggedOut.machine ↔
      clients.store.HoldsSession clients.machine ∧ clients.store.Resists clients.machine := by
    obtain ⟨-, store, machine⟩ := clients.callStore_eq clearing
    have cleared := Store.holds_after_clearing clients.store clients.machine
    rw [← store, ← machine] at cleared
    exact cleared
  refine ⟨?_, fun handle => advance_logout_eq handle clients, said, ?_⟩
  · change (clients.perform Account.logout).2 = _
    rw [perform_snd, advance_logout_eq]
  · rw [authenticated_iff, left, and_assoc]

/-- A session that cannot be taken away from its file, as what should be written aside first has no
place: another value has to stay in the file. -/
def obstructed : Clients :=
  let session := FileStore.encode (.ofList [("theme", "dark"), ("token", "t"), ("username", "ana")])
  let files : FileSystem :=
    ⟨[(["session.json.tmp"], .directory), (["session.json"], .file session)], [], []⟩
  .opening ⟨files, .empty⟩ (.file ⟨false, ["session.json"]⟩)

theorem signed_in_after_logout_obstructed :
    (obstructed.act .logout).2.notices = [⟨.success, "Goodbye"⟩] ∧
      (((obstructed.act .logout).2).act .askAuthenticated).1 = .flag true := by
  decide +kernel

/-! ## Logging in -/

structure SignedInAs (clients : Clients) (token username : String) : Prop where
  token : (clients.act (.call (.get tokenKey))).1 = .text (some token)
  username : (clients.act .askUsername).1 = .text (some username)
  authenticated : (clients.act .askAuthenticated).1 = .flag true

theorem signedInAs_iff (clients : Clients) (token username : String) :
    clients.SignedInAs token username ↔
      (clients.held tokenKey = some token ∧ clients.held usernameKey = some username) ∧
        clients.Legible := by
  have first : (clients.act (.call (.get tokenKey))).1 =
      .text (clients.callStore (.get tokenKey)).1 := rfl
  have second : (clients.act .askUsername).1 =
      .text (clients.callStore (.get usernameKey)).1 := rfl
  constructor
  · rintro ⟨token', username', authenticated⟩
    rw [first, Outcome.text.injEq] at token'
    rw [second, Outcome.text.injEq] at username'
    exact ⟨⟨(get_eq_some token').1, (get_eq_some username').1⟩,
      ((authenticated_iff clients).1 authenticated).2⟩
  · rintro ⟨⟨token', username'⟩, legible⟩
    refine ⟨?_, ?_, ?_⟩
    · rw [first, get_of_readable legible.first, token']
    · rw [second, get_of_readable legible.second, username']
    · rw [authenticated_iff]
      exact ⟨⟨Option.isSome_iff_exists.2 ⟨token, token'⟩,
        Option.isSome_iff_exists.2 ⟨username, username'⟩⟩, legible⟩

def accepted (clients : Clients) (token username : String) : Clients :=
  (clients.established token username).welcomed username

theorem held_accepted (clients : Clients) (token username key : String) :
    (clients.accepted token username).held key =
      (clients.established token username).held key :=
  held_after_get (clients.established token username) usernameKey key

theorem holds_accepted_iff (clients : Clients) (token username : String) :
    ((clients.accepted token username).held tokenKey = some token ∧
        (clients.accepted token username).held usernameKey = some username) ↔
      clients.store.Takes clients.machine token username := by
  obtain ⟨-, store, machine⟩ := clients.callStore_eq (establishing token username)
  have takes := Store.holds_after_establishing clients.store clients.machine token username
  rw [← store, ← machine] at takes
  rw [held_accepted, held_accepted]
  exact takes

theorem notices_accepted (clients : Clients) (token username : String) :
    ∃ name, (clients.accepted token username).notices =
        clients.notices ++ [⟨.success, Account.welcome name⟩] ∧
      ((clients.accepted token username).held usernameKey = some username → name = username) := by
  refine ⟨(clients.established token username).storedName.getD username, ?_, fun held => ?_⟩
  · simp [accepted, welcomed, established]
  · rw [held_accepted] at held
    cases found : (clients.established token username).storedName with
    | none => rfl
    | some name =>
      obtain ⟨there, -⟩ := get_eq_some found
      rw [held] at there
      cases there
      rfl

theorem conclude_accepted {answer : ServerAnswer} {token : String}
    (accepts : Verdict.ofAnswer answer = .accepted token) (username : String) :
    Account.conclude username answer = Account.accept token username := by
  cases answer with
  | error error => cases accepts
  | ok body =>
    unfold Verdict.ofAnswer at accepts
    unfold Account.conclude
    cases reply : LoginReply.interpret body with
    | accepted token' =>
      simp only [reply, Verdict.accepted.injEq] at accepts
      subst accepts
      simp only [reply]
    | rejected => simp [reply] at accepts
    | malformed reason => simp [reply] at accepts

structure Alike (clients other : Clients) : Prop where
  store : other.store = clients.store
  machine : other.machine = clients.machine
  notices : other.notices = clients.notices

theorem alike_landed (clients : Clients) (task : Task) (progress : Progress TaskResult)
    (handle : Nat) (after : Task) :
    Alike clients ((clients.landed task progress).setTask handle after) := by
  obtain ⟨-, -, -, -, shown⟩ := landed_frame clients task progress
  obtain ⟨count, same⟩ := landed_eq clients task progress
  refine ⟨?_, ?_, ?_⟩
  · change (clients.landed task progress).store = _
    rw [same]
    cases task.who <;> rfl
  · change (clients.landed task progress).machine = _
    rw [same]
    cases task.who <;> rfl
  · change (clients.landed task progress).notices = _
    rw [notices_eq, notices_eq, shown]

theorem alike_sent (clients : Clients) (errand : Errand) :
    Alike clients ((clients.begun errand).sent errand.endpoint errand.body) := by
  refine ⟨?_, ?_, ?_⟩
  · cases errand <;> rfl
  · cases errand <;> rfl
  · rw [notices_eq, notices_eq, shown_sent, shown_begun, List.filterMap_append]
    exact List.append_nil _

/-! ## The turn that ends a login -/

def outcome? (clients : Clients) (handle : Nat) : Option LoginOutcome :=
  match clients.tasks[handle]? with
  | some task =>
    match task.progress with
    | .ended (.login outcome) => some outcome
    | _ => none
  | none => none

def Ledger.Imminent (ledger : Ledger) (entry : Entry) (reply : Reply) : Prop :=
  entry.stage = .answered reply ∨
    (entry.stage = .queued ∧ ledger.replies.lookup ledger.posts = some reply)

theorem closed_of_enter {ledger : Ledger} {who : Who} {errand : Errand} {handle : Nat}
    {entry : Entry} {reply : Reply}
    (there : (ledger.enter who errand).entries[handle]? = some entry)
    (closed : entry.stage = .closed reply) : ledger.entries[handle]? = some entry := by
  unfold Ledger.enter at there
  rcases Nat.lt_or_ge handle ledger.entries.length with within | beyond
  · rwa [List.getElem?_append_left within] at there
  · rw [List.getElem?_append_right beyond, List.getElem?_singleton] at there
    split at there
    · cases there
      cases closed
    · cases there

theorem closed_of_deliver {ledger : Ledger} {call : Nat} {heard : Reply} {handle : Nat}
    {entry : Entry} {reply : Reply}
    (there : (ledger.deliver call heard).entries[handle]? = some entry)
    (closed : entry.stage = .closed reply) : ledger.entries[handle]? = some entry := by
  unfold Ledger.deliver at there
  split at there
  · exact there
  · rw [List.getElem?_map, Option.map_eq_some_iff] at there
    obtain ⟨earlier, found, rfl⟩ := there
    obtain ⟨who, errand, stage⟩ := earlier
    cases stage with
    | waiting waited =>
      by_cases same : waited = call
      · simp [Stage.hear, same] at closed
      · simp [Stage.hear, same] at closed
    | _ => exact found

theorem closed_of_advanceTo {ledger : Ledger} {posts other handle : Nat} {earlier entry : Entry}
    {stage : Stage} {reply : Reply}
    (there : (({ ledger with posts } : Ledger).advanceTo other earlier stage).entries[handle]? =
      some entry)
    (closed : entry.stage = .closed reply) :
    ledger.entries[handle]? = some entry ∨
      (other = handle ∧ entry = { earlier with stage } ∧ stage = .closed reply) := by
  simp only [Ledger.advanceTo, List.getElem?_set] at there
  split at there
  · next same =>
    split at there
    · cases there
      exact .inr ⟨same, rfl, closed⟩
    · cases there
  · exact .inl there

theorem closed_of_turn {ledger : Ledger} {other handle : Nat} {entry : Entry} {reply : Reply}
    (there : (ledger.turn other).1.entries[handle]? = some entry)
    (closed : entry.stage = .closed reply) :
    ledger.entries[handle]? = some entry ∨
      (other = handle ∧ ∃ earlier, ledger.entries[handle]? = some earlier ∧
        earlier.who = entry.who ∧ earlier.errand = entry.errand ∧ ledger.Imminent earlier reply ∧
        ∀ deed ∈ entry.errand.deeds handle reply, deed ∈ (ledger.turn other).2) := by
  have turned := ledger.turned other
  generalize ledger.turn other = after at there turned ⊢
  cases turned with
  | passed => exact .inl there
  | posted found =>
    -- The task is left waiting, so it has not come to its end by this turn.
    refine (closed_of_advanceTo there closed).imp_right fun ⟨_, _, ended⟩ => ?_
    cases ended
  | @finished earlier _ found queued answered =>
    refine (closed_of_advanceTo there closed).imp_right fun ⟨same, entered, ended⟩ => ?_
    subst same entered
    cases ended
    exact ⟨rfl, earlier, found, rfl, rfl, .inr ⟨queued, answered⟩,
      fun deed member => List.mem_cons_of_mem _ member⟩
  | @concluded earlier _ found answered =>
    refine (closed_of_advanceTo there closed).imp_right fun ⟨same, entered, ended⟩ => ?_
    subst same entered
    cases ended
    exact ⟨rfl, earlier, found, rfl, rfl, .inl answered, fun deed member => member⟩

theorem closed_of_move {ledger : Ledger} {move : Move} {handle : Nat} {entry : Entry}
    {reply : Reply} (there : (ledger.move move).1.entries[handle]? = some entry)
    (closed : entry.stage = .closed reply) :
    ledger.entries[handle]? = some entry ∨
      (move = .turn handle ∧ ∃ earlier, ledger.entries[handle]? = some earlier ∧
        earlier.who = entry.who ∧ earlier.errand = entry.errand ∧ ledger.Imminent earlier reply ∧
        ∀ deed ∈ entry.errand.deeds handle reply, deed ∈ (ledger.move move).2) := by
  cases move with
  | takeQueue => exact .inl there
  | turn other =>
    rcases closed_of_turn there closed with before | ⟨rfl, now⟩
    · exact .inl before
    · exact .inr ⟨rfl, now⟩
  | act action =>
    left
    cases action with
    | login who => exact closed_of_enter there closed
    | load who next => exact closed_of_enter there closed
    | reply call heard => exact closed_of_deliver there closed
    | _ => exact there

theorem outcome_of_entry {ledger : Ledger} {clients : Clients} (keeps : Keeps ledger clients)
    {handle : Nat} {entry : Entry} (found : ledger.entries[handle]? = some entry) :
    clients.outcome? handle =
      match entry.progress with
      | .ended (.login outcome) => some outcome
      | _ => none := by
  obtain ⟨task, there, core⟩ := keeps.task found
  have progress : task.progress = entry.progress := congrArg (·.2.2) core
  unfold outcome?
  rw [there]
  simp only [progress]

theorem entry_of_established {ledger : Ledger} {clients : Clients} (keeps : Keeps ledger clients)
    {handle : Nat} (ended : clients.outcome? handle = some .established) :
    ∃ entry request answer token, ledger.entries[handle]? = some entry ∧
      entry.errand = .login request ∧ entry.stage = .closed (.answer answer) ∧
      Verdict.ofAnswer answer = .accepted token := by
  cases there : clients.tasks[handle]? with
  | none => simp [outcome?, there] at ended
  | some task =>
    obtain ⟨entry, found, -⟩ := keeps.entry there
    rw [outcome_of_entry keeps found] at ended
    obtain ⟨who, errand, stage⟩ := entry
    cases stage with
    | queued => simp [Entry.progress] at ended
    | waiting call => simp [Entry.progress] at ended
    | answered reply => cases reply <;> simp [Entry.progress] at ended
    | closed reply =>
      cases reply with
      | die => simp [Entry.progress] at ended
      | answer answer =>
        cases errand with
        | load next => cases next <;> cases answer <;> simp [Entry.progress, Errand.ending] at ended
        | login request =>
          cases verdict : Verdict.ofAnswer answer with
          | accepted token => exact ⟨_, request, answer, token, found, rfl, rfl, verdict⟩
          | refused => simp [Entry.progress, Errand.ending, verdict, Verdict.outcome] at ended
          | unreachable => simp [Entry.progress, Errand.ending, verdict, Verdict.outcome] at ended

theorem run_accepted {ledger : Ledger} {clients : Clients} (keeps : Keeps ledger clients)
    {handle : Nat} {entry : Entry} {request : LoginRequest} {answer : ServerAnswer}
    {token : String} (found : ledger.entries[handle]? = some entry)
    (errand : entry.errand = .login request) (imminent : ledger.Imminent entry (.answer answer))
    (accepts : Verdict.ofAnswer answer = .accepted token) :
    ∃ before, Alike clients before ∧
      Alike (before.accepted token request.username) (clients.run handle) := by
  obtain ⟨task, there, core⟩ := keeps.task found
  have progress : task.progress = entry.progress := congrArg (·.2.2) core
  have concludes (before : Clients) :
      (advance handle (entry.errand.conclusion answer) before).2 =
        before.accepted token request.username := by
    rw [errand, advance_conclude_login, conclude_accepted accepts, advance_accept]
    rfl
  rcases imminent with answered | ⟨queued, replied⟩
  · have ready : task.progress = .ready (entry.errand.conclusion answer) := by
      rw [progress, Entry.progress, answered]
    refine ⟨clients, ⟨rfl, rfl, rfl⟩, ?_⟩
    rw [run_of_ready there ready, ← concludes clients]
    exact alike_landed _ _ _ _ _
  · have ready : task.progress = .ready entry.errand.program := by
      rw [progress, Entry.progress, queued]
    refine ⟨_, alike_sent clients entry.errand, ?_⟩
    rw [← keeps.replies, ← keeps.posts] at replied
    have advanced := advance_program handle entry.errand clients
    rw [replied] at advanced
    rw [run_of_ready there ready, advanced, ← concludes _]
    exact alike_landed _ _ _ _ _

/-- A login that ends as established has been accepted and welcomes somebody. Whoever has logged in
is signed in just if the store has taken the session and can be read. -/
theorem signed_in_after_login_iff (machine : Machine) (store : Store) {moves : List Move}
    {move : Move} {handle : Nat}
    (running : ((opening machine store).course moves).outcome? handle = none)
    (ended : ((opening machine store).course (moves ++ [move])).outcome? handle =
      some .established) :
    let start := opening machine store
    let before := start.course moves
    let after := start.course (moves ++ [move])
    ∃ who request answer token name,
      (start.dispatches moves)[handle]? = some (who, .login request) ∧
      .conclude handle (.login request) answer ∈ ((Ledger.opening.follow moves).1.move move).2 ∧
      Verdict.ofAnswer answer = .accepted token ∧
      after.notices = before.notices ++ [⟨.success, s!"Welcome back, {name}"⟩] ∧
      ((after.SignedInAs token request.username ∧ name = request.username) ↔
        before.store.Takes before.machine token request.username ∧ after.Legible) := by
  obtain ⟨keeps, dispatched, -⟩ := course_tells machine store moves
  obtain ⟨-, orderly, -⟩ := course_keeps machine store moves
  obtain ⟨keeps', -⟩ := keeps_move keeps orderly move
  rw [course_append] at ended
  simp only [course_append]
  obtain ⟨entry, request, answer, token, there, errand, closed, accepts⟩ :=
    entry_of_established keeps' ended
  -- The login was still running, so this move was its turn.
  rcases closed_of_move there closed with earlier | ⟨rfl, earlier, found, who, same, imminent, deeds⟩
  · rw [outcome_of_entry keeps earlier, Entry.progress, closed] at running
    simp [errand, Errand.ending] at running
  · obtain ⟨between, alike, alike'⟩ :=
      run_accepted keeps found (same.trans errand) imminent accepts
    obtain ⟨name, said, named⟩ := notices_accepted between token request.username
    have holds := holds_accepted_iff between token request.username
    have sameHeld (key : String) :
        (((opening machine store).course moves).run handle).held key =
          (between.accepted token request.username).held key := by
      rw [held, alike'.store, alike'.machine, held]
    rw [alike.store, alike.machine, ← sameHeld, ← sameHeld] at holds
    refine ⟨entry.who, request, answer, token, name, ?_, deeds _ ?_, accepts, ?_, ?_⟩
    · rw [← dispatched, Ledger.errands, List.getElem?_map, found, Option.map_some, who, same, errand]
    · rw [errand]
      exact List.mem_cons_self
    · rw [← alike.notices]
      exact alike'.notices.trans said
    · change (SignedInAs (((opening machine store).course moves).run handle) token
        request.username ∧ _) ↔ _ ∧ Legible (((opening machine store).course moves).run handle)
      rw [signedInAs_iff, holds]
      constructor
      · exact And.left
      · intro both
        refine ⟨both, named ?_⟩
        rw [← sameHeld]
        exact (holds.2 both.1).2

def signingIn : List Move :=
  [.act (.fill .first ⟨"ana", "sun"⟩), .act (.login .first), .turn 0,
    .act (.reply 0 (accepting "t"))]

theorem signed_in_after_login_memory :
    let start := opening ⟨.empty, .empty⟩ (.memory .empty)
    (start.course signingIn).outcome? 0 = none ∧
      (start.course (signingIn ++ [.turn 0])).outcome? 0 = some .established ∧
      (start.course (signingIn ++ [.turn 0])).SignedInAs "t" "ana" := by
  have running : ((opening ⟨.empty, .empty⟩ (.memory .empty)).course signingIn).outcome? 0 =
      none := by
    decide +kernel
  have ended : ((opening ⟨.empty, .empty⟩ (.memory .empty)).course
      (signingIn ++ [.turn 0])).outcome? 0 = some .established := by
    decide +kernel
  obtain ⟨who, request, answer, token, name, dispatched, concluded, accepts, -, signedIn⟩ :=
    signed_in_after_login_iff ⟨.empty, .empty⟩ (.memory .empty) running ended
  have first : some (who, Errand.login request) = some (.first, .login ⟨"ana", "sun"⟩) :=
    dispatched.symm
  cases first
  have only : Deed.conclude 0 (.login ⟨"ana", "sun"⟩) answer ∈ [Deed.conclude 0
      (.login ⟨"ana", "sun"⟩) (.ok (.object [("success", .number (.integer 1)),
        ("token", .string "t")]))] := concluded
  rw [List.mem_singleton, Deed.conclude.injEq] at only
  obtain ⟨-, -, rfl⟩ := only
  have given : Verdict.ofAnswer (.ok (.object [("success", .number (.integer 1)),
      ("token", .string "t")])) = .accepted "t" := by
    decide +kernel
  rw [given] at accepts
  cases accepts
  have before : ((opening ⟨.empty, .empty⟩ (.memory .empty)).course signingIn).store =
      .memory .empty := by
    decide +kernel
  have after : ((opening ⟨.empty, .empty⟩ (.memory .empty)).course
      (signingIn ++ [.turn 0])).store = .memory (.ofList [("token", "t"), ("username", "ana")]) := by
    decide +kernel
  rw [Legible, before, after] at signedIn
  exact ⟨running, ended, (signedIn.2 ⟨trivial, trivial⟩).1⟩

def occupied : Clients :=
  let session := FileStore.encode (.ofList [("token", "s"), ("username", "bob")])
  let files : FileSystem :=
    ⟨[(["session.json.tmp"], .directory), (["session.json"], .file session)], [], []⟩
  .opening ⟨files, .empty⟩ (.file ⟨false, ["session.json"]⟩)

theorem signed_in_after_login_occupied :
    let after := occupied.course (signingIn ++ [.turn 0])
    after.outcome? 0 = some .established ∧ after.notices = [⟨.success, "Welcome back, bob"⟩] ∧
      after.SignedInAs "s" "bob" := by
  refine ⟨?_, ?_, ?_, ?_, ?_⟩ <;> decide +kernel

end PracticeClient.Clients
