import PracticeClient.Proofs.Client.Ledger

namespace PracticeClient.Clients

/-! ## What shows of a deed -/

def Deed.Shows : Deed → List Event → Prop
  | .post _ errand, events => events = [.posted errand.endpoint errand.body]
  | .conclude _ (.login request) answer, events =>
    ∃ notification, (Verdict.ofAnswer answer).Told notification ∧
      events = ((Verdict.ofAnswer answer).change? request.username).toList.map .stored ++
        [.notified notification]
  | .conclude handle (.load _) (.ok _), events => events = [.completed handle]
  | .conclude _ (.load _) (.error _), events =>
    events = [.notified ⟨.danger, Submissions.connectionError⟩]
  | .logout, events =>
    events = [.stored Session.clearing, .notified ⟨.success, Account.farewell⟩]
  | .order call, events => events = [.stored call]

inductive Shown : List Deed → List Event → Prop where
  | nil : Shown [] []
  | cons {deed : Deed} {deeds : List Deed} {trace events : List Event}
      (first : deed.Shows trace) (rest : Shown deeds events) :
      Shown (deed :: deeds) (trace ++ events)

theorem Shown.single {deed : Deed} {trace : List Event} (shows : deed.Shows trace) :
    Shown [deed] trace := by
  simpa using Shown.cons shows .nil

theorem Shown.append {deeds later : List Deed} {events after : List Event}
    (shown : Shown deeds events) (next : Shown later after) :
    Shown (deeds ++ later) (events ++ after) := by
  induction shown with
  | nil => exact next
  | cons first rest ih =>
    rw [List.append_assoc]
    exact .cons first ih

theorem Shown.filterMap_eq {β : Type} {read : Event → Option β} {value : Deed → Option β}
    (each : ∀ {deed : Deed} {trace : List Event}, deed.Shows trace →
      trace.filterMap read = (value deed).toList)
    {deeds : List Deed} {events : List Event} (shown : Shown deeds events) :
    events.filterMap read = deeds.filterMap value := by
  induction shown with
  | nil => rfl
  | @cons deed deeds trace events first rest ih =>
    rw [List.filterMap_append, each first, ih, List.filterMap_cons]
    cases value deed <;> rfl

def Leads (deeds : List Deed) (before after : Clients) : Prop :=
  ∃ events, Shown deeds events ∧ after.shown = before.shown ++ events

theorem Leads.of_shown_eq {before after : Clients} (same : after.shown = before.shown) :
    Leads [] before after :=
  ⟨[], .nil, by rw [same, List.append_nil]⟩

theorem Leads.trans {deeds later : List Deed} {before between after : Clients}
    (leads : Leads deeds before between) (next : Leads later between after) :
    Leads (deeds ++ later) before after := by
  obtain ⟨events, shown, same⟩ := leads
  obtain ⟨events', shown', same'⟩ := next
  exact ⟨events ++ events', shown.append shown', by rw [same', same, List.append_assoc]⟩

/-! ## What a task does in its turns -/

def begun (clients : Clients) : Errand → Clients
  | .login request => clients.noteLog (.debug "Sending login request" [("username", request.username)])
  | .load _ => clients

@[simp] theorem shown_begun (clients : Clients) (errand : Errand) :
    (clients.begun errand).shown = clients.shown := by
  cases errand with
  | login request => exact shown_noteLog _ _
  | load next => rfl

@[simp] theorem posts_begun (clients : Clients) (errand : Errand) :
    (clients.begun errand).posts = clients.posts := by
  cases errand <;> rfl

@[simp] theorem replies_begun (clients : Clients) (errand : Errand) :
    (clients.begun errand).replies = clients.replies := by
  cases errand <;> rfl

theorem advance_program (handle : Nat) (errand : Errand) (clients : Clients) :
    advance handle errand.program clients =
      match clients.replies.lookup clients.posts with
      | none =>
        (.waiting clients.posts errand.conclusion,
          (clients.begun errand).sent errand.endpoint errand.body)
      | some .die => (.died, (clients.begun errand).sent errand.endpoint errand.body)
      | some (.answer answer) =>
        advance handle (errand.conclusion answer)
          ((clients.begun errand).sent errand.endpoint errand.body) := by
  -- Either errand does nothing but log before its post.
  have posts : advance handle errand.program clients =
      advance handle (.step (.post errand.endpoint errand.body) errand.conclusion)
        (clients.begun errand) := by
    cases errand with
    | login request => rfl
    | load next => rfl
  have post := advance_post handle errand.endpoint errand.body errand.conclusion
    (clients.begun errand)
  rw [replies_begun, posts_begun] at post
  exact posts.trans post

theorem advance_logout (handle : Nat) (clients : Clients) :
    (advance handle Account.logout clients).1 = .ended () ∧
      (advance handle Account.logout clients).2.posts = clients.posts ∧
      Leads [.logout] clients (advance handle Account.logout clients).2 := by
  refine ⟨rfl, rfl, [.stored Session.clearing, .notified ⟨.success, Account.farewell⟩],
    .single rfl, ?_⟩
  simp [Account.logout, Session.clear, Client.store, Client.log, Client.notify, Program.ask,
    Session.clearing, StoreCall.isChange, Event.isPublic]

def established (clients : Clients) (token username : String) : Clients :=
  (clients.callStore (Session.establishing token username)).2.noteLog
    (.debug "Session established" [("username", username)])

def storedName (clients : Clients) : Option String :=
  (clients.callStore (.get Session.usernameKey)).1

def welcomed (clients : Clients) (username : String) : Clients :=
  let name := clients.storedName.getD username
  ((clients.callStore (.get Session.usernameKey)).2.noteLog
    (.info "Login successful" [("username", name)])).note
    (.notified ⟨.success, Account.welcome name⟩)

theorem advance_accept (handle : Nat) (token username : String) (clients : Clients) :
    advance handle (Account.accept token username) clients =
      (.ended .established, (clients.established token username).welcomed username) := rfl

@[simp] theorem shown_established (clients : Clients) (token username : String) :
    (clients.established token username).shown =
      clients.shown ++ [.stored (Session.establishing token username)] := by
  simp [established, Session.establishing, StoreCall.isChange]

@[simp] theorem shown_welcomed (clients : Clients) (username : String) :
    (clients.welcomed username).shown = clients.shown ++
      [.notified ⟨.success, Account.welcome (clients.storedName.getD username)⟩] := by
  simp [welcomed, StoreCall.isChange, Event.isPublic]

theorem advance_conclude (handle : Nat) (username : String) (answer : ServerAnswer)
    (clients : Clients) :
    (advance handle (Account.conclude username answer) clients).1 =
        .ended (Verdict.ofAnswer answer).outcome ∧
      (advance handle (Account.conclude username answer) clients).2.posts = clients.posts ∧
      ∃ notification, (Verdict.ofAnswer answer).Told notification ∧
        (advance handle (Account.conclude username answer) clients).2.shown =
          clients.shown ++ (((Verdict.ofAnswer answer).change? username).toList.map .stored ++
            [.notified notification]) := by
  cases answer with
  | error error =>
    refine ⟨rfl, rfl, ⟨.danger, Account.connectivityError⟩, rfl, ?_⟩
    simp [Account.conclude, Account.giveUp, Client.log, Client.notify, Program.ask,
      Verdict.ofAnswer, Verdict.change?, Event.isPublic]
  | ok body =>
    cases reply : LoginReply.interpret body with
    | accepted token =>
      simp only [Account.conclude, Verdict.ofAnswer, reply]
      rw [advance_accept]
      let name := (clients.established token username).storedName.getD username
      refine ⟨rfl, rfl, ⟨.success, Account.welcome name⟩, ⟨name, rfl⟩, ?_⟩
      rw [shown_welcomed, shown_established, List.append_assoc]
      rfl
    | rejected =>
      simp only [Account.conclude, Verdict.ofAnswer, reply]
      refine ⟨rfl, rfl, ⟨.danger, Account.signInError⟩, rfl, ?_⟩
      simp [Account.reject, Client.log, Client.notify, Program.ask, Verdict.change?,
        Event.isPublic]
    | malformed reason =>
      simp only [Account.conclude, Verdict.ofAnswer, reply]
      refine ⟨rfl, rfl, ⟨.danger, Account.signInError⟩, rfl, ?_⟩
      simp [Account.rejectMalformed, Client.log, Client.notify, Program.ask, Verdict.change?,
        Event.isPublic]

theorem advance_conclude_login (handle : Nat) (request : LoginRequest) (answer : ServerAnswer)
    (clients : Clients) :
    advance handle (Errand.conclusion (.login request) answer) clients =
      (Errand.ending (.login request) answer,
        (advance handle (Account.conclude request.username answer) clients).2) := by
  have ended := (advance_conclude handle request.username answer clients).1
  change advance handle ((Account.conclude request.username answer).bind _) clients = _
  rw [advance_bind]
  generalize advance handle (Account.conclude request.username answer) clients = result at ended
  obtain ⟨progress, after⟩ := result
  subst ended
  rfl

theorem advance_conclusion (handle : Nat) (errand : Errand) (answer : ServerAnswer)
    (clients : Clients) :
    (advance handle (errand.conclusion answer) clients).1 = errand.ending answer ∧
      (advance handle (errand.conclusion answer) clients).2.posts = clients.posts ∧
      Leads (errand.deeds handle (.answer answer)) clients
        (advance handle (errand.conclusion answer) clients).2 := by
  cases errand with
  | login request =>
    obtain ⟨-, posts, notification, told, shown⟩ :=
      advance_conclude handle request.username answer clients
    rw [advance_conclude_login]
    exact ⟨rfl, posts, _, .single ⟨notification, told, rfl⟩, shown⟩
  | load next =>
    cases answer with
    | error error =>
      let told : Notification := ⟨.danger, Submissions.connectionError⟩
      have ended : Errand.ending (.load next) (.error error) = .ended .loaded := by
        cases next <;> rfl
      have shows : Errand.deeds handle (.load next) (.answer (.error error)) =
          [.conclude handle (.load next) (.error error)] := by
        cases next <;> rfl
      rw [ended, shows]
      refine ⟨rfl, rfl, [.notified told], .single rfl, ?_⟩
      simp [told, Errand.conclusion, Submissions.conclude, Client.log, Client.notify, Program.ask,
        Event.isPublic]
    | ok body =>
      -- The completion comes first, and only then what is to happen next.
      let arrived := (clients.noteLog (.debug "Submissions loaded" [])).note (.completed handle)
      have completes : Leads [.conclude handle (.load next) (.ok body)] clients arrived := by
        refine ⟨[.completed handle], .single rfl, ?_⟩
        simp [arrived, Event.isPublic]
      cases next with
      | nothing => exact ⟨rfl, rfl, completes⟩
      | die => exact ⟨rfl, rfl, completes⟩
      | logout =>
        obtain ⟨-, -, farewell⟩ := advance_logout handle arrived
        exact ⟨rfl, rfl, completes.trans farewell⟩

theorem ending_ne_ready (errand : Errand) (answer : ServerAnswer) (program : Client TaskResult) :
    errand.ending answer ≠ .ready program := by
  cases errand with
  | login request => simp [Errand.ending]
  | load next => cases next <;> cases answer <;> simp [Errand.ending]

theorem ending_ne_waiting (errand : Errand) (answer : ServerAnswer) (call : Nat)
    (next : ServerAnswer → Client TaskResult) : errand.ending answer ≠ .waiting call next := by
  cases errand with
  | login request => simp [Errand.ending]
  | load next => cases next <;> cases answer <;> simp [Errand.ending]

end PracticeClient.Clients
