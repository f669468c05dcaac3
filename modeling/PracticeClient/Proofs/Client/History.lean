import PracticeClient.Proofs.Client.Course

namespace PracticeClient.Clients

/-! ## Deeds of one task -/

def Deed.isOf (handle : Nat) (deed : Deed) : Bool :=
  deed.handle? == some handle

def Deed.poster? : Deed → Option Nat
  | .post handle _ => some handle
  | _ => none

def Entry.history (handle : Nat) (entry : Entry) : List Deed :=
  match entry.stage with
  | .queued => []
  | .waiting _ => [.post handle entry.errand]
  | .answered _ => [.post handle entry.errand]
  | .closed (.answer answer) =>
    [.post handle entry.errand, .conclude handle entry.errand answer]
  | .closed .die => [.post handle entry.errand]

theorem filter_deeds_self (handle : Nat) (errand : Errand) (reply : Reply) :
    (errand.deeds handle reply).filter (Deed.isOf handle) =
      match reply with
      | .die => []
      | .answer answer => [.conclude handle errand answer] := by
  cases reply with
  | die => rfl
  | answer answer =>
    cases errand with
    | login request => simp [Errand.deeds, Deed.isOf, Deed.handle?]
    | load next => cases next <;> cases answer <;>
        simp [Errand.deeds, Deed.isOf, Deed.handle?]

theorem filter_deeds_other {handle other : Nat} (differs : handle ≠ other) (errand : Errand)
    (reply : Reply) : (errand.deeds handle reply).filter (Deed.isOf other) = [] := by
  cases reply with
  | die => rfl
  | answer answer =>
    cases errand with
    | login request => simp [Errand.deeds, Deed.isOf, Deed.handle?, differs]
    | load next => cases next <;> cases answer <;>
        simp [Errand.deeds, Deed.isOf, Deed.handle?, differs]

theorem filterMap_poster_deeds (handle : Nat) (errand : Errand) (reply : Reply) :
    (errand.deeds handle reply).filterMap Deed.poster? = [] := by
  cases reply with
  | die => rfl
  | answer answer =>
    cases errand with
    | login request => rfl
    | load next => cases next <;> cases answer <;> rfl

/-! ## One move more -/

def Recounts (ledger : Ledger) (deeds : List Deed) : Prop :=
  ∀ handle, deeds.filter (Deed.isOf handle) =
    (ledger.entries[handle]?).elim [] (Entry.history handle)

namespace Recounts

variable {ledger : Ledger} {deeds : List Deed}

theorem opening : Recounts .opening [] := by
  intro handle
  rfl

theorem setForm (recounts : Recounts ledger deeds) (who : Who) (form : LoginForm) :
    Recounts (ledger.setForm who form) deeds :=
  recounts

theorem enter (recounts : Recounts ledger deeds) (who : Who) (errand : Errand) :
    Recounts (ledger.enter who errand) deeds := by
  intro handle
  rw [recounts handle, Ledger.enter, List.getElem?_append]
  split
  · rfl
  · next beyond =>
    rw [List.getElem?_eq_none (Nat.le_of_not_lt beyond)]
    cases handle - ledger.entries.length <;> rfl

theorem deliver (recounts : Recounts ledger deeds) (call : Nat) (reply : Reply) :
    Recounts (ledger.deliver call reply) deeds := by
  intro handle
  rw [recounts handle, Ledger.deliver]
  split
  · rfl
  · rw [List.getElem?_map]
    cases ledger.entries[handle]? with
    | none => rfl
    | some entry =>
      simp only [Option.map_some, Option.elim_some, Entry.history]
      cases entry.stage with
      | waiting waited =>
        by_cases same : waited = call <;> simp [Stage.hear, same]
      | queued => rfl
      | answered earlier => rfl
      | closed earlier => rfl

theorem advanceTo (recounts : Recounts ledger deeds) {handle : Nat} {entry : Entry}
    (found : ledger.entries[handle]? = some entry) (stage : Stage) (posts : Nat)
    {more : List Deed}
    (own : entry.history handle ++ more.filter (Deed.isOf handle) =
      Entry.history handle { entry with stage })
    (others : ∀ other, handle ≠ other → more.filter (Deed.isOf other) = []) :
    Recounts (({ ledger with posts } : Ledger).advanceTo handle entry stage) (deeds ++ more) := by
  intro other
  obtain ⟨within, -⟩ := List.getElem?_eq_some_iff.1 found
  rw [List.filter_append, recounts other, Ledger.advanceTo, List.getElem?_set]
  by_cases same : handle = other
  · subst same
    rw [if_pos rfl, if_pos within, found]
    exact own
  · rw [if_neg same, others other same, List.append_nil]

theorem turn (recounts : Recounts ledger deeds) (handle : Nat) :
    Recounts (ledger.turn handle).1 (deeds ++ (ledger.turn handle).2) := by
  have mine (errand : Errand) : Deed.isOf handle (.post handle errand) = true := by
    simp [Deed.isOf, Deed.handle?]
  have posts (errand : Errand) {other : Nat} (differs : handle ≠ other) :
      Deed.isOf other (.post handle errand) = false := by simp [Deed.isOf, Deed.handle?, differs]
  have turned := ledger.turned handle
  generalize ledger.turn handle = after at turned ⊢
  cases turned with
  | passed => rwa [List.append_nil]
  | @posted entry found queued =>
    refine recounts.advanceTo found _ _ ?_ fun other differs => ?_
    · simp [Entry.history, queued, mine entry.errand]
    · simp [posts entry.errand differs]
  | @finished entry reply found queued =>
    refine recounts.advanceTo found _ _ ?_ fun other differs => ?_
    · rw [List.filter_cons_of_pos (mine entry.errand), filter_deeds_self]
      cases reply <;> simp [Entry.history, queued]
    · simp [posts entry.errand differs, filter_deeds_other differs]
  | @concluded entry reply found answered =>
    refine recounts.advanceTo found _ ledger.posts ?_ fun other differs =>
      filter_deeds_other differs entry.errand reply
    rw [filter_deeds_self]
    cases reply <;> simp [Entry.history, answered]

theorem move (recounts : Recounts ledger deeds) (move : Move) :
    Recounts (ledger.move move).1 (deeds ++ (ledger.move move).2) := by
  cases move with
  | turn handle => exact recounts.turn handle
  | takeQueue => simpa only [Ledger.move, List.append_nil] using recounts
  | act action =>
    have order (call : StoreCall) : Recounts ledger (deeds ++ [.order call]) := by
      intro handle
      rw [List.filter_append, ← recounts handle]
      exact List.append_nil _
    cases action with
    | login who =>
      rw [Ledger.move, Ledger.act, List.append_nil]
      exact (recounts.setForm who .empty).enter who _
    | fill who form =>
      rw [Ledger.move, Ledger.act, List.append_nil]
      exact recounts.setForm who form
    | load who next => simpa only [Ledger.move, Ledger.act, List.append_nil] using recounts.enter who _
    | reply call reply =>
      simpa only [Ledger.move, Ledger.act, List.append_nil] using recounts.deliver call reply
    | logout =>
      intro handle
      rw [List.filter_append, recounts handle]
      exact List.append_nil _
    | call call =>
      cases change : call.isChange with
      | true => simpa [Ledger.move, Ledger.act, change] using order call
      | false => simpa [Ledger.move, Ledger.act, change] using recounts
    | establish token username => exact order (Session.establishing token username)
    | clear => exact order Session.clearing
    | _ => simpa only [Ledger.move, Ledger.act, List.append_nil] using recounts

end Recounts

/-! ## Posts and their replies -/

def posters (deeds : List Deed) : List Nat :=
  deeds.filterMap Deed.poster?

/-- How far a task is that has made a post: it waits while there is no reply to this very post, and
has heard this one afterwards. -/
def Stage.Awaits (call : Nat) (replies : List (Nat × Reply)) : Stage → Prop
  | queued => False
  | waiting waited => waited = call ∧ replies.lookup call = none
  | answered reply => replies.lookup call = some reply
  | closed reply => replies.lookup call = some reply

structure Heeds (ledger : Ledger) (deeds : List Deed) : Prop where
  count : ledger.posts = (posters deeds).length
  heard : ∀ {call handle : Nat}, (posters deeds)[call]? = some handle →
    ∃ stage, ledger.stage? handle = some stage ∧ stage.Awaits call ledger.replies

theorem posters_append (deeds more : List Deed) :
    posters (deeds ++ more) = posters deeds ++ posters more :=
  List.filterMap_append

theorem lookup_snoc (replies : List (Nat × Reply)) (call other : Nat) (reply : Reply) :
    (replies ++ [(call, reply)]).lookup other =
      (replies.lookup other).or (if other = call then some reply else none) := by
  induction replies with
  | nil =>
    by_cases same : other = call
    · simp [same]
    · simp [same, List.lookup_cons, beq_eq_false_iff_ne.2 same]
  | cons first rest ih =>
    obtain ⟨number, earlier⟩ := first
    by_cases same : other = number
    · simp [same]
    · simp [List.lookup_cons, beq_eq_false_iff_ne.2 same, ih]

namespace Heeds

variable {ledger : Ledger} {deeds : List Deed}

theorem opening : Heeds .opening [] where
  count := rfl
  heard there := by simp [posters] at there

theorem setForm (heeds : Heeds ledger deeds) (who : Who) (form : LoginForm) :
    Heeds (ledger.setForm who form) deeds :=
  ⟨heeds.count, heeds.heard⟩

theorem append (heeds : Heeds ledger deeds) {more : List Deed} (none : posters more = []) :
    Heeds ledger (deeds ++ more) := by
  have same : posters (deeds ++ more) = posters deeds := by
    rw [posters_append, none, List.append_nil]
  constructor
  · rw [same, heeds.count]
  · intro call handle there
    rw [same] at there
    exact heeds.heard there

theorem enter (heeds : Heeds ledger deeds) (who : Who) (errand : Errand) :
    Heeds (ledger.enter who errand) deeds where
  count := heeds.count
  heard := by
    intro call handle there
    obtain ⟨stage, found, awaits⟩ := heeds.heard there
    refine ⟨stage, ?_, awaits⟩
    rw [Ledger.stage?_enter]
    split
    · next last =>
      rw [Ledger.stage?, List.getElem?_eq_none (Nat.le_of_eq last.symm)] at found
      cases found
    · exact found

theorem deliver (heeds : Heeds ledger deeds) (call : Nat) (reply : Reply) :
    Heeds (ledger.deliver call reply) deeds := by
  cases first : (ledger.replies.lookup call).isSome with
  | true =>
    rw [Ledger.deliver, if_pos first]
    exact heeds
  | false =>
    have replies : (ledger.deliver call reply).replies = ledger.replies ++ [(call, reply)] := by
      simp [Ledger.deliver, first]
    have posts : (ledger.deliver call reply).posts = ledger.posts := by
      simp [Ledger.deliver, first]
    refine ⟨posts.trans heeds.count, fun {other handle} there => ?_⟩
    obtain ⟨stage, found, awaits⟩ := heeds.heard there
    refine ⟨stage.hear call reply, by rw [Ledger.stage?_deliver reply first, found]; rfl, ?_⟩
    rw [replies]
    cases stage with
    | queued => exact awaits
    | waiting waited =>
      obtain ⟨rfl, silent⟩ := awaits
      by_cases same : waited = call
      · subst same
        simp [Stage.hear, Stage.Awaits, lookup_snoc, silent]
      · simp [Stage.hear, Stage.Awaits, same, lookup_snoc, silent]
    | answered earlier => exact (lookup_snoc _ _ _ _).trans (by rw [awaits]; rfl)
    | closed earlier => exact (lookup_snoc _ _ _ _).trans (by rw [awaits]; rfl)

theorem post (heeds : Heeds ledger deeds) {handle : Nat} {entry : Entry} {stage : Stage}
    (found : ledger.entries[handle]? = some entry) (queued : entry.stage = .queued)
    (awaits : stage.Awaits ledger.posts ledger.replies) {more : List Deed}
    (posts : posters more = [handle]) :
    Heeds (({ ledger with posts := ledger.posts + 1 } : Ledger).advanceTo handle entry stage)
      (deeds ++ more) := by
  have counted : posters (deeds ++ more) = posters deeds ++ [handle] := by
    rw [posters_append, posts]
  have stages := Ledger.stage?_advanceTo (ledger.posts + 1) stage found
  refine ⟨?_, fun {call other} there => ?_⟩
  · change ledger.posts + 1 = _
    rw [counted, List.length_append, heeds.count]
    rfl
  rw [counted] at there
  by_cases earlier : call < (posters deeds).length
  · -- Nobody has posted who is still queued.
    rw [List.getElem?_append_left earlier] at there
    obtain ⟨before, here, awaited⟩ := heeds.heard there
    have differs : other ≠ handle := by
      rintro rfl
      rw [Ledger.stage?_of_entry found, queued] at here
      cases here
      exact awaited
    exact ⟨before, by rw [stages, if_neg differs, here], awaited⟩
  · obtain ⟨within, here⟩ := List.getElem?_eq_some_iff.1 there
    rw [List.length_append, List.length_singleton] at within
    have last : call = ledger.posts := by
      have := heeds.count
      omega
    have same : other = handle := by
      rw [List.getElem?_append_right (Nat.le_of_not_lt earlier)] at there
      rw [last, heeds.count, Nat.sub_self] at there
      exact (Option.some.inj there).symm
    subst same last
    exact ⟨stage, by rw [stages, if_pos rfl], awaits⟩

theorem conclude (heeds : Heeds ledger deeds) {handle : Nat} {entry : Entry} {reply : Reply}
    (found : ledger.entries[handle]? = some entry) (answered : entry.stage = .answered reply)
    {more : List Deed} (none : posters more = []) :
    Heeds (ledger.advanceTo handle entry (.closed reply)) (deeds ++ more) := by
  have stages := Ledger.stage?_advanceTo ledger.posts (.closed reply) found
  have heeds : Heeds (ledger.advanceTo handle entry (.closed reply)) deeds := by
    refine ⟨heeds.count, fun {call other} there => ?_⟩
    obtain ⟨before, here, awaited⟩ := heeds.heard there
    by_cases same : other = handle
    · subst same
      rw [Ledger.stage?_of_entry found, answered] at here
      cases here
      exact ⟨.closed reply, (stages other).trans (if_pos rfl), awaited⟩
    · exact ⟨before, (stages other).trans ((if_neg same).trans here), awaited⟩
  exact heeds.append none

theorem turn (heeds : Heeds ledger deeds) (handle : Nat) :
    Heeds (ledger.turn handle).1 (deeds ++ (ledger.turn handle).2) := by
  have turned := ledger.turned handle
  generalize ledger.turn handle = after at turned ⊢
  cases turned with
  | passed => rwa [List.append_nil]
  | posted found queued unanswered =>
    have awaits : Stage.Awaits ledger.posts ledger.replies (.waiting ledger.posts) :=
      ⟨rfl, unanswered⟩
    exact heeds.post found queued awaits rfl
  | @finished entry reply found queued answered =>
    have awaits : Stage.Awaits ledger.posts ledger.replies (.closed reply) := answered
    exact heeds.post found queued awaits
      (congrArg (handle :: ·) (filterMap_poster_deeds handle entry.errand reply))
  | @concluded entry reply found answered =>
    exact heeds.conclude found answered (filterMap_poster_deeds handle entry.errand reply)

theorem move (heeds : Heeds ledger deeds) (move : Move) :
    Heeds (ledger.move move).1 (deeds ++ (ledger.move move).2) := by
  cases move with
  | turn handle => exact heeds.turn handle
  | takeQueue => exact heeds.append rfl
  | act action =>
    cases action with
    | fill who form => exact (heeds.setForm who form).append rfl
    | login who => exact ((heeds.setForm who .empty).enter who _).append rfl
    | load who next => exact (heeds.enter who _).append rfl
    | reply call reply => exact (heeds.deliver call reply).append rfl
    | call call =>
      have silent : posters (if call.isChange then [Deed.order call] else []) = [] := by
        cases call.isChange <;> rfl
      exact heeds.append silent
    | _ => exact heeds.append rfl

end Heeds

/-! ## Whole courses -/

theorem Ledger.follow_invariant {Holds : Ledger → List Deed → Prop}
    (move : ∀ {ledger deeds}, Holds ledger deeds → ∀ move,
      Holds (ledger.move move).1 (deeds ++ (ledger.move move).2))
    {ledger : Ledger} {deeds : List Deed} (holds : Holds ledger deeds) (moves : List Move) :
    Holds (ledger.follow moves).1 (deeds ++ (ledger.follow moves).2) := by
  induction moves generalizing ledger deeds with
  | nil => simpa only [follow, List.append_nil] using holds
  | cons first rest ih =>
    have later := ih (move holds first)
    rw [List.append_assoc] at later
    exact later

theorem recounts_follow (moves : List Move) :
    Recounts (Ledger.opening.follow moves).1 (Ledger.opening.follow moves).2 :=
  Ledger.follow_invariant Recounts.move Recounts.opening moves

theorem heeds_follow (moves : List Move) :
    Heeds (Ledger.opening.follow moves).1 (Ledger.opening.follow moves).2 :=
  Ledger.follow_invariant Heeds.move Heeds.opening moves

/-- A ledger and deeds that tell of a course: what was dispatched, how far each task is, what each
has done, which reply it went by, and everything that shows. -/
structure Tells (start : Clients) (moves : List Move) (ledger : Ledger) (deeds : List Deed) :
    Prop where
  keeps : Keeps ledger (start.course moves)
  dispatched : ledger.errands = start.dispatches moves
  recounts : Recounts ledger deeds
  heeds : Heeds ledger deeds
  shown : Shown deeds (start.course moves).shown

theorem course_tells (machine : Machine) (store : Store) (moves : List Move) :
    Tells (.opening machine store) moves (Ledger.opening.follow moves).1
      (Ledger.opening.follow moves).2 := by
  obtain ⟨keeps, -, shown⟩ := course_keeps machine store moves
  exact ⟨keeps, errands_course machine store moves, recounts_follow moves, heeds_follow moves, shown⟩

end PracticeClient.Clients
