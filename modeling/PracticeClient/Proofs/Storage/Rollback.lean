import Mathlib.Data.List.Induction
import PracticeClient.Proofs.Storage.Orders
import PracticeClient.Proofs.Storage.Secrets

/-!
# Sessions in a keychain that fails

A session is two secrets, which a keychain can only store one after the other. When the second one
is refused the first is taken back, and this cannot fail for want of a handle, as the handle that
has stored it is kept. So the token of one call never stands beside the username of another, in
whatever pattern operations fail, as long as deletions do not.
-/

namespace PracticeClient

open Session

/-! ## Keychains on trial -/

structure Trial where
  machine : Machine
  call : Nat
  /-- The call that has stored what there is under a key, if any has. -/
  writer : String → Option Nat
  /-- What the operations to come will meet, one after the other; afterwards all is well. -/
  troubles : List (Option KeychainError)

namespace Trial

def opening (machine : Machine) (troubles : List (Option KeychainError)) : Trial :=
  ⟨machine, 0, fun _ => none, troubles⟩

def sign (trial : Trial) : KeychainOp → Trial
  | .set _ key _ =>
    { trial with writer := fun other => if other = key then some trial.call else trial.writer other }
  | _ => trial

def perform (op : KeychainOp) (trial : Trial) : op.Answer × Trial :=
  let (answer, keychain) := Keychain.perform op trial.machine.keychain
  (answer, { trial with machine := { trial.machine with keychain } }.sign op)

/-- An operation that meets trouble changes nothing. Deletions are carried out all the same. -/
def meet (error : KeychainError) : (op : KeychainOp) → Trial → op.Answer × Trial
  | .delete service key, trial => trial.perform (.delete service key)
  | op, trial => (op.fail error, trial)

def onKeychain (op : KeychainOp) (trial : Trial) : op.Answer × Trial :=
  match trial.troubles with
  | [] => trial.perform op
  | none :: rest => { trial with troubles := rest }.perform op
  | some error :: rest => meet error op { trial with troubles := rest }

def handle : Program.Handler SystemOp SystemOp.Answer Trial
  | .keychain op, trial => trial.onKeychain op
  | op, trial =>
    let (answer, machine) := Machine.quiet op trial.machine
    (answer, { trial with machine })

def secret? (trial : Trial) (service key : String) : Option (Bytes × Option Nat) :=
  (trial.machine.keychain.get? service key).map fun secret => (secret, trial.writer key)

/-! ## What operations leave -/

structure Spares (service : String) (touched : String → Prop) (before after : Trial) : Prop where
  call : after.call = before.call
  secret : ∀ key, ¬touched key → after.secret? service key = before.secret? service key

variable {service key : String} {touched : String → Prop} {before between after : Trial}

theorem Spares.refl (trial : Trial) : Spares service touched trial trial :=
  ⟨rfl, fun _ _ => rfl⟩

theorem Spares.trans (first : Spares service touched before between)
    (next : Spares service touched between after) : Spares service touched before after := by
  refine ⟨next.call.trans first.call, ?_⟩
  intro key free
  exact (next.secret key free).trans (first.secret key free)

theorem Spares.mono {more : String → Prop} (spares : Spares service touched before after)
    (covers : ∀ key, touched key → more key) : Spares service more before after := by
  refine ⟨spares.call, ?_⟩
  intro key free
  exact spares.secret key fun touches => free (covers key touches)

theorem onKeychain_cases (op : KeychainOp) (trial : Trial) :
    ∃ same : Trial, same.machine = trial.machine ∧ same.call = trial.call ∧
      same.writer = trial.writer ∧
      (trial.onKeychain op = same.perform op ∨
        ∃ error, trial.onKeychain op = meet error op same) := by
  obtain ⟨machine, call, writer, troubles⟩ := trial
  cases troubles with
  | nil => exact ⟨_, rfl, rfl, rfl, .inl rfl⟩
  | cons trouble rest =>
    refine ⟨⟨machine, call, writer, rest⟩, rfl, rfl, rfl, ?_⟩
    cases trouble with
    | none => exact .inl rfl
    | some error => exact .inr ⟨error, rfl⟩

theorem secret?_of_same {same trial : Trial} (machine : same.machine = trial.machine)
    (writer : same.writer = trial.writer) (service key : String) :
    same.secret? service key = trial.secret? service key := by
  rw [secret?, secret?, machine, writer]

theorem onKeychain_build (service key : String) (trial : Trial) :
    Spares service (fun _ => False) trial (trial.onKeychain (.build service key)).2 := by
  obtain ⟨same, machine, call, writer, done⟩ := onKeychain_cases (.build service key) trial
  have left : (trial.onKeychain (.build service key)).2 = same := by
    rcases done with done | ⟨error, done⟩ <;> rw [done] <;> rfl
  rw [left]
  exact ⟨call, fun key _ => secret?_of_same machine writer service key⟩

theorem perform_get (service key : String) (keychain : Keychain) :
    (Keychain.perform (.get service key) keychain).2 = keychain := by
  simp only [Keychain.perform]
  split
  · rfl
  · split <;> rfl

theorem onKeychain_get (service key : String) (trial : Trial) :
    Spares service (fun _ => False) trial (trial.onKeychain (.get service key)).2 := by
  obtain ⟨same, machine, call, writer, done⟩ := onKeychain_cases (.get service key) trial
  refine ⟨?_, fun other _ => ?_⟩
  · rcases done with done | ⟨error, done⟩ <;> rw [done] <;> exact call
  · rw [← secret?_of_same machine writer service other]
    rcases done with done | ⟨error, done⟩
    · simp only [done, secret?, perform, sign, perform_get]
    · rw [done]
      rfl

theorem onKeychain_set (service key value : String) (trial : Trial) :
    Spares service (· = key) trial (trial.onKeychain (.set service key value)).2 ∧
      (((trial.onKeychain (.set service key value)).1 = .ok () ∧
          (trial.onKeychain (.set service key value)).2.secret? service key =
            some (Text.utf8 value, some trial.call)) ∨
        ((∃ error, (trial.onKeychain (.set service key value)).1 = .error error) ∧
          (trial.onKeychain (.set service key value)).2.secret? service key =
            trial.secret? service key)) := by
  obtain ⟨same, machine, call, writer, done⟩ := onKeychain_cases (.set service key value) trial
  have secrets := secret?_of_same machine writer service
  rcases done with done | ⟨error, done⟩
  · rw [done]
    refine ⟨⟨call, fun other differ => ?_⟩, .inl ⟨rfl, ?_⟩⟩
    · have pairs : (service, other) ≠ (service, key) := fun alike => differ (congrArg Prod.snd alike)
      rw [← secrets other]
      simp only [secret?, perform, Keychain.perform, sign, Keychain.get?_put, if_neg differ,
        if_neg pairs]
    · simp only [secret?, perform, Keychain.perform, sign, Keychain.get?_put, if_true, call,
        Option.map_some]
  · rw [done]
    exact ⟨⟨call, fun other _ => secrets other⟩, .inr ⟨⟨error, rfl⟩, secrets key⟩⟩

theorem onKeychain_delete (service key : String) (trial : Trial) :
    Spares service (· = key) trial (trial.onKeychain (.delete service key)).2 ∧
      (trial.onKeychain (.delete service key)).2.secret? service key = none := by
  obtain ⟨same, machine, call, writer, done⟩ := onKeychain_cases (.delete service key) trial
  have secrets := secret?_of_same machine writer service
  have performed : trial.onKeychain (.delete service key) = same.perform (.delete service key) := by
    rcases done with done | ⟨error, done⟩ <;> exact done
  rw [performed, perform, Keychain.perform]
  cases there : same.machine.keychain.get? service key with
  | none =>
    refine ⟨⟨call, fun other _ => secrets other⟩, ?_⟩
    simp only [secret?, sign, there, Option.map_none]
  | some secret =>
    refine ⟨⟨call, fun other differ => ?_⟩, ?_⟩
    · have pairs : (service, other) ≠ (service, key) := fun alike => differ (congrArg Prod.snd alike)
      rw [← secrets other]
      simp only [secret?, sign, Keychain.get?_erase, if_neg pairs]
    · simp only [secret?, sign, Keychain.get?_erase, if_true, Option.map_none]

end Trial

namespace KeychainStore

open Trial

/-! ## One key -/

structure Follows (used store : KeychainStore) : Prop where
  service : used.service = store.service
  handles : ∀ key ∈ store.handles, key ∈ used.handles

theorem Follows.refl (store : KeychainStore) : Follows store store :=
  ⟨rfl, fun _ held => held⟩

theorem Follows.trans {last used store : KeychainStore} (next : Follows last used)
    (first : Follows used store) : Follows last store := by
  refine ⟨next.service.trans first.service, ?_⟩
  intro key held
  exact next.handles key (first.handles key held)

theorem opened_follows (store : KeychainStore) (key : String) :
    Follows (store.opened key) store := by
  refine ⟨service_opened store key, ?_⟩
  intro other held
  exact (mem_opened store key other).2 (.inr held)

theorem run_open (store : KeychainStore) (key : String) (trial : Trial) :
    ∃ after, Spares store.service (fun _ => False) trial after ∧
      ((store.open? key).run handle trial = (.ok (store.opened key), after) ∨
        (key ∉ store.handles ∧
          ∃ error, (store.open? key).run handle trial = (.error error, after))) := by
  unfold open? opened
  by_cases held : key ∈ store.handles
  · rw [if_pos held, if_pos held]
    exact ⟨trial, .refl trial, .inl rfl⟩
  · rw [if_neg held, if_neg held, Program.bind_eq, Program.run_bind]
    simp only [System.keychain, Program.run_ask, Trial.handle]
    refine ⟨(trial.onKeychain (.build store.service key)).2,
      onKeychain_build store.service key trial, ?_⟩
    cases (trial.onKeychain (.build store.service key)).1 with
    | ok _ => exact .inl rfl
    | error error => exact .inr ⟨held, error, rfl⟩

theorem run_trySet_on_trial (store : KeychainStore) (key value : String) (trial : Trial) :
    ∃ result used after, (store.trySet key value).run handle trial = ((result, used), after) ∧
      Follows used store ∧ Spares store.service (· = key) trial after ∧
      ((result = .ok () ∧ key ∈ used.handles ∧
          after.secret? store.service key = some (Text.utf8 value, some trial.call)) ∨
        ((∃ error, result = .error error) ∧
          after.secret? store.service key = trial.secret? store.service key)) := by
  obtain ⟨between, spares, opened | ⟨-, error, failed⟩⟩ := run_open store key trial
  · unfold trySet
    simp only [Program.bind_eq, Program.run_bind, opened, System.keychain, Program.run_ask,
      Trial.handle]
    rw [← service_opened store key] at spares ⊢
    obtain ⟨others, outcome⟩ := onKeychain_set (store.opened key).service key value between
    rw [spares.call, spares.secret key (by simp)] at outcome
    refine ⟨_, store.opened key, _, rfl, opened_follows store key,
      (spares.mono (by simp)).trans others, ?_⟩
    have held : key ∈ (store.opened key).handles := (mem_opened store key key).2 (.inl rfl)
    rcases outcome with ⟨done, secret⟩ | refused
    · exact .inl ⟨done, held, secret⟩
    · exact .inr refused
  · unfold trySet
    simp only [Program.bind_eq, Program.run_bind, failed]
    exact ⟨_, store, between, rfl, .refl store, spares.mono (by simp),
      .inr ⟨⟨error, rfl⟩, spares.secret key (by simp)⟩⟩

theorem run_remove_on_trial (store : KeychainStore) (key : String) (trial : Trial) :
    ∃ used after, (store.remove key).run handle trial = (used, after) ∧
      Follows used store ∧ Spares store.service (· = key) trial after ∧
      (after.secret? store.service key = none ∨
        (key ∉ store.handles ∧
          after.secret? store.service key = trial.secret? store.service key)) := by
  obtain ⟨between, spares, opened | ⟨absent, error, failed⟩⟩ := run_open store key trial
  · unfold remove
    simp only [Program.bind_eq, Program.run_bind, opened, System.keychain, Program.run_ask,
      Trial.handle]
    rw [← service_opened store key] at spares ⊢
    obtain ⟨others, gone⟩ := onKeychain_delete (store.opened key).service key between
    refine ⟨store.opened key, (between.onKeychain (.delete (store.opened key).service key)).2, ?_,
      opened_follows store key, (spares.mono (by simp)).trans others, .inl gone⟩
    cases (between.onKeychain (.delete (store.opened key).service key)).1 with
    | ok _ => rfl
    | error error => cases error <;> rfl
  · unfold remove
    simp only [Program.bind_eq, Program.run_bind, failed]
    exact ⟨store, between, rfl, .refl store, spares.mono (by simp),
      .inr ⟨absent, spares.secret key (by simp)⟩⟩

/-! ## Both keys -/

theorem run_removeMany_on_trial (keys : List String) (store : KeychainStore) (trial : Trial) :
    ∃ used after, (removeMany keys store).run handle trial = (used, after) ∧
      Follows used store ∧ Spares store.service (· ∈ keys) trial after ∧
      ∀ key ∈ keys, after.secret? store.service key = none ∨
        (key ∉ store.handles ∧
          after.secret? store.service key = trial.secret? store.service key) := by
  induction keys generalizing store trial with
  | nil => exact ⟨store, trial, rfl, .refl store, .refl trial, by simp⟩
  | cons key rest ih =>
    obtain ⟨used, between, removed, follows, spares, gone⟩ := run_remove_on_trial store key trial
    obtain ⟨last, after, ran, follows', spares', gone'⟩ := ih used between
    rw [follows.service] at spares' gone'
    refine ⟨last, after, ?_, follows'.trans follows,
      (spares.mono (by simp +contextual)).trans (spares'.mono (by simp +contextual)), ?_⟩
    · rw [removeMany, Program.bind_eq, Program.run_bind, removed]
      exact ran
    · intro other member
      by_cases later : other ∈ rest
      · rcases gone' other later with none | ⟨absent, same⟩
        · exact .inl none
        · have unheld : other ∉ store.handles := fun held => absent (follows.handles other held)
          rw [same]
          by_cases here : other = key
          · subst here
            exact gone.imp_right fun kept => ⟨unheld, kept.2⟩
          · exact .inr ⟨unheld, spares.secret other here⟩
      · have here : other = key := (List.mem_cons.1 member).resolve_right later
        subst here
        rw [spares'.secret other later]
        exact gone

def Dwindles (service : String) (before after : Trial) : Prop :=
  ∀ key, after.secret? service key = none ∨
    after.secret? service key = before.secret? service key

theorem dwindles_of_spares {service : String} {touched : String → Prop} {before after : Trial}
    (spares : Spares service touched before after)
    (gone : ∀ key, touched key → after.secret? service key = none ∨
      after.secret? service key = before.secret? service key) :
    Dwindles service before after := by
  intro key
  by_cases member : touched key
  · exact gone key member
  · exact .inr (spares.secret key member)

theorem run_setMany_on_trial (store : KeychainStore) (token username : String) (trial : Trial) :
    ∃ used after,
      (setMany [(tokenKey, token), (usernameKey, username)] store).run handle trial =
        (used, after) ∧
      Follows used store ∧ after.call = trial.call ∧
      ((after.secret? store.service tokenKey = some (Text.utf8 token, some trial.call) ∧
          after.secret? store.service usernameKey =
            some (Text.utf8 username, some trial.call)) ∨
        Dwindles store.service trial after) := by
  obtain ⟨result, used, between, tried, follows, spares, outcome⟩ :=
    run_trySet_on_trial store tokenKey token trial
  unfold setMany setAfter
  simp only [Program.bind_eq, Program.run_bind, tried]
  rcases outcome with ⟨rfl, held, stored⟩ | ⟨⟨error, rfl⟩, same⟩
  · -- The handle of the token is there by now, whatever becomes of the username.
    obtain ⟨result', used', between', tried', follows', spares', outcome'⟩ :=
      run_trySet_on_trial used usernameKey username between
    rw [follows.service] at spares' outcome'
    have kept : between'.secret? store.service tokenKey =
        some (Text.utf8 token, some trial.call) :=
      (spares'.secret tokenKey (by decide)).trans stored
    simp only [setAfter, Program.bind_eq, Program.run_bind, tried']
    rcases outcome' with ⟨rfl, -, stored'⟩ | ⟨⟨error, rfl⟩, same'⟩
    · rw [spares.call] at stored'
      exact ⟨used', between', rfl, follows'.trans follows, spares'.call.trans spares.call,
        .inl ⟨kept, stored'⟩⟩
    · obtain ⟨last, after, ran, follows'', spares'', gone⟩ :=
        run_removeMany_on_trial [tokenKey, usernameKey] used' between'
      rw [follows'.service, follows.service] at spares'' gone
      have all : Spares store.service (· ∈ [tokenKey, usernameKey]) trial after :=
        ((spares.mono (by simp +contextual)).trans (spares'.mono (by simp +contextual))).trans
          spares''
      refine ⟨last, after, ran, (follows''.trans follows').trans follows, all.call,
        .inr (dwindles_of_spares all fun key member => ?_)⟩
      simp only [List.mem_cons, List.not_mem_nil, or_false] at member
      rcases member with rfl | rfl
      · left
        exact (gone tokenKey (by simp)).resolve_right fun absent =>
          absent.1 (follows'.handles tokenKey held)
      · refine (gone usernameKey (by simp)).imp_right fun absent => ?_
        rw [absent.2, same']
        exact spares.secret usernameKey (by decide)
  · -- Nothing has been stored yet, and all that is removed is what was there before.
    obtain ⟨last, after, ran, follows', spares', gone⟩ :=
      run_removeMany_on_trial [tokenKey] used between
    rw [follows.service] at spares' gone
    have all : Spares store.service (· ∈ [tokenKey]) trial after :=
      (spares.mono (by simp)).trans spares'
    refine ⟨last, after, ran, follows'.trans follows, all.call,
      .inr (dwindles_of_spares all fun key member => ?_)⟩
    obtain rfl := List.mem_singleton.mp member
    exact (gone tokenKey (by simp)).imp_right fun absent => absent.2.trans same

theorem run_get_on_trial (store : KeychainStore) (key : String) (trial : Trial) :
    ∃ answer used after, (store.get key).run handle trial = ((answer, used), after) ∧
      Follows used store ∧ Spares store.service (fun _ => False) trial after := by
  obtain ⟨between, spares, opened | ⟨-, error, failed⟩⟩ := run_open store key trial
  · unfold get
    simp only [Program.bind_eq, Program.run_bind, opened, System.keychain, Program.run_ask,
      Trial.handle]
    rw [← service_opened store key] at spares ⊢
    have left := spares.trans (onKeychain_get (store.opened key).service key between)
    cases (between.onKeychain (.get (store.opened key).service key)).1 with
    | ok value => exact ⟨_, _, _, rfl, opened_follows store key, left⟩
    | error error => cases error <;> exact ⟨_, _, _, rfl, opened_follows store key, left⟩
  · unfold get
    simp only [Program.bind_eq, Program.run_bind, failed]
    exact ⟨none, store, between, rfl, .refl store, spares⟩

/-! ## Orders -/

theorem run_over_store {α : Type} {call : StoreCall} {next : call.Answer → Client α}
    {store used : KeychainStore} {answer : call.Answer} {trial after : Trial}
    (ran : (perform call store).run handle trial = ((answer, used), after)) :
    (Client.over (.step (.store call) next) (.keychain store)).run handle trial =
      (Client.over (next answer) (.keychain used)).run handle after := by
  rw [Client.over, Program.run_bind, Store.perform, Program.bind_eq, Program.run_bind, ran]
  rfl

def Leaves (order : Order) (service : String) (before after : Trial) : Prop :=
  (∃ token username, order = .establish token username ∧
    after.secret? service tokenKey = some (Text.utf8 token, some before.call) ∧
    after.secret? service usernameKey = some (Text.utf8 username, some before.call)) ∨
  Dwindles service before after

theorem leaves_of_spares {order : Order} {service : String} {before after : Trial}
    (spares : Spares service (fun _ => False) before after) :
    Leaves order service before after :=
  .inr fun key => .inr (spares.secret key not_false)

theorem run_order (order : Order) (store : KeychainStore) (trial : Trial) :
    ∃ answer used after,
      (order.program (.keychain store)).run handle trial = ((answer, .keychain used), after) ∧
      used.service = store.service ∧ after.call = trial.call ∧
      Leaves order store.service trial after := by
  cases order with
  | establish token username =>
    obtain ⟨used, after, ran, follows, call, left⟩ :=
      run_setMany_on_trial store token username trial
    have ran : (perform (establishing token username) store).run handle trial =
        (((), used), after) := by
      simp only [establishing, perform, Program.bind_eq, Program.run_bind, ran]
      rfl
    exact ⟨some (), used, after, run_over_store ran, follows.service, call,
      left.imp_left fun both => ⟨token, username, rfl, both⟩⟩
  | clear =>
    obtain ⟨used, after, ran, follows, spares, gone⟩ :=
      run_removeMany_on_trial [tokenKey, usernameKey] store trial
    have ran : (perform clearing store).run handle trial = (((), used), after) := by
      simp only [clearing, perform, Program.bind_eq, Program.run_bind, ran]
      rfl
    exact ⟨some (), used, after, run_over_store ran, follows.service, spares.call,
      .inr (dwindles_of_spares spares fun key member => (gone key member).imp_right And.right)⟩
  | askAuthenticated =>
    obtain ⟨answer, used, between, ran, follows, spares⟩ := run_get_on_trial store tokenKey trial
    have first : (perform (.get tokenKey) store).run handle trial =
      ((answer, used), between) := ran
    cases answer with
    | none =>
      exact ⟨some (), used, between, run_over_store first, follows.service, spares.call,
        leaves_of_spares spares⟩
    | some token =>
      -- Only with a token is the username asked for, of the store as the first look-up leaves it.
      obtain ⟨answer', last, after, ran', follows', spares'⟩ :=
        run_get_on_trial used usernameKey between
      have second : (perform (.get usernameKey) used).run handle between =
        ((answer', last), after) := ran'
      rw [follows.service] at spares'
      exact ⟨some (), last, after, (run_over_store first).trans (run_over_store second),
        (follows'.trans follows).service, spares'.call.trans spares.call,
        leaves_of_spares (spares.trans spares')⟩
  | askUsername =>
    obtain ⟨answer, used, after, ran, follows, spares⟩ := run_get_on_trial store usernameKey trial
    have ran : (perform (.get usernameKey) store).run handle trial =
      ((answer, used), after) := ran
    exact ⟨some (), used, after, run_over_store ran, follows.service, spares.call,
      leaves_of_spares spares⟩

end KeychainStore

namespace Trial

/-! ## Any number of orders -/

def serve (order : Order) (state : Store × Trial) : Store × Trial :=
  let ((_, store), trial) := (order.program state.1).run handle state.2
  (store, { trial with call := trial.call + 1 })

def follow : List Order → Store × Trial → Store × Trial
  | [], state => state
  | order :: rest, state => follow rest (serve order state)

theorem follow_append (orders more : List Order) (state : Store × Trial) :
    follow (orders ++ more) state = follow more (follow orders state) := by
  induction orders generalizing state with
  | nil => rfl
  | cons order rest ih => exact ih (serve order state)

/-- A session that one order has stored, if not one that was there before any order. -/
def OfOneOrder (orders : List Order) (initial : Keychain) (service : String)
    (token username : Bytes × Option Nat) : Prop :=
  token.2 = username.2 ∧
    match token.2 with
    | some call => ∃ token' username', orders[call]? = some (.establish token' username') ∧
        token.1 = Text.utf8 token' ∧ username.1 = Text.utf8 username'
    | none => initial.get? service tokenKey = some token.1 ∧
        initial.get? service usernameKey = some username.1

theorem OfOneOrder.more {orders : List Order} {initial : Keychain} {service : String}
    {token username : Bytes × Option Nat}
    (one : OfOneOrder orders initial service token username) (order : Order) :
    OfOneOrder (orders ++ [order]) initial service token username := by
  refine ⟨one.1, ?_⟩
  have origin := one.2
  cases writer : token.2 with
  | none => simpa only [writer] using origin
  | some call =>
    simp only [writer] at origin ⊢
    obtain ⟨token', username', there, same⟩ := origin
    have within := (List.getElem?_eq_some_iff.1 there).1
    exact ⟨token', username', (List.getElem?_append_left within).trans there, same⟩

structure Sound (orders : List Order) (initial : Keychain) (service : String)
    (state : Store × Trial) : Prop where
  store : ∃ store : KeychainStore, state.1 = .keychain store ∧ store.service = service
  call : state.2.call = orders.length
  past : ∀ key ∈ [tokenKey, usernameKey], ∀ secret call,
    state.2.secret? service key = some (secret, some call) → call < orders.length
  session : ∀ token username, state.2.secret? service tokenKey = some token →
    state.2.secret? service usernameKey = some username →
    OfOneOrder orders initial service token username

theorem sound_opening (store : KeychainStore) (machine : Machine)
    (troubles : List (Option KeychainError)) :
    Sound [] machine.keychain store.service (.keychain store, .opening machine troubles) := by
  refine ⟨⟨store, rfl, rfl⟩, rfl, ?_, ?_⟩
  · intro key _ secret call there
    simp [secret?, opening] at there
  · intro token username there there'
    simp only [secret?, opening, Option.map_eq_some_iff] at there there'
    obtain ⟨secret, held, rfl⟩ := there
    obtain ⟨secret', held', rfl⟩ := there'
    exact ⟨rfl, held, held'⟩

theorem Sound.leaves {orders : List Order} {initial : Keychain} {service : String}
    {state : Store × Trial} (sound : Sound orders initial service state) (order : Order) :
    (∃ used : KeychainStore, (serve order state).1 = .keychain used ∧ used.service = service) ∧
      (serve order state).2.call = orders.length + 1 ∧
      KeychainStore.Leaves order service state.2 (serve order state).2 := by
  obtain ⟨⟨store, kept, rfl⟩, call, -, -⟩ := sound
  obtain ⟨state, trial⟩ := state
  cases kept
  obtain ⟨answer, used, after, ran, same, call', left⟩ := KeychainStore.run_order order store trial
  have served : serve order (.keychain store, trial) =
      (.keychain used, { after with call := after.call + 1 }) := by
    simp only [serve, ran]
  rw [served]
  refine ⟨⟨used, rfl, same⟩, ?_, left⟩
  show after.call + 1 = orders.length + 1
  rw [call']
  exact congrArg (· + 1) call

theorem Sound.serve {orders : List Order} {initial : Keychain} {service : String}
    {state : Store × Trial} (sound : Sound orders initial service state) (order : Order) :
    Sound (orders ++ [order]) initial service (serve order state) := by
  obtain ⟨store, call, left⟩ := sound.leaves order
  have length : (orders ++ [order]).length = orders.length + 1 := List.length_append
  refine ⟨store, call.trans length.symm, ?_, ?_⟩
  · intro key member secret writer there
    rw [length]
    -- What an order has left is its own or was there before it.
    rcases left with ⟨token, username, -, stored, stored'⟩ | dwindles
    · have written : ∃ text, (Trial.serve order state).2.secret? service key =
          some (text, some state.2.call) := by
        have which : key = tokenKey ∨ key = usernameKey := by simpa using member
        rcases which with rfl | rfl
        · exact ⟨_, stored⟩
        · exact ⟨_, stored'⟩
      obtain ⟨text, written⟩ := written
      rw [written] at there
      cases there
      exact Nat.lt_succ_of_le (Nat.le_of_eq sound.call)
    · rcases dwindles key with none | same
      · rw [none] at there
        cases there
      · exact Nat.lt_succ_of_lt (sound.past key member secret writer (same.symm.trans there))
  · intro token username there there'
    rcases left with ⟨token', username', rfl, stored, stored'⟩ | dwindles
    · rw [stored] at there
      rw [stored'] at there'
      cases there
      cases there'
      refine ⟨rfl, token', username', ?_, rfl, rfl⟩
      rw [sound.call, List.getElem?_concat_length]
    · rcases dwindles tokenKey with none | same
      · rw [none] at there
        cases there
      rcases dwindles usernameKey with none | same'
      · rw [none] at there'
        cases there'
      have one := sound.session token username (same.symm.trans there) (same'.symm.trans there')
      exact one.more order

theorem sound_follow (store : KeychainStore) (machine : Machine)
    (troubles : List (Option KeychainError)) (orders : List Order) :
    Sound orders machine.keychain store.service
      (follow orders (.keychain store, .opening machine troubles)) := by
  induction orders using List.reverseRecOn with
  | nil => exact sound_opening store machine troubles
  | append_singleton orders order ih =>
    rw [follow_append]
    exact ih.serve order

def Wrote (trial : Trial) (service key : String) (call : Nat) : Prop :=
  ∃ secret, trial.secret? service key = some (secret, some call)

theorem Sound.wrote_iff {orders : List Order} {initial : Keychain} {service : String}
    {state : Store × Trial} (sound : Sound orders initial service state) (order : Order) :
    (Trial.serve order state).2.Wrote service tokenKey orders.length ↔
      (Trial.serve order state).2.Wrote service usernameKey orders.length := by
  obtain ⟨-, -, ⟨token, username, -, stored, stored'⟩ | dwindles⟩ := sound.leaves order
  · rw [sound.call] at stored stored'
    exact iff_of_true ⟨_, stored⟩ ⟨_, stored'⟩
  · have older : ∀ key ∈ [tokenKey, usernameKey],
        ¬(Trial.serve order state).2.Wrote service key orders.length := by
      rintro key member ⟨secret, there⟩
      rcases dwindles key with none | same
      · rw [none] at there
        cases there
      · exact Nat.lt_irrefl _ (sound.past key member secret _ (same.symm.trans there))
    exact iff_of_false (older tokenKey (by simp)) (older usernameKey (by simp))

/-- Whatever fails apart from deletions, a token and a username that are both there are of one
order or were both there before, and the order just carried out has left both of its own secrets
or none. -/
theorem session_of_one_order (store : KeychainStore) (machine : Machine)
    (troubles : List (Option KeychainError)) (orders : List Order) :
    let state := follow orders (.keychain store, .opening machine troubles)
    (∀ token username, state.2.secret? store.service tokenKey = some token →
      state.2.secret? store.service usernameKey = some username →
      OfOneOrder orders machine.keychain store.service token username) ∧
    ∀ order, (serve order state).2.Wrote store.service tokenKey orders.length ↔
      (serve order state).2.Wrote store.service usernameKey orders.length := by
  have sound := sound_follow store machine troubles orders
  exact ⟨sound.session, sound.wrote_iff⟩

/-- The second order cannot store its username and takes its token back; the third one succeeds. -/
def retried : Store × Trial :=
  follow [.establish "s" "bob", .establish "t" "ana", .establish "u" "eve"]
    (.keychain ⟨"pws", []⟩,
      .opening ⟨.empty, .empty⟩ [none, none, none, none, none, some .platform])

theorem session_of_one_order_retried :
    retried.2.secret? "pws" tokenKey = some (Text.utf8 "u", some 2) ∧
      retried.2.secret? "pws" usernameKey = some (Text.utf8 "eve", some 2) ∧
      OfOneOrder [.establish "s" "bob", .establish "t" "ana", .establish "u" "eve"] .empty "pws"
        (Text.utf8 "u", some 2) (Text.utf8 "eve", some 2) := by
  have token : retried.2.secret? "pws" tokenKey = some (Text.utf8 "u", some 2) := by decide
  have username : retried.2.secret? "pws" usernameKey = some (Text.utf8 "eve", some 2) := by decide
  obtain ⟨session, -⟩ := session_of_one_order ⟨"pws", []⟩ ⟨.empty, .empty⟩
    [none, none, none, none, none, some .platform]
    [.establish "s" "bob", .establish "t" "ana", .establish "u" "eve"]
  exact ⟨token, username, session _ _ token username⟩

end Trial

end PracticeClient
