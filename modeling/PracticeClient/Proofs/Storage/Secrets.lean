import PracticeClient.Proofs.Storage.Machine
import PracticeClient.Proofs.Text.Utf8
import PracticeClient.Storage.KeychainStore

namespace PracticeClient

/-! ## Faults -/

namespace Keychain

def dueAfter (keychain : Keychain) (met : Nat) (action : KeychainAction) (key : String) : Bool :=
  keychain.faults.any fun fault =>
    fault.action == action && fault.key == key && fault.left.all (met < ·)

abbrev due (keychain : Keychain) (action : KeychainAction) (key : String) : Bool :=
  keychain.dueAfter 0 action key

def spent (keychain : Keychain) (action : KeychainAction) (key : String) : Keychain :=
  { keychain with
    faults := keychain.faults.map fun fault =>
      if fault.action == action && fault.key == key && fault.left != some 0 then
        { fault with left := fault.left.map (· - 1) }
      else fault }

theorem left_ne_zero (left : Option Nat) : (left != some 0) = left.all (0 < ·) := by
  cases left with
  | none => rfl
  | some left => cases left <;> rfl

theorem isDue_eq (op : KeychainOp) (fault : KeychainFault) :
    isDue op fault =
      (fault.action == op.action && fault.key == op.key && fault.left.all (0 < ·)) := by
  rw [isDue, left_ne_zero]

theorem handle_of_due {op : KeychainOp} {keychain : Keychain}
    (due : keychain.due op.action op.key = true) :
    ∃ error, handle op keychain = (op.fail error, keychain.spent op.action op.key) := by
  unfold handle meetFault
  cases found : keychain.faults.find? (isDue op) with
  | some fault => exact ⟨fault.error, rfl⟩
  | none =>
    rw [List.find?_eq_none] at found
    obtain ⟨fault, member, meets⟩ := List.any_eq_true.1 due
    rw [← isDue_eq] at meets
    exact absurd meets (found fault member)

theorem handle_of_not_due {op : KeychainOp} {keychain : Keychain}
    (fine : keychain.due op.action op.key = false) :
    handle op keychain = perform op keychain := by
  unfold handle meetFault
  have found : keychain.faults.find? (isDue op) = none := by
    rw [List.find?_eq_none]
    intro fault member
    rw [isDue_eq]
    exact List.any_eq_false.1 fine fault member
  rw [found]

theorem spent_of_not_due {keychain : Keychain} {action : KeychainAction} {key : String}
    (fine : keychain.due action key = false) : keychain.spent action key = keychain := by
  have same : ∀ fault ∈ keychain.faults,
      (if fault.action == action && fault.key == key && fault.left != some 0 then
        { fault with left := fault.left.map (· - 1) } else fault) = fault := by
    intro fault member
    rw [left_ne_zero, if_neg (List.any_eq_false.1 fine fault member)]
  rw [spent, List.map_congr_left same, List.map_id']

theorem dueAfter_spent (keychain : Keychain) (met : Nat) (action : KeychainAction)
    (key : String) :
    (keychain.spent action key).dueAfter met action key =
      keychain.dueAfter (met + 1) action key := by
  unfold dueAfter spent
  rw [List.any_map]
  congr 1
  funext fault
  obtain ⟨action', key', error, left⟩ := fault
  by_cases same : action' = action ∧ key' = key
  · obtain ⟨rfl, rfl⟩ := same
    cases left with
    | none => simp
    | some left => cases left <;> simp
  · have other : (action' == action && key' == key) = false := by
      rw [← Bool.not_eq_true, Bool.and_eq_true, beq_iff_eq, beq_iff_eq]
      exact same
    simp only [Function.comp_apply, other, Bool.false_and, Bool.false_eq_true, if_false]

theorem dueAfter_spent_of_ne {keychain : Keychain} {action action' : KeychainAction}
    {key key' : String} (differ : action' ≠ action ∨ key' ≠ key) (met : Nat) :
    (keychain.spent action key).dueAfter met action' key' =
      keychain.dueAfter met action' key' := by
  unfold dueAfter spent
  rw [List.any_map]
  congr 1
  funext fault
  simp only [Function.comp_apply]
  split
  · next meets =>
    simp only [Bool.and_eq_true, beq_iff_eq] at meets
    obtain ⟨⟨rfl, rfl⟩, -⟩ := meets
    rcases differ with differ | differ
    · rw [beq_eq_false_iff_ne.2 differ.symm, Bool.false_and, Bool.false_and, Bool.false_and]
    · rw [beq_eq_false_iff_ne.2 differ.symm, Bool.and_false, Bool.false_and, Bool.false_and]
  · rfl

@[simp] theorem get?_spent (keychain : Keychain) (action : KeychainAction)
    (key service key' : String) :
    (keychain.spent action key).get? service key' = keychain.get? service key' := rfl

theorem get?_erase (keychain : Keychain) (service key service' key' : String) :
    (keychain.erase service key).get? service' key' =
      if (service', key') = (service, key) then none else keychain.get? service' key' :=
  FileSystem.lookup_filter_ne keychain.entries (service, key) (service', key')

theorem get?_put (keychain : Keychain) (service key service' key' : String) (secret : Bytes) :
    (keychain.put service key secret).get? service' key' =
      if (service', key') = (service, key) then some secret else keychain.get? service' key' := by
  change List.lookup (service', key') (((service, key), secret) :: _) = _
  rw [List.lookup_cons]
  by_cases same : (service', key') = (service, key)
  · simp [same]
  · have erased := get?_erase keychain service key service' key'
    rw [if_neg same] at erased ⊢
    rw [beq_eq_false_iff_ne.2 same]
    exact erased

end Keychain

namespace KeychainStore

/-! ## One key and the others -/

def held (store : KeychainStore) (keychain : Keychain) (key : String) : Option String :=
  (keychain.get? store.service key).bind Text.decode?

def Opens (store : KeychainStore) (keychain : Keychain) (key : String) : Prop :=
  key ∈ store.handles ∨ keychain.due .build key = false

def Allows (store : KeychainStore) (keychain : Keychain) (action : KeychainAction)
    (key : String) : Prop :=
  store.Opens keychain key ∧ keychain.due action key = false

/-- Whether a value will still be there after an attempt to store another one has failed and
everything has been done to remove it. -/
def Clings (store : KeychainStore) (keychain : Keychain) (key : String) : Prop :=
  (key ∉ store.handles ∧ keychain.dueAfter 1 .build key = true) ∨
    keychain.due .delete key = true

instance (store : KeychainStore) (keychain : Keychain) (key : String) :
    Decidable (store.Opens keychain key) :=
  inferInstanceAs (Decidable (_ ∨ _))

instance (store : KeychainStore) (keychain : Keychain) (action : KeychainAction) (key : String) :
    Decidable (store.Allows keychain action key) :=
  inferInstanceAs (Decidable (_ ∧ _))

instance (store : KeychainStore) (keychain : Keychain) (key : String) :
    Decidable (store.Clings keychain key) :=
  inferInstanceAs (Decidable (_ ∨ _))

structure Apart (key : String) (before after : KeychainStore × Keychain) : Prop where
  service : after.1.service = before.1.service
  handle : key ∈ after.1.handles ↔ key ∈ before.1.handles
  secret : ∀ service, after.2.get? service key = before.2.get? service key
  faults : ∀ met action, after.2.dueAfter met action key = before.2.dueAfter met action key

namespace Apart

variable {key : String} {before between after : KeychainStore × Keychain}

theorem refl (key : String) (state : KeychainStore × Keychain) : Apart key state state :=
  ⟨rfl, Iff.rfl, fun _ => rfl, fun _ _ => rfl⟩

theorem trans (first : Apart key before between) (next : Apart key between after) :
    Apart key before after where
  service := next.service.trans first.service
  handle := next.handle.trans first.handle
  secret service := (next.secret service).trans (first.secret service)
  faults met action := (next.faults met action).trans (first.faults met action)

theorem due (apart : Apart key before after) (action : KeychainAction) :
    after.2.due action key = before.2.due action key :=
  apart.faults 0 action

theorem held (apart : Apart key before after) :
    after.1.held after.2 key = before.1.held before.2 key := by
  rw [KeychainStore.held, KeychainStore.held, apart.service, apart.secret]

theorem opens (apart : Apart key before after) :
    after.1.Opens after.2 key ↔ before.1.Opens before.2 key := by
  rw [Opens, Opens, apart.handle, apart.due]

theorem allows (apart : Apart key before after) (action : KeychainAction) :
    after.1.Allows after.2 action key ↔ before.1.Allows before.2 action key := by
  rw [Allows, Allows, apart.opens, apart.due]

theorem clings (apart : Apart key before after) :
    after.1.Clings after.2 key ↔ before.1.Clings before.2 key := by
  rw [Clings, Clings, apart.handle, apart.faults, apart.due]

end Apart

def opened (store : KeychainStore) (key : String) : KeychainStore :=
  if key ∈ store.handles then store else { store with handles := key :: store.handles }

@[simp] theorem service_opened (store : KeychainStore) (key : String) :
    (store.opened key).service = store.service := by
  unfold opened
  split <;> rfl

theorem mem_opened (store : KeychainStore) (key other : String) :
    other ∈ (store.opened key).handles ↔ other = key ∨ other ∈ store.handles := by
  unfold opened
  split
  · next present =>
    constructor
    · exact .inr
    · rintro (rfl | member)
      · exact present
      · exact member
  · exact List.mem_cons

section

variable (store : KeychainStore) (keychain : Keychain) {key other : String}

theorem apart_opened (differ : other ≠ key) :
    Apart other (store, keychain) (store.opened key, keychain) where
  service := service_opened store key
  handle := by rw [mem_opened, or_iff_right differ]
  secret _ := rfl
  faults _ _ := rfl

theorem apart_spent (differ : other ≠ key) (action : KeychainAction) :
    Apart other (store, keychain) (store, keychain.spent action key) where
  service := rfl
  handle := Iff.rfl
  secret service := Keychain.get?_spent keychain action key service other
  faults met _ := Keychain.dueAfter_spent_of_ne (.inr differ) met

theorem apart_put (differ : other ≠ key) (secret : Bytes) :
    Apart other (store, keychain) (store, keychain.put store.service key secret) where
  service := rfl
  handle := Iff.rfl
  secret service := by
    rw [Keychain.get?_put, if_neg fun same => differ (congrArg Prod.snd same)]
  faults _ _ := rfl

theorem apart_erase (differ : other ≠ key) :
    Apart other (store, keychain) (store, keychain.erase store.service key) where
  service := rfl
  handle := Iff.rfl
  secret service := by
    rw [Keychain.get?_erase, if_neg fun same => differ (congrArg Prod.snd same)]
  faults _ _ := rfl

end

theorem held_of_deleted {store after : KeychainStore} {before keychain : Keychain} {key : String}
    (same : after.service = store.service)
    (gone : ∀ service, keychain.get? service key =
      if service = store.service ∧ store.Allows before .delete key then none
      else before.get? service key) :
    after.held keychain key =
      if store.Allows before .delete key then none else store.held before key := by
  rw [held, same, gone]
  by_cases allowed : store.Allows before .delete key
  · rw [if_pos ⟨rfl, allowed⟩, if_pos allowed]
    rfl
  · rw [if_neg fun both => allowed both.2, if_neg allowed]
    rfl

/-! ## Operations -/

def onKeychain (machine : Machine) (keychain : Keychain) : Machine :=
  { machine with keychain }

section

variable (store : KeychainStore) (key : String) (machine : Machine)

theorem run_open_of_opens (opens : store.Opens machine.keychain key) :
    (store.open? key).run Machine.quiet machine = (.ok (store.opened key), machine) := by
  unfold open? opened
  by_cases present : key ∈ store.handles
  · rw [if_pos present, if_pos present]
    rfl
  · rw [if_neg present, if_neg present, Program.bind_eq, Program.run_bind]
    have fine := opens.resolve_left present
    have built : Keychain.handle (.build store.service key) machine.keychain =
        (.ok (), machine.keychain) := Keychain.handle_of_not_due fine
    simp only [System.keychain, Program.run_ask, Machine.quiet, built]
    rfl

theorem run_open_of_not_opens (closed : ¬store.Opens machine.keychain key) :
    ∃ error, (store.open? key).run Machine.quiet machine =
      (.error error, onKeychain machine (machine.keychain.spent .build key)) := by
  rw [Opens, not_or, Bool.not_eq_false] at closed
  obtain ⟨absent, due⟩ := closed
  obtain ⟨error, met⟩ := @Keychain.handle_of_due (.build store.service key) machine.keychain due
  refine ⟨error, ?_⟩
  unfold open?
  rw [if_neg absent, Program.bind_eq, Program.run_bind]
  simp only [System.keychain, Program.run_ask, Machine.quiet, met]
  rfl

theorem run_get_of_allows (allowed : store.Allows machine.keychain .get key) :
    (store.get key).run Machine.quiet machine =
      ((store.held machine.keychain key, store.opened key), machine) := by
  obtain ⟨opens, due⟩ := allowed
  unfold get
  simp only [Program.bind_eq, Program.run_bind]
  rw [run_open_of_opens store key machine opens]
  simp only [System.keychain, Program.run_bind, Program.run_ask, Machine.quiet]
  have done : Keychain.handle (.get (store.opened key).service key) machine.keychain =
      Keychain.perform (.get (store.opened key).service key) machine.keychain :=
    Keychain.handle_of_not_due due
  have same : store.held machine.keychain key =
      (store.opened key).held machine.keychain key := by
    rw [held, held, service_opened]
  rw [done, Keychain.perform, same]
  unfold held
  cases machine.keychain.get? (store.opened key).service key with
  | none => rfl
  | some secret =>
    cases value : Text.decode? secret with
    | none =>
      simp only [value, Option.bind_some]
      rfl
    | some value' =>
      simp only [value, Option.bind_some]
      rfl

theorem run_get : ∃ after keychain,
    (store.get key).run Machine.quiet machine =
      ((if store.Allows machine.keychain .get key then store.held machine.keychain key else none,
        after), onKeychain machine keychain) ∧
      (∀ other, after.held keychain other = store.held machine.keychain other) ∧
      ∀ other, other ≠ key → Apart other (store, machine.keychain) (after, keychain) := by
  have values (other : String) : (store.opened key).held machine.keychain other =
      store.held machine.keychain other := by
    rw [held, held, service_opened]
  have left (other : String) (differ : other ≠ key) :=
    apart_opened store machine.keychain differ
  by_cases opens : store.Opens machine.keychain key
  · cases due : machine.keychain.due .get key with
    | true =>
      obtain ⟨error, met⟩ :=
        @Keychain.handle_of_due (.get (store.opened key).service key) machine.keychain due
      have answer : KeychainOp.fail error (.get (store.opened key).service key) =
        .error error := rfl
      unfold get
      simp only [Program.bind_eq, Program.run_bind]
      rw [run_open_of_opens store key machine opens]
      simp only [System.keychain, Program.run_bind, Program.run_ask, Machine.quiet]
      rw [if_neg (by simp [Allows, due]), met, answer]
      refine ⟨store.opened key, machine.keychain.spent .get key, ?_, values,
        fun other differ => (left other differ).trans (apart_spent _ _ differ .get)⟩
      cases error <;> rfl
    | false =>
      rw [if_pos ⟨opens, due⟩, run_get_of_allows store key machine ⟨opens, due⟩]
      exact ⟨store.opened key, machine.keychain, rfl, values, left⟩
  · obtain ⟨error, met⟩ := run_open_of_not_opens store key machine opens
    unfold get
    simp only [Program.bind_eq, Program.run_bind]
    rw [met, if_neg fun allowed => opens allowed.1]
    exact ⟨store, machine.keychain.spent .build key, rfl, fun _ => rfl, fun other differ =>
      apart_spent store machine.keychain differ .build⟩

theorem run_remove_secret : ∃ after keychain,
    (store.remove key).run Machine.quiet machine = (after, onKeychain machine keychain) ∧
      after.service = store.service ∧
      (∀ service, keychain.get? service key =
        if service = store.service ∧ store.Allows machine.keychain .delete key then none
        else machine.keychain.get? service key) ∧
      ∀ other, other ≠ key → Apart other (store, machine.keychain) (after, keychain) := by
  unfold remove
  simp only [Program.bind_eq, Program.run_bind]
  by_cases opens : store.Opens machine.keychain key
  · rw [run_open_of_opens store key machine opens]
    simp only [System.keychain, Program.run_bind, Program.run_ask, Machine.quiet]
    have left (other : String) (differ : other ≠ key) :=
      apart_opened store machine.keychain differ
    have service := service_opened store key
    cases due : machine.keychain.due .delete key with
    | true =>
      -- A failure that was due has been met, and the secrets are as they were.
      obtain ⟨error, met⟩ :=
        @Keychain.handle_of_due (.delete (store.opened key).service key) machine.keychain due
      have answer : KeychainOp.fail error (.delete (store.opened key).service key) =
        .error error := rfl
      have refused : ¬store.Allows machine.keychain .delete key := by simp [Allows, due]
      rw [met, answer]
      refine ⟨store.opened key, machine.keychain.spent .delete key, ?_, service, ?_,
        fun other differ => (left other differ).trans (apart_spent _ _ differ .delete)⟩
      · cases error <;> rfl
      · intro service'
        rw [Keychain.get?_spent, if_neg fun both => refused both.2]
    | false =>
      have done : Keychain.handle (.delete (store.opened key).service key) machine.keychain =
          Keychain.perform (.delete (store.opened key).service key) machine.keychain :=
        Keychain.handle_of_not_due due
      have allowed : store.Allows machine.keychain .delete key := ⟨opens, due⟩
      rw [done, Keychain.perform, service]
      cases there : machine.keychain.get? store.service key with
      | none =>
        refine ⟨store.opened key, machine.keychain, rfl, service, ?_, left⟩
        intro service'
        split
        · next own => rw [own.1, there]
        · rfl
      | some secret =>
        refine ⟨store.opened key, machine.keychain.erase store.service key, rfl, service, ?_,
          fun other differ => (left other differ).trans
            (service ▸ apart_erase (store.opened key) _ differ)⟩
        intro service'
        simp only [Keychain.get?_erase, Prod.mk.injEq, and_true, allowed]
  · obtain ⟨error, met⟩ := run_open_of_not_opens store key machine opens
    rw [met]
    refine ⟨store, machine.keychain.spent .build key, rfl, rfl, ?_, fun other differ =>
      apart_spent store machine.keychain differ .build⟩
    intro service
    rw [Keychain.get?_spent, if_neg fun both => opens both.2.1]

theorem run_remove : ∃ after keychain,
    (store.remove key).run Machine.quiet machine = (after, onKeychain machine keychain) ∧
      after.held keychain key =
        (if store.Allows machine.keychain .delete key then none
          else store.held machine.keychain key) ∧
      ∀ other, other ≠ key → Apart other (store, machine.keychain) (after, keychain) := by
  obtain ⟨after, keychain, ran, service, gone, left⟩ := run_remove_secret store key machine
  exact ⟨after, keychain, ran, held_of_deleted service gone, left⟩

theorem allows_delete_of_refused {keychain : Keychain} (opens : store.Opens keychain key) :
    (store.opened key).Allows (keychain.spent .set key) .delete key ↔
      ¬store.Clings keychain key := by
  have present : key ∈ (store.opened key).handles := (mem_opened store key key).2 (.inl rfl)
  have other : (keychain.spent .set key).due .delete key = keychain.due .delete key :=
    Keychain.dueAfter_spent_of_ne (.inl (by decide)) 0
  have built : ¬(key ∉ store.handles ∧ keychain.dueAfter 1 .build key = true) := by
    rintro ⟨absent, again⟩
    have fine := opens.resolve_left absent
    rw [← Keychain.dueAfter_spent, Keychain.spent_of_not_due fine] at again
    exact absurd (fine.symm.trans again) (by simp)
  rw [Allows, Clings, or_iff_right built, other, Bool.not_eq_true]
  exact and_iff_right (.inl present)

theorem allows_delete_of_not_opens {keychain : Keychain} (closed : ¬store.Opens keychain key) :
    store.Allows (keychain.spent .build key) .delete key ↔ ¬store.Clings keychain key := by
  have other : (keychain.spent .build key).due .delete key = keychain.due .delete key :=
    Keychain.dueAfter_spent_of_ne (.inl (by decide)) 0
  rw [Opens, not_or] at closed
  rw [Allows, Opens, Clings, other, Keychain.due, Keychain.dueAfter_spent, not_or,
    and_iff_right closed.1, or_iff_right closed.1]
  simp only [Bool.not_eq_true]

theorem run_trySet_secret (value : String) : ∃ result after keychain,
    (store.trySet key value).run Machine.quiet machine =
        ((result, after), onKeychain machine keychain) ∧
      after.service = store.service ∧
      (∀ service, keychain.get? service key =
        if service = store.service ∧ store.Allows machine.keychain .set key then
          some (Text.utf8 value)
        else machine.keychain.get? service key) ∧
      (store.Allows machine.keychain .set key → result = .ok () ∧
        (after.Allows keychain .delete key ↔ machine.keychain.due .delete key = false)) ∧
      (¬store.Allows machine.keychain .set key → (∃ error, result = .error error) ∧
        (after.Allows keychain .delete key ↔ ¬store.Clings machine.keychain key)) ∧
      ∀ other, other ≠ key → Apart other (store, machine.keychain) (after, keychain) := by
  unfold trySet
  simp only [Program.bind_eq, Program.run_bind]
  by_cases opens : store.Opens machine.keychain key
  · rw [run_open_of_opens store key machine opens]
    simp only [System.keychain, Program.run_bind, Program.run_ask, Machine.quiet]
    have left (other : String) (differ : other ≠ key) :=
      apart_opened store machine.keychain differ
    have present : key ∈ (store.opened key).handles := (mem_opened store key key).2 (.inl rfl)
    have service := service_opened store key
    cases due : machine.keychain.due .set key with
    | true =>
      obtain ⟨error, met⟩ :=
        @Keychain.handle_of_due (.set (store.opened key).service key value) machine.keychain due
      have refused : ¬store.Allows machine.keychain .set key := by simp [Allows, due]
      rw [met]
      refine ⟨.error error, store.opened key, machine.keychain.spent .set key, rfl, service, ?_,
        fun allowed => absurd allowed refused,
        fun _ => ⟨⟨error, rfl⟩, allows_delete_of_refused store key opens⟩,
        fun other differ => (left other differ).trans (apart_spent _ _ differ .set)⟩
      intro service'
      rw [Keychain.get?_spent, if_neg fun both => refused both.2]
    | false =>
      have done : Keychain.handle (.set (store.opened key).service key value) machine.keychain =
          Keychain.perform (.set (store.opened key).service key value) machine.keychain :=
        Keychain.handle_of_not_due due
      have allowed : store.Allows machine.keychain .set key := ⟨opens, due⟩
      rw [done, Keychain.perform, service]
      refine ⟨.ok (), store.opened key,
        machine.keychain.put store.service key (Text.utf8 value), rfl, service, ?_,
        fun _ => ⟨rfl, and_iff_right (.inl present)⟩, fun refused => absurd allowed refused,
        fun other differ => (left other differ).trans
          (service ▸ apart_put (store.opened key) _ differ _)⟩
      intro service'
      simp only [Keychain.get?_put, Prod.mk.injEq, and_true, allowed]
  · obtain ⟨error, met⟩ := run_open_of_not_opens store key machine opens
    rw [met]
    refine ⟨.error error, store, machine.keychain.spent .build key, rfl, rfl, ?_,
      fun allowed => absurd allowed.1 opens,
      fun _ => ⟨⟨error, rfl⟩, allows_delete_of_not_opens store key opens⟩,
      fun other differ => apart_spent store machine.keychain differ .build⟩
    intro service
    rw [Keychain.get?_spent, if_neg fun both => opens both.2.1]

theorem run_trySet (value : String) : ∃ result after keychain,
    (store.trySet key value).run Machine.quiet machine =
        ((result, after), onKeychain machine keychain) ∧
      (store.Allows machine.keychain .set key → result = .ok () ∧
        after.held keychain key = some value ∧
        (after.Allows keychain .delete key ↔ machine.keychain.due .delete key = false)) ∧
      (¬store.Allows machine.keychain .set key → (∃ error, result = .error error) ∧
        after.held keychain key = store.held machine.keychain key ∧
        (after.Allows keychain .delete key ↔ ¬store.Clings machine.keychain key)) ∧
      ∀ other, other ≠ key → Apart other (store, machine.keychain) (after, keychain) := by
  obtain ⟨result, after, keychain, ran, service, secrets, accepted, refused, left⟩ :=
    run_trySet_secret store key machine value
  refine ⟨result, after, keychain, ran, ?_, ?_, left⟩
  · intro allowed
    refine ⟨(accepted allowed).1, ?_, (accepted allowed).2⟩
    rw [held, service, secrets, if_pos ⟨rfl, allowed⟩, Option.bind_some, Text.decode?_utf8]
  · intro forbidden
    refine ⟨(refused forbidden).1, ?_, (refused forbidden).2⟩
    rw [held, service, secrets, if_neg fun both => forbidden both.2]
    rfl

end

/-! ## Several keys -/

theorem run_removeMany_secrets {keys : List String} (distinct : keys.Nodup)
    (store : KeychainStore) (machine : Machine) : ∃ after keychain,
    (removeMany keys store).run Machine.quiet machine = (after, onKeychain machine keychain) ∧
      after.service = store.service ∧
      (∀ key ∈ keys, ∀ service, keychain.get? service key =
        if service = store.service ∧ store.Allows machine.keychain .delete key then none
        else machine.keychain.get? service key) ∧
      ∀ key, key ∉ keys → Apart key (store, machine.keychain) (after, keychain) := by
  induction keys generalizing store machine with
  | nil => exact ⟨store, machine.keychain, rfl, rfl, by simp, fun key _ => .refl key _⟩
  | cons key rest ih =>
    obtain ⟨fresh, distinct⟩ := List.nodup_cons.1 distinct
    obtain ⟨between, keychain', removed, same, gone, left⟩ := run_remove_secret store key machine
    obtain ⟨after, keychain, ran, service, secrets, others⟩ :=
      ih distinct between (onKeychain machine keychain')
    refine ⟨after, keychain, ?_, service.trans same, ?_, ?_⟩
    · rw [removeMany, Program.bind_eq, Program.run_bind, removed]
      exact ran
    · intro other member service
      rcases List.mem_cons.1 member with rfl | later
      · rw [(others other fresh).secret]
        exact gone service
      · have differ : other ≠ key := by
          rintro rfl
          exact fresh later
        have untouched := left other differ
        simp only [secrets other later, onKeychain, untouched.allows, untouched.secret, same]
    · intro other absent
      rw [List.mem_cons, not_or] at absent
      exact (left other absent.1).trans (others other absent.2)

theorem run_removeMany {keys : List String} (distinct : keys.Nodup) (store : KeychainStore)
    (machine : Machine) : ∃ after keychain,
    (removeMany keys store).run Machine.quiet machine = (after, onKeychain machine keychain) ∧
      (∀ key ∈ keys, after.held keychain key =
        if store.Allows machine.keychain .delete key then none
        else store.held machine.keychain key) ∧
      ∀ key, key ∉ keys → Apart key (store, machine.keychain) (after, keychain) := by
  obtain ⟨after, keychain, ran, service, secrets, others⟩ :=
    run_removeMany_secrets distinct store machine
  exact ⟨after, keychain, ran, fun key member => held_of_deleted service (secrets key member),
    others⟩

/-- Whether two values that go to the store together are held afterwards. If one is refused, both
are removed again; they are held nevertheless if the store held them before and cannot remove
them. -/
def Retains (store : KeychainStore) (keychain : Keychain) (first second : String × String) : Prop :=
  if store.Allows keychain .set first.1 then
    store.Allows keychain .set second.1 ∨
      (keychain.due .delete first.1 = true ∧ store.Clings keychain second.1 ∧
        store.held keychain second.1 = some second.2)
  else store.Clings keychain first.1 ∧ store.held keychain first.1 = some first.2 ∧
    store.held keychain second.1 = some second.2

theorem run_setMany_pair {first second : String × String} (differ : first.1 ≠ second.1)
    (store : KeychainStore) (machine : Machine) : ∃ after keychain,
    (setMany [first, second] store).run Machine.quiet machine =
        (after, onKeychain machine keychain) ∧
      ((after.held keychain first.1 = some first.2 ∧
          after.held keychain second.1 = some second.2) ↔
        store.Retains machine.keychain first second) := by
  obtain ⟨result, between, keychain', tried, accepted, refused, left⟩ :=
    run_trySet store first.1 machine first.2
  have untouched := left second.1 differ.symm
  unfold setMany setAfter Retains
  simp only [Program.bind_eq, Program.run_bind, tried]
  by_cases allowed : store.Allows machine.keychain .set first.1
  · obtain ⟨rfl, held, removable⟩ := accepted allowed
    -- The first value is in; what happens to the second leaves its key alone.
    obtain ⟨result', between', keychain'', tried', accepted', refused', left'⟩ :=
      run_trySet between second.1 (onKeychain machine keychain') second.2
    have untouched' := left' first.1 differ
    simp only [setAfter, Program.bind_eq, Program.run_bind, tried', if_pos allowed]
    by_cases allowed' : store.Allows machine.keychain .set second.1
    · obtain ⟨rfl, held', -⟩ := accepted' ((untouched.allows .set).2 allowed')
      refine ⟨between', keychain'', rfl, ?_⟩
      have held := untouched'.held.trans held
      simp only [held, held', allowed', true_or, and_self]
    · obtain ⟨⟨error, rfl⟩, held', removable'⟩ :=
        refused' fun allowed => allowed' ((untouched.allows .set).1 allowed)
      have distinct : [first.1, second.1].Nodup := by simp [differ]
      obtain ⟨after, keychain, ran, values, -⟩ :=
        run_removeMany distinct between' (onKeychain machine keychain'')
      refine ⟨after, keychain, ran, ?_⟩
      have token := values first.1 (by simp)
      have username := values second.1 (by simp)
      simp only [onKeychain, untouched'.allows, untouched'.held, removable, held] at token
      simp only [onKeychain, removable', held', untouched.clings, untouched.held] at username
      rw [token, username, or_iff_right allowed']
      cases machine.keychain.due .delete first.1 <;>
        by_cases clings : store.Clings machine.keychain second.1 <;> simp [clings]
  -- The first value is refused, so the second is never tried.
  · obtain ⟨⟨error, rfl⟩, held, removable⟩ := refused allowed
    have distinct : [first.1].Nodup := by simp
    obtain ⟨after, keychain, ran, values, others⟩ :=
      run_removeMany distinct between (onKeychain machine keychain')
    refine ⟨after, keychain, ran, ?_⟩
    have kept := others second.1 (by simp [differ.symm])
    have value := values first.1 (by simp)
    simp only [onKeychain, removable, held] at value
    have other := kept.held.trans untouched.held
    rw [value, other, if_neg allowed]
    by_cases clings : store.Clings machine.keychain first.1 <;> simp [clings]

end KeychainStore

end PracticeClient
