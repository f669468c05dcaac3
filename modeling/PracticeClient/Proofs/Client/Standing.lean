import PracticeClient.Proofs.Client.StoreChanges
import PracticeClient.Proofs.Storage.FileContents
import PracticeClient.Proofs.Storage.Secrets

namespace PracticeClient

open Session

namespace Store

/-! ## What is held -/

def call (call : StoreCall) (store : Store) (machine : Machine) :
    (call.Answer × Store) × Machine :=
  (store.perform call).run Machine.quiet machine

def held (store : Store) (machine : Machine) (key : String) : Option String :=
  match store with
  | .memory values => values.get? key
  | .file path => (FileStore.contents machine.files path).get? key
  | .keychain store => store.held machine.keychain key
  | .plain values => values.get? key
  | .batching values => values.get? key

def Readable (store : Store) (machine : Machine) (key : String) : Prop :=
  match store with
  | .file _ => machine.files.due = none
  | .keychain store => store.Allows machine.keychain .get key
  | _ => True

def BothReadable (store : Store) (machine : Machine) (first second : String) : Prop :=
  match store with
  | .file _ => machine.files.due = none ∧ machine.files.past.due = none
  | .keychain store =>
    store.Allows machine.keychain .get first ∧ store.Allows machine.keychain .get second
  | _ => True

theorem BothReadable.first {store : Store} {machine : Machine} {first second : String}
    (both : store.BothReadable machine first second) : store.Readable machine first := by
  cases store with
  | file path => exact both.1
  | keychain store => exact both.1
  | _ => trivial

theorem BothReadable.second {store : Store} {machine : Machine} {first second : String}
    (both : store.BothReadable machine first second) : store.Readable machine second := by
  cases store with
  | file path => exact both.1
  | keychain store => exact both.2
  | _ => trivial

theorem call_plain (order : StoreCall) (table : Table String) (machine : Machine) :
    (call order (.plain table) machine).1 =
      ((onTable order table).1, .plain (onTable order table).2) := by
  have ran := (Machine.run_quiet (onPlain order table) machine []).1
  rw [Clients.run_onPlain] at ran
  simp only [call, perform, Program.bind_eq, Program.run_bind, ← ran]
  rfl

theorem call_file (order : StoreCall) (path : Path) (machine : Machine) :
    call order (.file path) machine =
      ((((FileStore.perform path order).run Machine.quiet machine).1, .file path),
        ((FileStore.perform path order).run Machine.quiet machine).2) := by
  simp only [call, perform, Program.bind_eq, Program.run_bind]
  rfl

theorem call_file_get (key : String) (path : Path) (machine : Machine) :
    call (.get key) (.file path) machine =
      (((FileStore.reading path machine).1.get? key, .file path),
        (FileStore.reading path machine).2) := by
  have ran : (FileStore.perform path (.get key)).run Machine.quiet machine =
      ((FileStore.reading path machine).1.get? key, (FileStore.reading path machine).2) :=
    FileStore.run_get path key machine
  rw [call_file, ran]

theorem call_keychain (order : StoreCall) (store : KeychainStore) (machine : Machine) :
    call order (.keychain store) machine =
      ((((KeychainStore.perform order store).run Machine.quiet machine).1.1,
          .keychain ((KeychainStore.perform order store).run Machine.quiet machine).1.2),
        ((KeychainStore.perform order store).run Machine.quiet machine).2) := by
  simp only [call, perform, Program.bind_eq, Program.run_bind]
  rfl

/-! ## Looking up -/

theorem look_up (store : Store) (machine : Machine) (key : String) :
    (store.Readable machine key →
        (call (.get key) store machine).1.1 = store.held machine key) ∧
      (¬store.Readable machine key → (call (.get key) store machine).1.1 = none) ∧
      ∀ other, (call (.get key) store machine).1.2.held (call (.get key) store machine).2 other =
        store.held machine other := by
  cases store with
  | memory table => exact ⟨fun _ => rfl, fun unreadable => absurd trivial unreadable, fun _ => rfl⟩
  | batching table => exact ⟨fun _ => rfl, fun unreadable => absurd trivial unreadable, fun _ => rfl⟩
  | plain table =>
    rw [call_plain]
    exact ⟨fun _ => rfl, fun unreadable => absurd trivial unreadable, fun _ => rfl⟩
  | file path =>
    rw [call_file_get]
    refine ⟨fun readable => ?_, fun unreadable => ?_, fun other => ?_⟩
    · have fine : machine.files.due = none := readable
      simp only [FileStore.reading_eq, fine, held, Option.isNone_none, if_true]
    · cases due : machine.files.due with
      | none => exact absurd due unreadable
      | some mishap =>
        simp [FileStore.reading_eq, due]
    · have same := FileStore.reading_content path machine path
      simp only [held, FileStore.contents_congr same]
  | keychain store =>
    obtain ⟨after, keychain, ran, values, -⟩ := KeychainStore.run_get store key machine
    have ran : (KeychainStore.perform (.get key) store).run Machine.quiet machine = _ := ran
    rw [call_keychain, ran]
    refine ⟨fun readable => ?_, fun unreadable => ?_, values⟩
    · have allowed : store.Allows machine.keychain .get key := readable
      simp only [if_pos allowed]
      rfl
    · have refused : ¬store.Allows machine.keychain .get key := unreadable
      simp only [if_neg refused]

theorem look_up_eq_some {store : Store} {machine : Machine} {key value : String} :
    (call (.get key) store machine).1.1 = some value ↔
      store.held machine key = some value ∧ store.Readable machine key := by
  obtain ⟨answers, fails, -⟩ := look_up store machine key
  by_cases readable : store.Readable machine key
  · rw [answers readable]
    exact (and_iff_left readable).symm
  · rw [fails readable]
    exact iff_of_false nofun fun both => readable both.2

theorem readable_after_look_up {store : Store} {machine : Machine} {first second value : String}
    (differ : second ≠ first)
    (found : (call (.get first) store machine).1.1 = some value) :
    (call (.get first) store machine).1.2.Readable (call (.get first) store machine).2 second ↔
      store.BothReadable machine first second := by
  cases store with
  | memory table => exact Iff.rfl
  | batching table => exact Iff.rfl
  | plain table =>
    rw [call_plain]
    exact Iff.rfl
  | file path =>
    rw [call_file_get] at found ⊢
    have present := FileStore.exists?_of_found found
    have fine := FileStore.due_of_found found
    simp only [Readable, BothReadable, FileStore.reading_eq, present, fine, if_true, true_and]
  | keychain store =>
    obtain ⟨after, keychain, ran, -, left⟩ := KeychainStore.run_get store first machine
    have ran : (KeychainStore.perform (.get first) store).run Machine.quiet machine = _ := ran
    rw [call_keychain, ran] at found ⊢
    by_cases allowed : store.Allows machine.keychain .get first
    · exact ((left second differ).allows .get).trans (and_iff_right allowed).symm
    · simp [if_neg allowed] at found

/-! ## Changes to a session -/

def Resists (store : Store) (machine : Machine) : Prop :=
  match store with
  | .file path =>
    ∃ error, ((FileStore.attempt path (·.eraseMany [tokenKey, usernameKey])).run Machine.quiet
      machine).1 = .error error
  | .keychain store =>
    ¬store.Allows machine.keychain .delete tokenKey ∧
      ¬store.Allows machine.keychain .delete usernameKey
  | _ => False

/-- Whether a session is held after it has been handed over to be stored. A file has it if it has
been written, or if it had this session all along. -/
def Takes (store : Store) (machine : Machine) (token username : String) : Prop :=
  match store with
  | .file path =>
    ((FileStore.attempt path (·.insertMany [(tokenKey, token), (usernameKey, username)])).run
        Machine.quiet machine).1 = .ok () ∨
      ((FileStore.contents (FileStore.prepared path machine).files path).get? tokenKey =
          some token ∧
        (FileStore.contents (FileStore.prepared path machine).files path).get? usernameKey =
          some username)
  | .keychain store =>
    store.Retains machine.keychain (tokenKey, token) (usernameKey, username)
  | _ => True

def HoldsSession (store : Store) (machine : Machine) : Prop :=
  (store.held machine tokenKey).isSome = true ∧ (store.held machine usernameKey).isSome = true

theorem keys_differ : tokenKey ≠ usernameKey := by decide

theorem get?_cleared (table : Table String) :
    (table.eraseMany [tokenKey, usernameKey]).get? tokenKey = none := by
  simp [Table.eraseMany]

theorem get?_established (table : Table String) (token username : String) :
    (table.insertMany [(tokenKey, token), (usernameKey, username)]).get? tokenKey =
        some token ∧
      (table.insertMany [(tokenKey, token), (usernameKey, username)]).get? usernameKey =
        some username := by
  simp [Table.insertMany, keys_differ]

theorem holds_after_clearing (store : Store) (machine : Machine) :
    (call clearing store machine).1.2.HoldsSession (call clearing store machine).2 ↔
      store.HoldsSession machine ∧ store.Resists machine := by
  have cleared (table : Table String) :
      ¬(((table.eraseMany [tokenKey, usernameKey]).get? tokenKey).isSome = true) := by
    rw [get?_cleared]
    simp
  cases store with
  | memory table => exact ⟨fun holds => absurd holds.1 (cleared table), fun both => both.2.elim⟩
  | batching table => exact ⟨fun holds => absurd holds.1 (cleared table), fun both => both.2.elim⟩
  | plain table =>
    rw [call_plain]
    exact ⟨fun holds => absurd holds.1 (cleared table), fun both => both.2.elim⟩
  | file path =>
    have ran : (FileStore.perform path clearing).run Machine.quiet machine =
        ((), ((FileStore.attempt path (·.eraseMany [tokenKey, usernameKey])).run Machine.quiet
          machine).2) := by
      exact FileStore.run_update path [tokenKey, usernameKey] _ machine
    rw [call_file, ran]
    simp only [HoldsSession, held, Resists]
    cases result : ((FileStore.attempt path (·.eraseMany [tokenKey, usernameKey])).run
        Machine.quiet machine).1 with
    | ok _ =>
      rw [FileStore.contents_of_attempt result]
      refine ⟨fun holds => absurd holds.1 (cleared _), fun both => ?_⟩
      obtain ⟨error, failed⟩ := both.2
      cases failed
    | error error =>
      rw [FileStore.contents_of_failed_removal result]
      exact ⟨fun holds => ⟨holds, error, rfl⟩, And.left⟩
  | keychain store =>
    have distinct : [tokenKey, usernameKey].Nodup := by decide
    obtain ⟨after, keychain, ran, values, -⟩ :=
      KeychainStore.run_removeMany distinct store machine
    have token := values tokenKey (by simp)
    have username := values usernameKey (by simp)
    have ran : (KeychainStore.perform clearing store).run Machine.quiet machine =
        (((), after), KeychainStore.onKeychain machine keychain) := by
      simp only [clearing, KeychainStore.perform, Program.bind_eq, Program.run_bind, ran]
      rfl
    rw [call_keychain, ran]
    simp only [HoldsSession, held, KeychainStore.onKeychain, token, username, Resists]
    -- Both deletions are tried, and a session is left only if both fail.
    by_cases first : store.Allows machine.keychain .delete tokenKey
    · simp [first]
    · by_cases second : store.Allows machine.keychain .delete usernameKey
      · simp [second]
      · simp [first, second]

theorem holds_after_establishing (store : Store) (machine : Machine) (token username : String) :
    ((call (establishing token username) store machine).1.2.held
          (call (establishing token username) store machine).2 tokenKey = some token ∧
        (call (establishing token username) store machine).1.2.held
          (call (establishing token username) store machine).2 usernameKey = some username) ↔
      store.Takes machine token username := by
  cases store with
  | memory table => exact iff_of_true (get?_established table token username) trivial
  | batching table => exact iff_of_true (get?_established table token username) trivial
  | plain table =>
    rw [call_plain]
    exact iff_of_true (get?_established table token username) trivial
  | file path =>
    have ran : (FileStore.perform path (establishing token username)).run Machine.quiet machine =
        ((), ((FileStore.attempt path
          (·.insertMany [(tokenKey, token), (usernameKey, username)])).run Machine.quiet
            machine).2) := by
      exact FileStore.run_update path [tokenKey, usernameKey] _ machine
    rw [call_file, ran]
    simp only [held, Takes]
    cases result : ((FileStore.attempt path
        (·.insertMany [(tokenKey, token), (usernameKey, username)])).run Machine.quiet
          machine).1 with
    | ok _ =>
      rw [FileStore.contents_of_attempt result]
      exact iff_of_true (get?_established _ token username) (.inl rfl)
    | error error =>
      -- A table with a session is never written by removing the file, so the file is as it was.
      have full : (Table.insertMany (FileStore.reading path machine).1
          [(tokenKey, token), (usernameKey, username)]).isEmpty = false :=
        FileStore.isEmpty_insert _ usernameKey username
      rw [FileStore.contents_of_failed_attempt result, full]
      simp
  | keychain store =>
    have differ : ((tokenKey, token) : String × String).1 ≠ (usernameKey, username).1 := keys_differ
    obtain ⟨after, keychain, ran, retains⟩ :=
      KeychainStore.run_setMany_pair differ store machine
    have ran : (KeychainStore.perform (establishing token username) store).run Machine.quiet
        machine = (((), after), KeychainStore.onKeychain machine keychain) := by
      simp only [establishing, KeychainStore.perform, Program.bind_eq, Program.run_bind, ran]
      rfl
    rw [call_keychain, ran]
    exact retains

end Store

namespace Clients

/-! ## Asking -/

theorem callStore_eq (clients : Clients) (order : StoreCall) :
    (clients.callStore order).1 = (Store.call order clients.store clients.machine).1.1 ∧
      (clients.callStore order).2.store = (Store.call order clients.store clients.machine).1.2 ∧
      (clients.callStore order).2.machine =
        (Store.call order clients.store clients.machine).2 := by
  obtain ⟨answer, machine⟩ := Machine.run_quiet (clients.store.perform order) clients.machine []
  exact ⟨congrArg (·.1) answer, congrArg (·.2) answer, machine⟩

def held (clients : Clients) (key : String) : Option String :=
  clients.store.held clients.machine key

def Legible (clients : Clients) : Prop :=
  clients.store.BothReadable clients.machine tokenKey usernameKey

theorem held_after_get (clients : Clients) (key other : String) :
    (clients.callStore (.get key)).2.held other = clients.held other := by
  obtain ⟨-, store, machine⟩ := clients.callStore_eq (.get key)
  obtain ⟨-, -, same⟩ := Store.look_up clients.store clients.machine key
  rw [held, store, machine]
  exact same other

theorem get_of_readable {clients : Clients} {key : String}
    (readable : clients.store.Readable clients.machine key) :
    (clients.callStore (.get key)).1 = clients.held key := by
  obtain ⟨answer, -, -⟩ := clients.callStore_eq (.get key)
  rw [answer]
  exact (Store.look_up clients.store clients.machine key).1 readable

theorem get_eq_some {clients : Clients} {key value : String}
    (found : (clients.callStore (.get key)).1 = some value) :
    clients.held key = some value ∧ clients.store.Readable clients.machine key := by
  obtain ⟨answer, -, -⟩ := clients.callStore_eq (.get key)
  rw [answer] at found
  exact Store.look_up_eq_some.1 found

theorem isAuthenticated_iff (handle : Nat) (clients : Clients) :
    (advance handle isAuthenticated clients).1 = .ended true ↔
      clients.store.HoldsSession clients.machine ∧ clients.Legible := by
  rw [advance_isAuthenticated]
  cases found : (clients.callStore (.get tokenKey)).1 with
  | none =>
    simp only [found, Progress.ended.injEq, Bool.false_eq_true, false_iff, not_and]
    intro holds legible
    rw [get_of_readable legible.first] at found
    rw [Store.HoldsSession, ← held, found] at holds
    cases holds.1
  | some token =>
    obtain ⟨held, -⟩ := get_eq_some found
    obtain ⟨answer, store, machine⟩ := clients.callStore_eq (.get tokenKey)
    -- The second look-up meets what the first one has left over.
    have goesOn := Store.readable_after_look_up Store.keys_differ.symm (answer ▸ found)
    rw [← store, ← machine] at goesOn
    simp only [found, Progress.ended.injEq]
    constructor
    · intro username
      obtain ⟨name, found'⟩ := Option.isSome_iff_exists.1 username
      obtain ⟨held', readable⟩ := get_eq_some found'
      rw [held_after_get] at held'
      exact ⟨⟨Option.isSome_iff_exists.2 ⟨token, held⟩, Option.isSome_iff_exists.2 ⟨name, held'⟩⟩,
        goesOn.1 readable⟩
    · rintro ⟨holds, legible⟩
      rw [get_of_readable (goesOn.2 legible), held_after_get]
      exact holds.2

theorem authenticated_iff (clients : Clients) :
    (clients.act .askAuthenticated).1 = .flag true ↔
      clients.store.HoldsSession clients.machine ∧ clients.Legible := by
  rw [← isAuthenticated_iff clients.tasks.length]
  simp only [act, perform]
  split
  · next same => simp [same]
  · next otherwise same =>
    refine iff_of_false (by simp) fun ended => ?_
    exact otherwise true ((congrArg Prod.fst same).symm.trans ended)

end Clients

end PracticeClient
