import PracticeClient.Proofs.Runs
import PracticeClient.Proofs.Storage.FileContents
import PracticeClient.Proofs.Storage.Secrets

namespace PracticeClient

/-! ## Success -/

def FileOp.Succeeded : (op : FileOp) → op.Answer → Prop
  | .probe _, _ => True
  | .read _, answer => answer.isOk = true
  | .write _ _, answer => answer.isOk = true
  | .createDirectories _, answer => answer.isOk = true
  | .rename _ _, answer => answer.isOk = true
  | .remove _, answer => answer.isOk = true
  | .touch _, answer => answer.isOk = true

/-- That there is no secret to get or to delete is no failure. -/
def KeychainOp.Succeeded (keychain : Keychain) : (op : KeychainOp) → op.Answer → Prop
  | .build _ _, answer => answer.isOk = true
  | .set _ _ _, answer => answer.isOk = true
  | .get service key, answer => answer.isOk = true ∨ keychain.get? service key = none
  | .delete service key, answer => answer.isOk = true ∨ keychain.get? service key = none

instance : (op : FileOp) → (answer : op.Answer) → Decidable (op.Succeeded answer)
  | .probe _, _ => inferInstanceAs (Decidable True)
  | .read _, answer => inferInstanceAs (Decidable (answer.isOk = true))
  | .write _ _, answer => inferInstanceAs (Decidable (answer.isOk = true))
  | .createDirectories _, answer => inferInstanceAs (Decidable (answer.isOk = true))
  | .rename _ _, answer => inferInstanceAs (Decidable (answer.isOk = true))
  | .remove _, answer => inferInstanceAs (Decidable (answer.isOk = true))
  | .touch _, answer => inferInstanceAs (Decidable (answer.isOk = true))

instance (keychain : Keychain) :
    (op : KeychainOp) → (answer : op.Answer) → Decidable (op.Succeeded keychain answer)
  | .build _ _, answer => inferInstanceAs (Decidable (answer.isOk = true))
  | .set _ _ _, answer => inferInstanceAs (Decidable (answer.isOk = true))
  | .get service key, answer =>
    inferInstanceAs (Decidable (answer.isOk = true ∨ keychain.get? service key = none))
  | .delete service key, answer =>
    inferInstanceAs (Decidable (answer.isOk = true ∨ keychain.get? service key = none))

namespace Machine

def Succeeds : SystemOp → Machine → Prop
  | .file op, machine => op.Succeeded (FileOp.handle op machine.files).1
  | .keychain op, machine =>
    op.Succeeded machine.keychain (Keychain.handle op machine.keychain).1
  | .log _, _ => True
  | .announce _, _ => True

instance : (op : SystemOp) → (machine : Machine) → Decidable (Succeeds op machine)
  | .file op, machine =>
    inferInstanceAs (Decidable (op.Succeeded (FileOp.handle op machine.files).1))
  | .keychain op, machine =>
    inferInstanceAs
      (Decidable (op.Succeeded machine.keychain (Keychain.handle op machine.keychain).1))
  | .log _, _ => inferInstanceAs (Decidable True)
  | .announce _, _ => inferInstanceAs (Decidable True)

def Smooth {α : Type} (program : System α) (machine : Machine) : Prop :=
  program.Along Succeeds quiet machine

theorem smooth_bind {α β : Type} (program : System α) (rest : α → System β) (machine : Machine) :
    Smooth (program.bind rest) machine ↔ Smooth program machine ∧
      Smooth (rest (program.run quiet machine).1) (program.run quiet machine).2 :=
  Program.along_bind program rest machine

theorem smooth_file (op : FileOp) (machine : Machine) :
    Smooth (System.file op) machine ↔ op.Succeeded (FileOp.handle op machine.files).1 :=
  Program.along_ask (SystemOp.file op) machine

theorem smooth_keychain (op : KeychainOp) (machine : Machine) :
    Smooth (System.keychain op) machine ↔
      op.Succeeded machine.keychain (Keychain.handle op machine.keychain).1 :=
  Program.along_ask (SystemOp.keychain op) machine

theorem run_file (op : FileOp) (machine : Machine) :
    (System.file op).run quiet machine = ((FileOp.handle op machine.files).1,
      { machine with files := (FileOp.handle op machine.files).2 }) := rfl

end Machine

open Machine

/-! ## Files -/

namespace FileStore

open FileSystem

theorem due_of_read {path : Path} {machine : Machine}
    (smooth : Smooth (System.file (.read path)) machine) : machine.files.due = none := by
  have answered : (FileOp.handle (.read path) machine.files).1.isOk = true := smooth.1
  rw [FileOp.handle_read] at answered
  cases due : machine.files.due with
  | none => rfl
  | some mishap =>
    rw [due] at answered
    cases answered

theorem smooth_probe {α : Type} (path : Path) (present absent : System α) (machine : Machine) :
    Smooth ((System.file (.probe path)).bind fun there => if there then present else absent)
        machine ↔
      if machine.files.exists? path then Smooth present machine else Smooth absent machine := by
  rw [smooth_bind]
  refine (and_iff_right ((smooth_file (.probe path) machine).2 trivial)).trans ?_
  show Smooth (if machine.files.exists? path then present else absent) machine ↔ _
  by_cases there : machine.files.exists? path = true
  · rw [if_pos there, if_pos there]
  · rw [if_neg there, if_neg there]

theorem reading_of_smooth {path : Path} {machine : Machine}
    (smooth : Smooth (readEntries path) machine) :
    (reading path machine).1 = contents machine.files path := by
  rw [reading_eq]
  unfold readEntries at smooth
  rw [Program.bind_eq, smooth_probe] at smooth
  cases present : machine.files.exists? path with
  | false => simp only [contents, content?_eq_none_of_missing present, ite_self]
  | true =>
    rw [present, if_pos rfl, Program.bind_eq, smooth_bind] at smooth
    simp only [due_of_read smooth.1, Option.isNone_none, if_true]

theorem ok_of_isOk {ε : Type} {result : Except ε Unit} (good : result.isOk = true) :
    result = .ok () := by
  cases result with
  | error error => cases good
  | ok _ => rfl

theorem removeFile_of_smooth {path : Path} {machine : Machine}
    (smooth : Smooth (removeFile path) machine) :
    ((removeFile path).run quiet machine).1 = .ok () := by
  unfold removeFile at smooth ⊢
  rw [Program.bind_eq, smooth_probe] at smooth
  rw [Program.bind_eq, run_probe]
  cases present : machine.files.exists? path with
  | false => rfl
  | true =>
    rw [present, if_pos rfl, smooth_file] at smooth
    exact ok_of_isOk smooth

theorem createParent_of_smooth {path : Path} {machine : Machine}
    (smooth : Smooth (createParent path) machine) :
    ((createParent path).run quiet machine).1 = .ok () := by
  unfold createParent at smooth ⊢
  cases above : path.parent? with
  | none => rfl
  | some parent =>
    rw [above] at smooth
    exact ok_of_isOk smooth.1

theorem replaceFile_of_smooth {path : Path} {content : Bytes} {machine : Machine}
    (smooth : Smooth (replaceFile path content) machine) :
    ((replaceFile path content).run quiet machine).1 = .ok () := by
  unfold replaceFile at smooth ⊢
  rw [Program.bind_eq, smooth_bind] at smooth
  rw [Program.bind_eq, Program.run_bind]
  obtain ⟨smooth, rest⟩ := smooth
  have made := createParent_of_smooth smooth
  rw [made] at rest ⊢
  rw [Program.bind_eq, smooth_bind, smooth_file, run_file] at rest
  rw [Program.bind_eq, Program.run_bind, run_file]
  obtain ⟨written, moved⟩ := rest
  have written := ok_of_isOk written
  rw [written] at moved ⊢
  exact ok_of_isOk moved.1

theorem writeEntries_of_smooth {path : Path} {table : Table String} {machine : Machine}
    (smooth : Smooth (writeEntries path table) machine) :
    ((writeEntries path table).run quiet machine).1 = .ok () := by
  unfold writeEntries at smooth ⊢
  split at smooth
  · next empty =>
    rw [if_pos empty]
    exact removeFile_of_smooth smooth
  · next some =>
    rw [if_neg some]
    exact replaceFile_of_smooth smooth

theorem attempt_of_smooth {path : Path} {keys : List String}
    {change : Table String → Table String} {machine : Machine}
    (smooth : Smooth (update path keys change) machine) :
    (reading path machine).1 = contents machine.files path ∧
      ((attempt path change).run quiet machine).1 = .ok () := by
  unfold update readForUpdate at smooth
  rw [Program.bind_eq, smooth_bind, Program.bind_eq, smooth_bind] at smooth
  obtain ⟨⟨read, -⟩, written⟩ := smooth
  have ran := run_readForUpdate path machine
  unfold readForUpdate at ran
  rw [Program.bind_eq] at ran
  rw [ran, Program.bind_eq, smooth_bind] at written
  refine ⟨reading_of_smooth read, ?_⟩
  rw [run_attempt]
  exact writeEntries_of_smooth written.1

end FileStore

/-! ## Keychains -/

namespace KeychainStore

theorem due_of_smooth {op : KeychainOp} {machine : Machine}
    (smooth : Smooth (System.keychain op) machine) :
    machine.keychain.due op.action op.key = false ∨
      ((op.action = .get ∨ op.action = .delete) ∧
        machine.keychain.get? op.service op.key = none) := by
  have succeeded := (smooth_keychain op machine).1 smooth
  cases due : machine.keychain.due op.action op.key with
  | false => exact .inl rfl
  | true =>
    obtain ⟨error, met⟩ := Keychain.handle_of_due due
    rw [met] at succeeded
    cases op with
    | build service key => cases succeeded
    | set service key value => cases succeeded
    | get service key =>
      rcases succeeded with succeeded | missing
      · cases succeeded
      · exact .inr ⟨.inl rfl, missing⟩
    | delete service key =>
      rcases succeeded with succeeded | missing
      · cases succeeded
      · exact .inr ⟨.inr rfl, missing⟩

theorem opens_of_smooth {store : KeychainStore} {key : String} {machine : Machine}
    (smooth : Smooth (store.open? key) machine) : store.Opens machine.keychain key := by
  by_cases held : key ∈ store.handles
  · exact .inl held
  · unfold open? at smooth
    rw [if_neg held, Program.bind_eq, smooth_bind] at smooth
    rcases due_of_smooth smooth.1 with fine | ⟨action, -⟩
    · exact .inr fine
    · simp [KeychainOp.action] at action

theorem smooth_opened {α : Type} {store : KeychainStore} {key : String} {machine : Machine}
    {rest : Except KeychainError KeychainStore → System α}
    (smooth : Smooth ((store.open? key).bind rest) machine) :
    store.Opens machine.keychain key ∧ Smooth (rest (.ok (store.opened key))) machine := by
  rw [smooth_bind] at smooth
  obtain ⟨opened, later⟩ := smooth
  have opens := opens_of_smooth opened
  rw [run_open_of_opens store key machine opens] at later
  exact ⟨opens, later⟩

theorem held_of_missing {store : KeychainStore} {keychain : Keychain} {key : String}
    (missing : keychain.get? store.service key = none) : store.held keychain key = none := by
  rw [held, missing]
  rfl

theorem get_of_smooth {store : KeychainStore} {key : String} {machine : Machine}
    (smooth : Smooth (store.get key) machine) : ∃ after keychain,
    (store.get key).run quiet machine =
        ((store.held machine.keychain key, after), onKeychain machine keychain) ∧
      ∀ other, after.held keychain other = store.held machine.keychain other := by
  obtain ⟨after, keychain, ran, values, -⟩ := run_get store key machine
  refine ⟨after, keychain, ?_, values⟩
  rw [ran]
  unfold get at smooth
  obtain ⟨opens, rest⟩ := smooth_opened smooth
  simp only [Program.bind_eq, smooth_bind] at rest
  rcases due_of_smooth rest.1 with fine | ⟨-, missing⟩
  · rw [if_pos ⟨opens, fine⟩]
  · rw [held_of_missing ((service_opened store key) ▸ missing), ite_self]

theorem remove_of_smooth {store : KeychainStore} {key : String} {machine : Machine}
    (smooth : Smooth (store.remove key) machine) : ∃ after keychain,
    (store.remove key).run quiet machine = (after, onKeychain machine keychain) ∧
      after.held keychain key = none ∧
      ∀ other, other ≠ key → after.held keychain other = store.held machine.keychain other := by
  obtain ⟨after, keychain, ran, gone, left⟩ := run_remove store key machine
  refine ⟨after, keychain, ran, ?_, fun other differ => (left other differ).held⟩
  rw [gone]
  unfold remove at smooth
  obtain ⟨opens, rest⟩ := smooth_opened smooth
  simp only [Program.bind_eq, smooth_bind] at rest
  rcases due_of_smooth rest.1 with fine | ⟨-, missing⟩
  · rw [if_pos ⟨opens, fine⟩]
  · rw [held_of_missing ((service_opened store key) ▸ missing), ite_self]

theorem trySet_of_smooth {store : KeychainStore} {key value : String} {machine : Machine}
    (smooth : Smooth (store.trySet key value) machine) : ∃ after keychain,
    (store.trySet key value).run quiet machine = ((.ok (), after), onKeychain machine keychain) ∧
      after.held keychain key = some value ∧
      ∀ other, other ≠ key → after.held keychain other = store.held machine.keychain other := by
  unfold trySet at smooth
  obtain ⟨opens, rest⟩ := smooth_opened smooth
  simp only [Program.bind_eq, smooth_bind] at rest
  have allowed : store.Allows machine.keychain .set key := by
    rcases due_of_smooth rest.1 with fine | ⟨action, -⟩
    · exact ⟨opens, fine⟩
    · simp [KeychainOp.action] at action
  obtain ⟨result, after, keychain, ran, accepted, -, left⟩ := run_trySet store key machine value
  obtain ⟨rfl, held, -⟩ := accepted allowed
  exact ⟨after, keychain, ran, held, fun other differ => (left other differ).held⟩

theorem set_of_smooth {store : KeychainStore} {key value : String} {machine : Machine}
    (smooth : Smooth (store.set key value) machine) : ∃ after keychain,
    (store.set key value).run quiet machine = (after, onKeychain machine keychain) ∧
      after.held keychain key = some value ∧
      ∀ other, other ≠ key → after.held keychain other = store.held machine.keychain other := by
  unfold set at smooth ⊢
  rw [Program.bind_eq, smooth_bind] at smooth
  obtain ⟨after, keychain, tried, held, left⟩ := trySet_of_smooth smooth.1
  refine ⟨after, keychain, ?_, held, left⟩
  rw [Program.bind_eq, Program.run_bind, tried]
  rfl

theorem removeMany_of_smooth {keys : List String} {store : KeychainStore} {machine : Machine}
    (smooth : Smooth (removeMany keys store) machine) : ∃ after keychain,
    (removeMany keys store).run quiet machine = (after, onKeychain machine keychain) ∧
      ∀ key, after.held keychain key =
        if key ∈ keys then none else store.held machine.keychain key := by
  induction keys generalizing store machine with
  | nil => exact ⟨store, machine.keychain, rfl, by simp⟩
  | cons key rest ih =>
    rw [removeMany, Program.bind_eq, smooth_bind] at smooth
    obtain ⟨first, later⟩ := smooth
    obtain ⟨between, keychain', removed, gone, left⟩ := remove_of_smooth first
    rw [removed] at later
    obtain ⟨after, keychain, ran, values⟩ := ih later
    refine ⟨after, keychain, ?_, ?_⟩
    · rw [removeMany, Program.bind_eq, Program.run_bind, removed]
      exact ran
    · intro other
      rw [values]
      by_cases here : other = key
      · subst here
        simp [onKeychain, gone]
      · simp [onKeychain, left other here, here]

theorem setAfter_of_smooth {written : List String} {entries : List (String × String)}
    {store : KeychainStore} {machine : Machine}
    (smooth : Smooth (setAfter written entries store) machine) : ∃ after keychain,
    (setAfter written entries store).run quiet machine = (after, onKeychain machine keychain) ∧
      ∀ key, after.held keychain key =
        (entries.reverse.lookup key).or (store.held machine.keychain key) := by
  induction entries generalizing written store machine with
  | nil => exact ⟨store, machine.keychain, rfl, fun _ => rfl⟩
  | cons entry rest ih =>
    rw [setAfter, Program.bind_eq, smooth_bind] at smooth
    obtain ⟨first, later⟩ := smooth
    obtain ⟨between, keychain', tried, held, left⟩ := trySet_of_smooth first
    rw [tried] at later
    obtain ⟨after, keychain, ran, values⟩ := ih later
    refine ⟨after, keychain, ?_, ?_⟩
    · rw [setAfter, Program.bind_eq, Program.run_bind, tried]
      exact ran
    · intro other
      rw [values, List.reverse_cons, List.lookup_append, Option.or_assoc, List.lookup_cons]
      by_cases here : other = entry.1
      · subst here
        simp [onKeychain, held]
      · simp [onKeychain, left other here, beq_eq_false_iff_ne.2 here]

end KeychainStore

end PracticeClient
