import PracticeClient.Client.Session
import PracticeClient.Proofs.Storage.PlainMap
import PracticeClient.Proofs.Storage.Presence
import PracticeClient.Proofs.Storage.Requests

namespace PracticeClient

namespace Program

variable {Op : Type} {Answer : Op → Type} {α σ : Type}

theorem along_of_uses {kind : Op → Prop} {good better : Op → σ → Prop}
    {handle : Handler Op Answer σ} (implies : ∀ op state, kind op → good op state → better op state)
    {p : Program Op Answer α} (uses : p.Uses kind) {state : σ}
    (along : p.Along good handle state) : p.Along better handle state := by
  induction p generalizing state with
  | done value => trivial
  | step op next ih => exact ⟨implies op state uses.1 along.1, ih _ (uses.2 _) along.2⟩

end Program

namespace FileStore

open FileSystem

/-! ## Operations on one file -/

def Serves (path : Path) : SystemOp → Machine → Prop
  | .file op, machine => Concerns path op → op.Succeeded (FileOp.handle op machine.files).1
  | _, _ => True

instance (path : Path) : (op : SystemOp) → (machine : Machine) → Decidable (Serves path op machine)
  | .file op, machine => inferInstanceAs
      (Decidable (Concerns path op → op.Succeeded (FileOp.handle op machine.files).1))
  | .keychain _, _ => inferInstanceAs (Decidable True)
  | .log _, _ => inferInstanceAs (Decidable True)
  | .announce _, _ => inferInstanceAs (Decidable True)

theorem smooth_of_serves {path : Path} {call : StoreCall} {machine : Machine}
    (serves : (perform path call).Along (Serves path) Machine.quiet machine) :
    Machine.Smooth (perform path call) machine := by
  refine Program.along_of_uses ?_ (asks_perform call) serves
  intro op machine asks serves
  cases asks with
  | file concerns => exact serves concerns
  | log known => trivial

/-! ## Sessions -/

def sessionValues : Option (String × String) → Table String
  | none => .empty
  | some (token, username) =>
    (Table.empty.insert Session.tokenKey token).insert Session.usernameKey username

theorem get?_sessionValues (token username key : String) :
    (sessionValues (some (token, username))).get? key =
      if key = Session.usernameKey then some username
      else if key = Session.tokenKey then some token else none := by
  rw [sessionValues, Table.get?_insert, Table.get?_insert, Table.get?_empty]

theorem token_sessionValues (session : Option (String × String)) :
    (sessionValues session).get? Session.tokenKey = session.map Prod.fst := by
  cases session with
  | none => rfl
  | some held => exact get?_sessionValues held.1 held.2 Session.tokenKey

theorem username_sessionValues (session : Option (String × String)) :
    (sessionValues session).get? Session.usernameKey = session.map Prod.snd := by
  cases session with
  | none => rfl
  | some held => exact get?_sessionValues held.1 held.2 Session.usernameKey

theorem establishing_sessionValues (session : Option (String × String)) (token username : String) :
    (Store.onTable (Session.establishing token username) (sessionValues session)).2 =
      sessionValues (some (token, username)) := by
  apply Table.ext_get?
  intro key
  change (((sessionValues session).insert Session.tokenKey token).insert
    Session.usernameKey username).get? key = _
  rw [get?_sessionValues, Table.get?_insert, Table.get?_insert]
  cases session with
  | none => rfl
  | some held =>
    rw [get?_sessionValues]
    by_cases name : key = Session.usernameKey
    · rw [if_pos name, if_pos name]
    · rw [if_neg name, if_neg name, if_neg name]
      by_cases secret : key = Session.tokenKey
      · rw [if_pos secret, if_pos secret]
      · rw [if_neg secret, if_neg secret, if_neg secret]

theorem clearing_sessionValues (session : Option (String × String)) :
    (Store.onTable Session.clearing (sessionValues session)).2 = .empty := by
  apply Table.ext_get?
  intro key
  change ((sessionValues session).eraseMany [Session.tokenKey, Session.usernameKey]).get? key = _
  rw [Table.get?_eraseMany, Table.get?_empty]
  cases session with
  | none => simp [sessionValues]
  | some held =>
    rw [get?_sessionValues]
    by_cases name : key = Session.usernameKey <;> by_cases secret : key = Session.tokenKey <;>
      simp [name, secret]

theorem isEmpty_sessionValues (token username : String) :
    (sessionValues (some (token, username))).isEmpty = false := by
  have held := token_sessionValues (some (token, username))
  cases empty : (sessionValues (some (token, username))).isEmpty with
  | false => rfl
  | true =>
    rw [eq_empty_of_isEmpty empty] at held
    cases held

/-- A file that has a session, or is missing if there is none. -/
def KeepsSession (files : FileSystem) (path : Path) (session : Option (String × String)) : Prop :=
  Stands files path (session.map fun held => encode (sessionValues (some held)))

namespace KeepsSession

variable {path : Path} {session : Option (String × String)} {machine : Machine}

theorem contents (kept : KeepsSession machine.files path session) :
    contents machine.files path = sessionValues session := by
  rw [FileStore.contents, kept.now]
  cases session with
  | none => rfl
  | some held => simp only [Option.map_some, decode_encode]; rfl

theorem get (kept : KeepsSession machine.files path session) {key : String}
    (serves : (perform path (.get key)).Along (Serves path) Machine.quiet machine) :
    ((perform path (.get key)).run Machine.quiet machine).1 = (sessionValues session).get? key ∧
      KeepsSession ((perform path (.get key)).run Machine.quiet machine).2.files path session := by
  obtain ⟨answered, -⟩ := perform_of_smooth (smooth_of_serves serves)
  rw [kept.contents] at answered
  exact ⟨answered, Stands.look (looks_get path key) kept⟩

theorem establish (kept : KeepsSession machine.files path session) {token username : String}
    (serves : (perform path (Session.establishing token username)).Along (Serves path)
      Machine.quiet machine) :
    KeepsSession
      ((perform path (Session.establishing token username)).run Machine.quiet machine).2.files
      path (some (token, username)) := by
  obtain ⟨-, -, written⟩ := perform_of_smooth (smooth_of_serves serves)
  have written := written rfl
  rw [kept.contents, establishing_sessionValues, Written, isEmpty_sessionValues] at written
  exact .of_content written

theorem missing (kept : KeepsSession machine.files path none)
    (smooth : Machine.Smooth (readEntries path) machine) : machine.files.exists? path = false := by
  cases present : machine.files.exists? path with
  | false => rfl
  | true =>
    -- Something else than a file would make the look at it fail.
    unfold readEntries at smooth
    rw [Program.bind_eq, smooth_probe, present, if_pos rfl, Program.bind_eq,
      Machine.smooth_bind] at smooth
    have due := due_of_read smooth.1
    have answered := (Machine.smooth_file _ _).1 smooth.1
    rw [FileOp.handle_read, due] at answered
    have absent : machine.files.content? path = none := kept.now
    unfold content? at absent
    cases found : machine.files.read path with
    | error error =>
      rw [found] at answered
      cases answered
    | ok bytes =>
      rw [found] at absent
      cases absent

theorem clear_nothing (kept : KeepsSession machine.files path none)
    (serves : (perform path Session.clearing).Along (Serves path) Machine.quiet machine) :
    ((perform path Session.clearing).run Machine.quiet machine).2 = machine := by
  obtain ⟨-, smooth⟩ := smooth_of_serves serves
  change Machine.Smooth (update path _ _) machine at smooth
  change ((update path _ _).run Machine.quiet machine).2 = machine
  unfold update readForUpdate at smooth
  rw [Program.bind_eq, Machine.smooth_bind, Program.bind_eq, Machine.smooth_bind] at smooth
  have missing := kept.missing smooth.1.1
  have read : reading path machine = (.empty, machine) := by
    rw [reading_eq, kept.contents, missing]
    exact Prod.ext (ite_self _) rfl
  rw [run_update, run_attempt, read]
  dsimp only
  rw [eraseMany_empty]
  change ((removeFile path).run Machine.quiet machine).2 = machine
  rw [removeFile_eq, missing]
  rfl

theorem clear {directory : Path} {name : String} (ends : EndsWithName directory)
    (solid : Path.isDot name = false)
    (kept : KeepsSession machine.files (directory.child name) session)
    (serves : (perform (directory.child name) Session.clearing).Along
      (Serves (directory.child name)) Machine.quiet machine) :
    KeepsSession
      ((perform (directory.child name) Session.clearing).run Machine.quiet machine).2.files
      (directory.child name) none := by
  cases session with
  | none => rwa [kept.clear_nothing serves]
  | some held =>
    obtain ⟨-, -, written⟩ := perform_of_smooth (smooth_of_serves serves)
    have written := written rfl
    rw [kept.contents, clearing_sessionValues] at written
    have through : (perform (directory.child name) Session.clearing).Through
        (fun after => Confined (directory.child name) machine.files after.files) Machine.quiet
        machine := by
      refine Program.through_of_uses ?_ (uses_perform _ _) (.refl _ _)
      intro op after takes confined
      exact confined.trans (Confined.handle takes after)
    have room := (hasRoom_of_content kept.now).keeps (Program.through_end through).keeps
    have stands := room.stands ends solid
    rwa [content?_eq_none_of_missing written] at stands

end KeepsSession

end FileStore

end PracticeClient
