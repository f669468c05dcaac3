import Mathlib.Logic.Function.Basic
import PracticeClient.Proofs.Storage.Interruption
import PracticeClient.Proofs.Storage.Orders

/-!
# A file that processes share

Processes that keep their session in one file take turns at its operations, and nothing stops one of
them from going on with what another has changed in the meantime. They even write the same file
aside. Still, each of them only moves a file into place after having written one, and whatever
is written holds a whole session or none.
-/

namespace PracticeClient

open Session FileSystem FileStore

/-! ## Processes -/

structure Crowd where
  world : Machine × List SystemEvent
  work : Nat → System (Option Unit × Store)

namespace Crowd

inductive Move where
  /-- A process turns to an order, whatever it has been doing. -/
  | turn (process : Nat) (order : Order)
  | step (process : Nat) (trouble : Option FileError)
  deriving DecidableEq, Repr

def beset (trouble : Option FileError) (machine : Machine) : Machine :=
  let mishap := trouble.map fun error => ⟨error, none⟩
  { machine with files := { machine.files with mishaps := [mishap] } }

/-- An operation is carried out as a whole or not at all. A probe in trouble finds nothing. -/
def answer (trouble : Option FileError) (op : SystemOp) (world : Machine × List SystemEvent) :
    op.Answer × Machine × List SystemEvent :=
  match op, trouble with
  | .file (.probe _), some _ => (false, world)
  | op, trouble => Machine.handle op (beset trouble world.1, world.2)

def advance {α : Type} (trouble : Option FileError) :
    System α → Machine × List SystemEvent → System α × Machine × List SystemEvent
  | .done result, world => (.done result, world)
  | .step op next, world =>
    let (answer, world) := answer trouble op world
    (next answer, world)

def move (path : Path) : Move → Crowd → Crowd
  | .turn process order, crowd =>
    { crowd with work := Function.update crowd.work process (order.program (.file path)) }
  | .step process trouble, crowd =>
    let (rest, world) := advance trouble (crowd.work process) crowd.world
    ⟨world, Function.update crowd.work process rest⟩

def follow (path : Path) : List Move → Crowd → Crowd
  | [], crowd => crowd
  | move :: rest, crowd => follow path rest (crowd.move path move)

def opening (path : Path) (machine : Machine) : Crowd :=
  ⟨(machine, []), fun _ => .done (none, .file path)⟩

def files (crowd : Crowd) : FileSystem := crowd.world.1.files

end Crowd

/-! ## Sessions -/

def Order.sessions : Order → List (String × String)
  | .establish token username => [(token, username)]
  | _ => []

def Crowd.Move.sessions : Move → List (String × String)
  | .turn _ order => order.sessions
  | .step _ _ => []

def OfOneSession (sessions : List (String × String)) (map : PlainMap) : Prop :=
  (map tokenKey = none ∧ map usernameKey = none) ∨
    ∃ session ∈ sessions, map tokenKey = some session.1 ∧ map usernameKey = some session.2

theorem OfOneSession.mono {sessions more : List (String × String)} {map : PlainMap}
    (one : OfOneSession sessions map) (subset : sessions ⊆ more) : OfOneSession more map := by
  apply one.imp_right
  rintro ⟨session, member, parts⟩
  exact ⟨session, subset member, parts⟩

theorem ofOneSession_establishing (token username : String) (table : Table String) :
    OfOneSession [(token, username)]
      (Store.onTable (establishing token username) table).2.get? := by
  rw [(onTable_plain (establishing token username) table).2]
  right
  refine ⟨(token, username), List.mem_singleton_self _, ?_, ?_⟩
  · simp [establishing, PlainMap.after, List.lookup_cons, tokenKey, usernameKey]
  · simp [establishing, PlainMap.after]

theorem ofOneSession_clearing (sessions : List (String × String)) (table : Table String) :
    OfOneSession sessions (Store.onTable clearing table).2.get? := by
  rw [(onTable_plain clearing table).2]
  left
  simp [clearing, PlainMap.after]

namespace FileStore

def Spells (sessions : List (String × String)) (content : Bytes) : Prop :=
  OfOneSession sessions ((decode content).toOption.getD .empty).get?

theorem spells_encode {sessions : List (String × String)} {table : Table String}
    (one : OfOneSession sessions table.get?) : Spells sessions (encode table) := by
  rw [Spells, decode_encode]
  exact one

/-! ## Orders -/

def Stores (good : Bytes → Prop) : Effect → Prop
  | .store (.get _) => True
  | .store call => ∀ table, good (encode (Store.onTable call table).2)
  | _ => True

theorem obeys_over {α : Type} {path : Path} {good : Bytes → Prop} {client : Client α}
    (stores : client.Uses (Stores good)) (wrote : Bool) :
    Obeys path good (fun _ _ => True) wrote (client.over (.file path)) := by
  induction client generalizing wrote with
  | done result => trivial
  | step effect next ih =>
    obtain ⟨fine, later⟩ := stores
    cases effect with
    | store call =>
      have called : Obeys path good (fun result _ => result.2 = .file path) wrote
          ((Store.file path).perform call) := by
        have performed : Obeys path good (fun _ _ => True) wrote (FileStore.perform path call) := by
          cases call with
          | get key =>
            exact Program.obeys_mono (fun _ _ => id) (fun _ _ _ => trivial)
              (obeys_of_looks (looks_get path key))
          | _ => exact obeys_perform fine
        exact Program.obeys_bind performed fun _ _ _ => rfl
      apply Program.obeys_bind called
      rintro ⟨answer, store⟩ after rfl
      exact ih answer (later answer) after
    | log entry => exact ⟨⟨trivial, trivial⟩, fun _ => ih () (later ()) wrote⟩
    | notify notification => exact ih () (later ()) wrote
    | complete => exact ih () (later ()) wrote
    | post endpoint body => trivial
    | abort => trivial

theorem order_obeys (path : Path) (order : Order) :
    Obeys path (Spells order.sessions) (fun _ _ => True) false (order.program (.file path)) := by
  refine obeys_over ?_ false
  cases order with
  | establish token username =>
    refine ⟨?_, fun _ => ⟨trivial, fun _ => trivial⟩⟩
    intro table
    exact spells_encode (ofOneSession_establishing token username table)
  | clear =>
    refine ⟨?_, fun _ => ⟨trivial, fun _ => trivial⟩⟩
    intro table
    exact spells_encode (ofOneSession_clearing [] table)
  | askAuthenticated =>
    refine ⟨trivial, ?_⟩
    intro token
    cases token with
    | none => trivial
    | some token => exact ⟨trivial, fun _ => trivial⟩
  | askUsername => exact ⟨trivial, fun _ => trivial⟩

theorem obeys_more {α : Type} {path : Path} {sessions more : List (String × String)}
    {ends : α → Bool → Prop} {wrote : Bool} {program : System α} (subset : sessions ⊆ more)
    (obeys : Obeys path (Spells sessions) ends wrote program) :
    Obeys path (Spells more) ends wrote program := by
  refine Program.obeys_mono ?_ (fun _ _ => id) obeys
  rintro wrote op ⟨takes, good⟩
  refine ⟨takes, ?_⟩
  split at good
  · exact good.mono subset
  · exact good
  · trivial

/-! ## Operations -/

def Untouched (path : Path) (initial files : FileSystem) : Prop :=
  ".." ∈ path.pieces ∧ ¬HasRoom initial path ∧
    ∀ parent, path.parent? = some parent → Sprouts parent initial files

structure Kept (path : Path) (initial : FileSystem) (sessions : List (String × String))
    (files : FileSystem) : Prop where
  early : Steady files path ∨ Untouched path initial files
  contents : OfOneSession sessions (contents files path).get? ∨ ComesIntoView path initial files

def Ready (path : Path) (sessions : List (String × String)) (files : FileSystem) : Prop :=
  ∃ place, IsAside files path place ∧
    ∀ content, files.node? place = some (.file content) → Spells sessions content

section

variable {path : Path} {initial : FileSystem} {sessions : List (String × String)}
  {files after : FileSystem}

theorem ready_of_write {content : Bytes} (spells : Spells sessions content)
    (written : files.write (asidePath path) content = .ok after) : Ready path sessions after := by
  have keeps := (write_alters written).keeps
  obtain ⟨directory, name, names, free, rfl⟩ := write_eq_ok written
  have aside : IsAside files path (directory ++ [name]) := ⟨directory, name, names, rfl⟩
  refine ⟨_, aside.keeps keeps, ?_⟩
  intro other node
  rw [node?_set aside.inner, if_pos rfl] at node
  cases node
  exact spells

theorem Ready.hasRoom (ready : Ready path sessions files) : HasRoom files path := by
  obtain ⟨place, aside, -⟩ := ready
  exact aside.hasRoom

theorem Ready.rename (ready : Ready path sessions files)
    (renamed : files.rename (asidePath path) path = .ok after) : Ready path sessions after := by
  have keeps := (rename_alters renamed).keeps
  obtain ⟨place, aside, spells⟩ := ready
  obtain ⟨directory, name, directory', name', content, names, -, -, -, rfl⟩ := rename_eq_ok renamed
  obtain rfl := aside.unique names
  refine ⟨_, aside.keeps keeps, ?_⟩
  intro other node
  split at node
  · exact spells other node
  · -- What has been moved is no longer aside.
    next differs =>
    rw [node?_set (by simp), if_neg differs, node?_clear aside.inner, if_pos rfl] at node
    cases node

theorem Ready.remove (ready : Ready path sessions files) (removed : files.remove path = .ok after) :
    Ready path sessions after := by
  have keeps := (remove_alters removed).keeps
  obtain ⟨place, aside, spells⟩ := ready
  obtain ⟨directory, name, content, -, -, rfl⟩ := remove_eq_ok removed
  refine ⟨place, aside.keeps keeps, ?_⟩
  intro other node
  rw [node?_clear (by simp)] at node
  split at node
  · cases node
  · exact spells other node

theorem Ready.perform {wrote : Bool} {op : FileOp} (ready : Ready path sessions files)
    (allows : Allows path (Spells sessions) wrote (.file op)) :
    Ready path sessions (FileOp.perform op files).2 := by
  obtain ⟨takes, good⟩ := allows
  cases op with
  | probe probed => exact ready
  | read found => exact ready
  | write written content =>
    obtain rfl : written = asidePath path := takes
    apply FileOp.settle_induction (motive := Ready _ sessions) ready
    intro after done
    exact ready_of_write good done
  | createDirectories made =>
    have same := ready.hasRoom.createDirectories takes
    simp only [FileOp.perform, same]
    exact ready
  | rename source destination =>
    obtain ⟨rfl, rfl⟩ := takes
    apply FileOp.settle_induction (motive := Ready _ sessions) ready
    intro after done
    exact ready.rename done
  | remove removed =>
    obtain rfl : removed = path := takes
    apply FileOp.settle_induction (motive := Ready _ sessions) ready
    intro after done
    exact ready.remove done
  | touch touched => exact takes.elim

theorem contents_of_rename (ready : Ready path sessions files)
    (renamed : files.rename (asidePath path) path = .ok after) :
    OfOneSession sessions (contents after path).get? := by
  obtain ⟨place, aside, spells⟩ := ready
  obtain ⟨directory, name, -, -, content, names, -, node, -, -⟩ := rename_eq_ok renamed
  obtain rfl := aside.unique names
  have there := content?_eq_some.2 (read_of_rename renamed (names.read.2 node))
  rw [contents, there]
  exact spells content node

theorem ofOneSession_of_missing (missing : files.content? path = none) :
    OfOneSession sessions (contents files path).get? := by
  rw [contents, missing]
  exact .inl ⟨rfl, rfl⟩

theorem Kept.congr (kept : Kept path initial sessions files)
    (same : after.content? path = files.content? path) :
    OfOneSession sessions (FileStore.contents after path).get? ∨
      ComesIntoView path initial after := by
  rcases kept.contents with one | comes
  · exact .inl (contents_congr same ▸ one)
  · exact .inr (comes.congr same)

theorem Kept.perform_of_steady {wrote : Bool} {op : FileOp} (steady : Steady files path)
    (kept : Kept path initial sessions files)
    (allows : Allows path (Spells sessions) wrote (.file op))
    (ready : wrote = true → Ready path sessions files) :
    Kept path initial sessions (FileOp.perform op files).2 := by
  refine ⟨.inl ((Confined.perform allows.1 files).steady steady), ?_⟩
  let holds (after : FileSystem) :=
    OfOneSession sessions (FileStore.contents after path).get? ∨ ComesIntoView path initial after
  have start : holds files := kept.contents
  obtain ⟨takes, good⟩ := allows
  cases op with
  | probe probed => exact start
  | read found => exact start
  | write written content =>
    obtain rfl : written = asidePath path := takes
    apply FileOp.settle_induction (motive := holds) start
    intro after done
    apply kept.congr
    exact content?_congr (Apart.read_of_write (aside_apart path) done)
  | createDirectories made => exact kept.congr (steady.createDirectories takes)
  | rename source destination =>
    obtain ⟨rfl, rfl⟩ := takes
    apply FileOp.settle_induction (motive := holds) start
    intro after done
    exact .inl (contents_of_rename (ready good) done)
  | remove removed =>
    obtain rfl : removed = path := takes
    apply FileOp.settle_induction (motive := holds) start
    intro after done
    exact .inl (ofOneSession_of_missing (content?_eq_none_of_missing (exists?_of_remove done)))
  | touch touched => exact takes.elim

theorem perform_of_crowded {op : FileOp} (crowded : ¬HasRoom files path)
    (takes : Takes path (.file op)) :
    (FileOp.perform op files).2 = files ∨
      ∃ parent, path.parent? = some parent ∧
        (FileOp.perform op files).2 = (files.createDirectories parent).2 := by
  cases op with
  | probe probed => exact .inl rfl
  | read found => exact .inl rfl
  | write written content =>
    obtain rfl : written = asidePath path := takes
    left
    apply FileOp.settle_induction (motive := (· = files)) rfl
    intro after done
    obtain ⟨directory, name, names, -⟩ := write_eq_ok done
    exact absurd (hasRoom_of_names names) crowded
  | createDirectories made => exact .inr ⟨made, takes, rfl⟩
  | rename source destination =>
    obtain ⟨rfl, rfl⟩ := takes
    left
    apply FileOp.settle_induction (motive := (· = files)) rfl
    intro after done
    obtain ⟨directory, name, -, -, -, names, -⟩ := rename_eq_ok done
    exact absurd (hasRoom_of_names names) crowded
  | remove removed =>
    obtain rfl : removed = path := takes
    left
    apply FileOp.settle_induction (motive := (· = files)) rfl
    intro after done
    obtain ⟨directory, name, content, names, node, -⟩ := remove_eq_ok done
    have located : files.locate removed = .ok (directory ++ [name]) := by
      rw [names.locate, node]
      rfl
    have read := read_eq_ok.2 ⟨directory ++ [name], located, node⟩
    exact absurd (hasRoom_of_content (content?_eq_some.2 read)) crowded
  | touch touched => exact takes.elim

theorem Kept.perform {wrote : Bool} {op : FileOp} (kept : Kept path initial sessions files)
    (allows : Allows path (Spells sessions) wrote (.file op))
    (ready : wrote = true → Ready path sessions files) :
    Kept path initial sessions (FileOp.perform op files).2 := by
  by_cases steady : Steady files path
  · exact kept.perform_of_steady steady allows ready
  have untouched := kept.early.resolve_left steady
  obtain ⟨up, crowded, sprouts⟩ := untouched
  rcases perform_of_crowded (not_or.1 steady).2 allows.1 with same | ⟨parent, above, made⟩
  · rw [same]
    exact kept
  · rw [made]
    have further := createDirectories_sprouts files parent
    refine ⟨.inr ⟨up, crowded, ?_⟩, ?_⟩
    · intro parent' above'
      obtain rfl : parent = parent' := Option.some.inj (above.symm.trans above')
      exact (sprouts parent above).trans further
    · cases there : (files.createDirectories parent).2.content? path with
      | none => exact .inl (ofOneSession_of_missing there)
      | some content =>
        have whole := (sprouts parent above).trans further
        exact .inr (comesIntoView_of_sprouts up crowded above whole there)

theorem ready_of_hasWritten {wrote : Bool} {op : FileOp}
    (allows : Allows path (Spells sessions) wrote (.file op))
    (ready : wrote = true → Ready path sessions files)
    (has : hasWritten (.file op) (FileOp.perform op files).1 wrote = true) :
    Ready path sessions (FileOp.perform op files).2 := by
  cases op with
  | write written content =>
    obtain rfl : written = asidePath path := allows.1
    rcases FileOp.settle_cases files (files.write (asidePath path) content) with
      ⟨after, done, settled⟩ | ⟨error, -, settled⟩
    · simp only [FileOp.perform, settled]
      exact ready_of_write allows.2 done
    · simp only [FileOp.perform, settled] at has ⊢
      exact ready has
  | _ => exact (ready has).perform allows

theorem Kept.mishaps (kept : Kept path initial sessions files)
    (mishaps : List (Option Mishap)) : Kept path initial sessions { files with mishaps } := by
  refine ⟨?_, kept.congr (content?_mishaps files mishaps path)⟩
  rcases kept.early with steady | ⟨up, crowded, sprouts⟩
  · exact .inl ((Confined.mishaps path files mishaps).steady steady)
  · have same : ∀ parent, Sprouts parent files { files with mishaps } :=
      fun parent => ⟨rfl, fun _ => .inl rfl⟩
    exact .inr ⟨up, crowded, fun parent above => (sprouts parent above).trans (same parent)⟩

theorem Ready.mishaps (ready : Ready path sessions files) (mishaps : List (Option Mishap)) :
    Ready path sessions { files with mishaps } := by
  obtain ⟨place, aside, spells⟩ := ready
  exact ⟨place, aside.keeps (keeps_mishaps files mishaps), spells⟩

end

end FileStore

namespace Crowd

variable {path : Path} {initial : FileSystem} {sessions : List (String × String)}

/-! ## Steps -/

theorem answer_file (trouble : Option FileError) (op : FileOp) (machine : Machine)
    (events : List SystemEvent) :
    ∃ mishaps, let calm : FileSystem := { machine.files with mishaps }
      ((answer trouble (.file op) (machine, events)).1 = (FileOp.perform op calm).1 ∧
        (answer trouble (.file op) (machine, events)).2.1.files = (FileOp.perform op calm).2) ∨
      ((answer trouble (.file op) (machine, events)).2.1.files = calm ∧ ∀ wrote,
        hasWritten (.file op) (answer trouble (.file op) (machine, events)).1 wrote = wrote) := by
  cases trouble with
  | none =>
    refine ⟨if op.isProbe then [none] else [], .inl ?_⟩
    cases op <;> exact ⟨rfl, rfl⟩
  | some error =>
    cases op with
    | probe path => exact ⟨machine.files.mishaps, .inr ⟨rfl, fun _ => rfl⟩⟩
    | _ => exact ⟨[], .inr ⟨rfl, fun _ => rfl⟩⟩

theorem answer_safe {wrote : Bool} {op : SystemOp} {world : Machine × List SystemEvent}
    (allows : Allows path (Spells sessions) wrote op)
    (kept : Kept path initial sessions world.1.files)
    (ready : wrote = true → Ready path sessions world.1.files) (trouble : Option FileError) :
    Kept path initial sessions (answer trouble op world).2.1.files ∧
      (Ready path sessions world.1.files →
        Ready path sessions (answer trouble op world).2.1.files) ∧
      (hasWritten op (answer trouble op world).1 wrote = true →
        Ready path sessions (answer trouble op world).2.1.files) := by
  obtain ⟨machine, events⟩ := world
  cases op with
  | file op =>
    obtain ⟨mishaps, ⟨answered, left⟩ | ⟨left, same⟩⟩ := answer_file trouble op machine events
    · have ready' := fun has => (ready has).mishaps mishaps
      rw [answered, left]
      refine ⟨(kept.mishaps mishaps).perform allows ready', ?_, ?_⟩
      · intro before
        exact (before.mishaps mishaps).perform allows
      · exact ready_of_hasWritten allows ready'
    · rw [same, left]
      exact ⟨kept.mishaps mishaps, (·.mishaps mishaps), fun has => (ready has).mishaps mishaps⟩
  | log entry =>
    have besets (trouble : Option FileError) :
        (answer trouble (.log entry) (machine, events)).2.1.files =
          { machine.files with mishaps := [trouble.map fun error => ⟨error, none⟩] } := rfl
    rw [besets]
    exact ⟨kept.mishaps _, (·.mishaps _), fun has => (ready has).mishaps _⟩
  | keychain op => exact allows.1.elim
  | announce call => exact allows.1.elim

theorem advance_safe {α : Type} {wrote : Bool} {program : System α}
    {world : Machine × List SystemEvent}
    (obeys : Obeys path (Spells sessions) (fun _ _ => True) wrote program)
    (kept : Kept path initial sessions world.1.files)
    (ready : wrote = true → Ready path sessions world.1.files) (trouble : Option FileError) :
    Kept path initial sessions (advance trouble program world).2.1.files ∧
      (Ready path sessions world.1.files →
        Ready path sessions (advance trouble program world).2.1.files) ∧
      ∃ wrote, Obeys path (Spells sessions) (fun _ _ => True) wrote
          (advance trouble program world).1 ∧
        (wrote = true → Ready path sessions (advance trouble program world).2.1.files) := by
  cases program with
  | done result => exact ⟨kept, id, wrote, obeys, ready⟩
  | step op next =>
    obtain ⟨allows, later⟩ := obeys
    obtain ⟨kept', still, now⟩ := answer_safe allows kept ready trouble
    exact ⟨kept', still, _, later (answer trouble op world).1, now⟩

/-! ## Any number of steps -/

structure Sound (path : Path) (initial : FileSystem) (sessions : List (String × String))
    (crowd : Crowd) : Prop where
  kept : Kept path initial sessions crowd.files
  work : ∀ process, ∃ wrote,
    Obeys path (Spells sessions) (fun _ _ => True) wrote (crowd.work process) ∧
      (wrote = true → Ready path sessions crowd.files)

theorem Sound.mono {more : List (String × String)} {crowd : Crowd}
    (sound : Sound path initial sessions crowd) (subset : sessions ⊆ more) :
    Sound path initial more crowd := by
  refine ⟨⟨sound.kept.early, sound.kept.contents.imp_left (·.mono subset)⟩, ?_⟩
  intro process
  obtain ⟨wrote, obeys, ready⟩ := sound.work process
  refine ⟨wrote, obeys_more subset obeys, ?_⟩
  intro has
  obtain ⟨place, aside, spells⟩ := ready has
  exact ⟨place, aside, fun content node => (spells content node).mono subset⟩

theorem Sound.move {crowd : Crowd} (sound : Sound path initial sessions crowd) (move : Move) :
    Sound path initial (sessions ++ move.sessions) (crowd.move path move) := by
  have sound := sound.mono (List.subset_append_left sessions move.sessions)
  cases move with
  | turn process order =>
    refine ⟨sound.kept, ?_⟩
    intro other
    simp only [Crowd.move, Function.update_apply]
    split
    · have subset := List.subset_append_right sessions order.sessions
      exact ⟨false, obeys_more subset (order_obeys path order), fun has => by cases has⟩
    · exact sound.work other
  | step process trouble =>
    obtain ⟨wrote, obeys, ready⟩ := sound.work process
    obtain ⟨kept, still, own⟩ := advance_safe obeys sound.kept ready trouble
    refine ⟨kept, ?_⟩
    intro other
    simp only [Crowd.move, Function.update_apply]
    split
    · exact own
    · -- Another process may have written before: what it goes on to move is good all the same.
      obtain ⟨wrote', obeys', ready'⟩ := sound.work other
      exact ⟨wrote', obeys', fun has => still (ready' has)⟩

theorem Sound.follow {crowd : Crowd}
    (sound : Sound path initial sessions crowd) (moves : List Move) :
    Sound path initial (sessions ++ moves.flatMap Move.sessions) (crowd.follow path moves) := by
  induction moves generalizing sessions crowd with
  | nil =>
    rw [List.flatMap_nil, List.append_nil]
    exact sound
  | cons move rest ih =>
    rw [List.flatMap_cons, ← List.append_assoc]
    exact ih (sound.move move)

theorem sound_opening {path : Path} {machine : Machine} {sessions : List (String × String)}
    (tree : machine.files.IsTree) (start : OfOneSession sessions (map machine.files path)) :
    Sound path machine.files sessions (opening path machine) := by
  rw [← get?_contents] at start
  have early : Steady machine.files path ∨ Untouched path machine.files machine.files := by
    by_cases steady : Steady machine.files path
    · exact .inl steady
    · obtain ⟨up, crowded⟩ := up_of_not_steady tree steady
      exact .inr ⟨up, crowded, fun parent _ => .refl parent machine.files⟩
  refine ⟨⟨early, .inl start⟩, ?_⟩
  intro process
  exact ⟨false, trivial, fun has => by cases has⟩

/-- However the steps of any number of processes fall, the file spells no part of a session, or both
parts of one that was there from the start or that an order so far is to establish, if it is not a
file that nobody has written and a new directory has brought into view. -/
theorem session_of_one_establish (path : Path) (machine : Machine)
    (session? : Option (String × String)) (tree : machine.files.IsTree)
    (start : OfOneSession session?.toList (map machine.files path)) (moves : List Move) :
    OfOneSession (session?.toList ++ moves.flatMap Move.sessions)
        (map ((opening path machine).follow path moves).files path) ∨
      ComesIntoView path machine.files ((opening path machine).follow path moves).files := by
  have sound := (sound_opening tree start).follow moves
  rw [← get?_contents]
  exact sound.kept.contents

/-- Two processes write aside one after the other. The first one moves what the second one has
written, which leaves nothing for the second one to move. -/
def overtaking : List Move :=
  [.turn 0 (.establish "s" "bob"), .turn 1 (.establish "t" "ana")] ++
    List.replicate 4 (.step 0 none) ++ List.replicate 4 (.step 1 none) ++
    [.step 0 none, .step 1 none]

theorem session_of_one_establish_overtaking :
    let path : Path := ⟨false, ["session.json"]⟩
    let after := (opening path ⟨.empty, .empty⟩).follow path overtaking
    map after.files path tokenKey = some "t" ∧
      OfOneSession [("s", "bob"), ("t", "ana")] (map after.files path) := by
  have tree : FileSystem.empty.IsTree := isTree_of_nodes (by decide)
  have one := session_of_one_establish ⟨false, ["session.json"]⟩ ⟨.empty, .empty⟩ none tree
    (.inl ⟨rfl, rfl⟩) overtaking
  exact ⟨by decide +kernel, one.resolve_right fun comes => absurd comes.1 (by decide)⟩

theorem establish_reveals :
    let path : Path := ⟨false, ["missing", "..", "session.json"]⟩
    let moves := .turn 0 (.establish "s" "ana") :: List.replicate 6 (.step 0 none)
    outOfView.IsTree ∧ OfOneSession [] (map outOfView path) ∧
      ¬OfOneSession (moves.flatMap Move.sessions)
        (map ((opening path ⟨outOfView, .empty⟩).follow path moves).files path) := by
  refine ⟨isTree_of_nodes (by decide), .inl ⟨by decide +kernel, by decide +kernel⟩, ?_⟩
  have token : map ((opening ⟨false, ["missing", "..", "session.json"]⟩
      ⟨outOfView, .empty⟩).follow ⟨false, ["missing", "..", "session.json"]⟩
        (.turn 0 (.establish "s" "ana") :: List.replicate 6 (.step 0 none))).files
          ⟨false, ["missing", "..", "session.json"]⟩ tokenKey = some "t" := by
    decide +kernel
  rintro (⟨none, -⟩ | ⟨session, member, same, -⟩)
  · rw [token] at none
    cases none
  · rw [token] at same
    obtain rfl : session = ("s", "ana") := List.mem_singleton.1 member
    exact absurd same (by decide)

end Crowd

end PracticeClient
