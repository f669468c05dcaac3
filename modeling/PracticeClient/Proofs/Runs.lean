import PracticeClient.Program

/-!
# What holds along a run
-/

namespace PracticeClient.Program

variable {Op : Type} {Answer : Op → Type} {α β σ : Type}

/-- Whether a condition holds of every operation that a run comes to, in the state it meets. -/
def Along (good : Op → σ → Prop) (handle : Handler Op Answer σ) : Program Op Answer α → σ → Prop
  | done _, _ => True
  | step op next, state =>
    good op state ∧ (next (handle op state).1).Along good handle (handle op state).2

instance decidableAlong (good : Op → σ → Prop) [∀ op state, Decidable (good op state)]
    (handle : Handler Op Answer σ) :
    (p : Program Op Answer α) → (state : σ) → Decidable (p.Along good handle state)
  | done _, _ => inferInstanceAs (Decidable True)
  | step op next, state =>
    have : Decidable ((next (handle op state).1).Along good handle (handle op state).2) :=
      decidableAlong good handle (next (handle op state).1) (handle op state).2
    inferInstanceAs (Decidable (_ ∧ _))

variable {good : Op → σ → Prop} {handle : Handler Op Answer σ}

@[simp] theorem along_done (value : α) (state : σ) :
    (done value : Program Op Answer α).Along good handle state := trivial

@[simp] theorem along_step (op : Op) (next : Answer op → Program Op Answer α) (state : σ) :
    (step op next).Along good handle state ↔
      good op state ∧ (next (handle op state).1).Along good handle (handle op state).2 := Iff.rfl

@[simp] theorem along_ask (op : Op) (state : σ) :
    (ask op : Program Op Answer (Answer op)).Along good handle state ↔ good op state :=
  and_iff_left trivial

@[simp] theorem along_bind (p : Program Op Answer α) (rest : α → Program Op Answer β) (state : σ) :
    (p.bind rest).Along good handle state ↔ p.Along good handle state ∧
      (rest (p.run handle state).1).Along good handle (p.run handle state).2 := by
  induction p generalizing state with
  | done value => exact (and_iff_right trivial).symm
  | step op next ih => rw [step_bind, along_step, along_step, ih, and_assoc, run_step]

/-! ## Runs that break off -/

def runFor (handle : Handler Op Answer σ) : Nat → Program Op Answer α → σ → σ
  | 0, _, state => state
  | _ + 1, done _, state => state
  | count + 1, step op next, state =>
    (next (handle op state).1).runFor handle count (handle op state).2

theorem runFor_of_enough (handle : Handler Op Answer σ) (p : Program Op Answer α) (state : σ) :
    ∃ enough, ∀ count, enough ≤ count → p.runFor handle count state = (p.run handle state).2 := by
  induction p generalizing state with
  | done value =>
    refine ⟨0, ?_⟩
    intro count _
    cases count <;> rfl
  | step op next ih =>
    obtain ⟨enough, same⟩ := ih (handle op state).1 (handle op state).2
    refine ⟨enough + 1, ?_⟩
    intro count more
    cases count with
    | zero => cases more
    | succ count => exact same count (Nat.le_of_succ_le_succ more)

/-- Whether a condition holds of every state that a run comes through, the last one included. -/
def Through (good : σ → Prop) (handle : Handler Op Answer σ) : Program Op Answer α → σ → Prop
  | done _, state => good state
  | step op next, state =>
    good state ∧ (next (handle op state).1).Through good handle (handle op state).2

def Uses (kind : Op → Prop) : Program Op Answer α → Prop
  | done _ => True
  | step op next => kind op ∧ ∀ answer, (next answer).Uses kind

variable {kind : Op → Prop} {holds : σ → Prop}

theorem through_start {p : Program Op Answer α} {state : σ}
    (through : p.Through holds handle state) : holds state := by
  cases p with
  | done value => exact through
  | step op next => exact through.1

theorem runFor_of_through {p : Program Op Answer α} {state : σ}
    (through : p.Through holds handle state) (count : Nat) :
    holds (p.runFor handle count state) := by
  induction count generalizing p state with
  | zero => exact through_start through
  | succ count ih =>
    cases p with
    | done value => exact through
    | step op next => exact ih through.2

theorem through_end {p : Program Op Answer α} {state : σ}
    (through : p.Through holds handle state) : holds (p.run handle state).2 := by
  induction p generalizing state with
  | done value => exact through
  | step op next ih => exact ih _ through.2

theorem through_mono {weaker : σ → Prop} (implies : ∀ state, holds state → weaker state)
    {p : Program Op Answer α} {state : σ} (through : p.Through holds handle state) :
    p.Through weaker handle state := by
  induction p generalizing state with
  | done value => exact implies state through
  | step op next ih => exact ⟨implies state through.1, ih _ through.2⟩

theorem through_bind {p : Program Op Answer α} {rest : α → Program Op Answer β} {state : σ}
    (first : p.Through holds handle state)
    (next : (rest (p.run handle state).1).Through holds handle (p.run handle state).2) :
    (p.bind rest).Through holds handle state := by
  induction p generalizing state with
  | done value => exact next
  | step op more ih => exact ⟨first.1, ih _ first.2 next⟩

theorem uses_bind {p : Program Op Answer α} {rest : α → Program Op Answer β}
    (first : p.Uses kind) (next : ∀ value, (rest value).Uses kind) : (p.bind rest).Uses kind := by
  induction p with
  | done value => exact next value
  | step op more ih => exact ⟨first.1, fun answer => ih answer (first.2 answer)⟩

theorem uses_mono {weaker : Op → Prop} (implies : ∀ op, kind op → weaker op)
    {p : Program Op Answer α} (uses : p.Uses kind) : p.Uses weaker := by
  induction p with
  | done value => trivial
  | step op next ih => exact ⟨implies op uses.1, fun answer => ih answer (uses.2 answer)⟩

theorem through_of_uses
    (preserves : ∀ op state, kind op → holds state → holds (handle op state).2)
    {p : Program Op Answer α} (uses : p.Uses kind) {state : σ} (start : holds state) :
    p.Through holds handle state := by
  induction p generalizing state with
  | done value => exact start
  | step op next ih =>
    exact ⟨start, ih _ (uses.2 _) (preserves op state uses.1 start)⟩

/-! ## Rules -/

/-- Whether every operation that a program may ever come to is allowed in its phase. The answers
decide on the phase that comes next, and `ends` is about the last one. -/
def Obeys {φ : Type} (allowed : φ → Op → Prop) (turn : (op : Op) → Answer op → φ → φ)
    (ends : α → φ → Prop) : φ → Program Op Answer α → Prop
  | phase, done value => ends value phase
  | phase, step op next =>
    allowed phase op ∧ ∀ answer, (next answer).Obeys allowed turn ends (turn op answer phase)

section

variable {φ : Type} {allowed : φ → Op → Prop} {turn : (op : Op) → Answer op → φ → φ}

theorem obeys_bind {ends : α → φ → Prop} {ends' : β → φ → Prop} {p : Program Op Answer α}
    {rest : α → Program Op Answer β} {phase : φ} (first : p.Obeys allowed turn ends phase)
    (next : ∀ value after, ends value after → (rest value).Obeys allowed turn ends' after) :
    (p.bind rest).Obeys allowed turn ends' phase := by
  induction p generalizing phase with
  | done value => exact next value phase first
  | step op more ih => exact ⟨first.1, fun answer => ih answer (first.2 answer)⟩

theorem obeys_of_uses {phase : φ} (allows : ∀ op, kind op → allowed phase op)
    (stays : ∀ op answer, kind op → turn op answer phase = phase) {p : Program Op Answer α}
    (uses : p.Uses kind) : p.Obeys allowed turn (fun _ after => after = phase) phase := by
  induction p with
  | done value => rfl
  | step op next ih =>
    refine ⟨allows op uses.1, ?_⟩
    intro answer
    rw [stays op answer uses.1]
    exact ih answer (uses.2 answer)

theorem uses_of_obeys (allows : ∀ phase op, allowed phase op → kind op) {ends : α → φ → Prop}
    {p : Program Op Answer α} {phase : φ} (obeys : p.Obeys allowed turn ends phase) :
    p.Uses kind := by
  induction p generalizing phase with
  | done value => trivial
  | step op next ih => exact ⟨allows phase op obeys.1, fun answer => ih answer (obeys.2 answer)⟩

theorem obeys_mono {weaker : φ → Op → Prop} {ends weaker' : α → φ → Prop}
    (allows : ∀ phase op, allowed phase op → weaker phase op)
    (implies : ∀ value phase, ends value phase → weaker' value phase)
    {p : Program Op Answer α} {phase : φ} (obeys : p.Obeys allowed turn ends phase) :
    p.Obeys weaker turn weaker' phase := by
  induction p generalizing phase with
  | done value => exact implies value phase obeys
  | step op next ih => exact ⟨allows phase op obeys.1, fun answer => ih answer (obeys.2 answer)⟩

end

end PracticeClient.Program
