/-!
# Programs that ask and are answered

A program is either done or asks its surroundings for one operation and goes on with the answer.
Nothing is fixed about who answers: the same program runs against a simulated machine, against
another program's operations, or against the real one.
-/

namespace PracticeClient

/-- A computation that asks for operations of `Op`, each answered by a value of `Answer op`. -/
inductive Program (Op : Type) (Answer : Op → Type) (α : Type) : Type where
  | done (value : α)
  | step (op : Op) (next : Answer op → Program Op Answer α)

namespace Program

variable {Op : Type} {Answer : Op → Type} {α β γ σ : Type}

def bind : Program Op Answer α → (α → Program Op Answer β) → Program Op Answer β
  | done value, rest => rest value
  | step op next, rest => step op fun answer => (next answer).bind rest

instance : Monad (Program Op Answer) where
  pure := done
  bind := bind

def ask (op : Op) : Program Op Answer (Answer op) :=
  step op done

@[simp] theorem pure_eq_done (value : α) : (pure value : Program Op Answer α) = done value := rfl

@[simp] theorem bind_eq (p : Program Op Answer α) (rest : α → Program Op Answer β) :
    p >>= rest = p.bind rest := rfl

@[simp] theorem done_bind (value : α) (rest : α → Program Op Answer β) :
    (done value).bind rest = rest value := rfl

@[simp] theorem step_bind (op : Op) (next : Answer op → Program Op Answer α)
    (rest : α → Program Op Answer β) :
    (step op next).bind rest = step op fun answer => (next answer).bind rest := rfl

@[simp] theorem bind_done (p : Program Op Answer α) : p.bind done = p := by
  induction p with
  | done value => rfl
  | step op next ih => simp only [step_bind, ih]

theorem bind_assoc (p : Program Op Answer α) (q : α → Program Op Answer β)
    (r : β → Program Op Answer γ) : (p.bind q).bind r = p.bind fun a => (q a).bind r := by
  induction p with
  | done value => rfl
  | step op next ih => simp only [step_bind, ih]

/-! ## Running -/

abbrev Handler (Op : Type) (Answer : Op → Type) (σ : Type) : Type :=
  (op : Op) → σ → Answer op × σ

def run (handle : Handler Op Answer σ) : Program Op Answer α → σ → α × σ
  | done value, state => (value, state)
  | step op next, state => (next (handle op state).1).run handle (handle op state).2

@[simp] theorem run_done (handle : Handler Op Answer σ) (value : α) (state : σ) :
    (done value : Program Op Answer α).run handle state = (value, state) := rfl

@[simp] theorem run_step (handle : Handler Op Answer σ) (op : Op)
    (next : Answer op → Program Op Answer α) (state : σ) :
    (step op next).run handle state =
      (next (handle op state).1).run handle (handle op state).2 := rfl

@[simp] theorem run_bind (handle : Handler Op Answer σ) (p : Program Op Answer α)
    (rest : α → Program Op Answer β) (state : σ) :
    (p.bind rest).run handle state =
      (rest (p.run handle state).1).run handle (p.run handle state).2 := by
  induction p generalizing state with
  | done value => rfl
  | step op next ih => simp only [step_bind, run_step, ih]

@[simp] theorem run_ask (handle : Handler Op Answer σ) (op : Op) (state : σ) :
    (ask op).run handle state = handle op state := rfl

/-! ## Answering by programs -/

variable {Op' : Type} {Answer' : Op' → Type}

/-- Answers every operation by a program over other operations, threading a state through. -/
def expand (handle : (op : Op) → σ → Program Op' Answer' (Answer op × σ)) :
    Program Op Answer α → σ → Program Op' Answer' (α × σ)
  | done value, state => done (value, state)
  | step op next, state =>
    (handle op state).bind fun answered => (next answered.1).expand handle answered.2

def answerWith (handle : (op : Op) → Program Op' Answer' (Answer op)) :
    Program Op Answer α → Program Op' Answer' α
  | done value => done value
  | step op next => (handle op).bind fun answer => (next answer).answerWith handle

theorem run_answerWith {τ : Type} (inner : Handler Op' Answer' τ)
    (handle : (op : Op) → Program Op' Answer' (Answer op)) (p : Program Op Answer α) (world : τ) :
    (p.answerWith handle).run inner world =
      p.run (fun op world => (handle op).run inner world) world := by
  induction p generalizing world with
  | done value => rfl
  | step op next ih => simp only [answerWith, run_bind, run_step, ih]

theorem run_expand {τ : Type} (inner : Handler Op' Answer' τ)
    (handle : (op : Op) → σ → Program Op' Answer' (Answer op × σ))
    (p : Program Op Answer α) (state : σ) (world : τ) :
    (p.expand handle state).run inner world =
      let result := p.run
        (fun op s => let after := (handle op s.1).run inner s.2
                     (after.1.1, (after.1.2, after.2))) (state, world)
      ((result.1, result.2.1), result.2.2) := by
  induction p generalizing state world with
  | done value => rfl
  | step op next ih => simp only [expand, run_bind, run_step, ih]

end Program

end PracticeClient
