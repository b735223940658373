/-
# ControlLink.Dialogue — programs as dialogues with their surroundings

A dialogue asks its surroundings to carry out one action after another and goes on with each answer.
What the surroundings are is left to `Dialogue.run`, which is given a function that carries out an
action on a state; an action that never gets an answer ends the run without a value. Running one
dialogue after another is running them in turn (`run_bind`).
-/

namespace ControlLink

set_option autoImplicit false

/-- A program that ends with a value or goes on with the answer to an action. -/
inductive Dialogue {Action : Type} (Answer : Action → Type) (α : Type) where
  | done (value : α)
  | ask (action : Action) (next : Answer action → Dialogue Answer α)

namespace Dialogue

variable {Action : Type} {Answer : Action → Type} {α β σ : Type}

/-- Goes on with the value in which a dialogue ends. -/
def andThen (next : α → Dialogue Answer β) : Dialogue Answer α → Dialogue Answer β
  | done value => next value
  | ask action rest => ask action fun answer => (rest answer).andThen next

instance : Monad (Dialogue Answer) where
  pure := done
  bind dialogue next := dialogue.andThen next

/-- The dialogue of one action. -/
def perform (action : Action) : Dialogue Answer (Answer action) := ask action done

@[simp] theorem pure_eq (value : α) : (pure value : Dialogue Answer α) = done value := rfl

@[simp] theorem done_bind (value : α) (next : α → Dialogue Answer β) :
    (done value : Dialogue Answer α) >>= next = next value := rfl

@[simp] theorem ask_bind (action : Action) (rest : Answer action → Dialogue Answer α)
    (next : α → Dialogue Answer β) :
    ask action rest >>= next = ask action fun answer => rest answer >>= next := rfl

theorem andThen_done (dialogue : Dialogue Answer α) : dialogue.andThen done = dialogue := by
  induction dialogue with
  | done value => rfl
  | ask action rest ih => exact congrArg (ask action) (funext ih)

theorem andThen_assoc {γ : Type} (dialogue : Dialogue Answer α) (f : α → Dialogue Answer β)
    (g : β → Dialogue Answer γ) :
    (dialogue.andThen f).andThen g = dialogue.andThen fun value => (f value).andThen g := by
  induction dialogue with
  | done value => rfl
  | ask action rest ih => exact congrArg (ask action) (funext ih)

instance : LawfulMonad (Dialogue Answer) :=
  LawfulMonad.mk' _ andThen_done (fun _ _ => rfl) andThen_assoc

/-- Carries out a dialogue on a state; no value if some action gets no answer. -/
def run (answer : (action : Action) → σ → Option (Answer action) × σ) :
    Dialogue Answer α → σ → Option α × σ
  | done value, state => (some value, state)
  | ask action next, state =>
    match answer action state with
    | (some reply, state) => (next reply).run answer state
    | (none, state) => (none, state)

theorem run_bind (answer : (action : Action) → σ → Option (Answer action) × σ)
    (dialogue : Dialogue Answer α) (next : α → Dialogue Answer β) (state : σ) :
    (dialogue >>= next).run answer state =
      match dialogue.run answer state with
      | (some value, state) => (next value).run answer state
      | (none, state) => (none, state) := by
  induction dialogue generalizing state with
  | done value => rfl
  | ask action rest ih =>
    simp only [ask_bind, run]
    split
    · exact ih _ _
    · rfl

end Dialogue

end ControlLink
