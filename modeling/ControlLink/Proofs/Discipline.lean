/-
# ControlLink.Proofs.Discipline — disciplines that dialogues keep to

A discipline watches a dialogue from a state of its own. Of each action it says whether the action
may be asked for in that state, and what must hold of the rest of the dialogue after each answer
that counts. `Dialogue.Keeps` folds a discipline over a dialogue up to a goal on its value and the
last state. The main statements are

* `keeps_bind`: one dialogue after another keeps a discipline if the first reaches a goal from which
  the second keeps it;
* `run_keeps`: if each action answered by the surroundings moves the watching state as the
  discipline foresees, a dialogue that keeps the discipline ends in its goal, or gets stuck at an
  action that the discipline allowed.
-/
import ControlLink.Dialogue

namespace ControlLink

set_option autoImplicit false

/-- For each action and watching state, what is asked of the answers and the states after them. -/
abbrev Discipline {Action : Type} (Answer : Action → Type) (S : Type) :=
  (action : Action) → S → (Answer action → S → Prop) → Prop

/-- A weaker demand on what follows is met wherever a stronger one is. -/
def Discipline.Monotone {Action S : Type} {Answer : Action → Type}
    (rule : Discipline Answer S) : Prop :=
  ∀ (action : Action) (s : S) (goal goal' : Answer action → S → Prop),
    (∀ answer s', goal answer s' → goal' answer s') → rule action s goal → rule action s goal'

/-- What is asked of the answers matters only by what it says of each. -/
theorem Discipline.congr {Action S : Type} {Answer : Action → Type} (rule : Discipline Answer S)
    {action : Action} {s : S} {goal goal' : Answer action → S → Prop}
    (same : ∀ answer s', goal answer s' ↔ goal' answer s') :
    rule action s goal ↔ rule action s goal' := by
  have equal : goal = goal' := funext fun answer => funext fun s' => propext (same answer s')
  rw [equal]

namespace Dialogue

variable {Action : Type} {Answer : Action → Type} {α β S σ : Type}

/-- The dialogue keeps the discipline from a watching state on and ends in the goal. -/
def Keeps (rule : Discipline Answer S) (goal : α → S → Prop) : Dialogue Answer α → S → Prop
  | done value, s => goal value s
  | ask action next, s => rule action s fun answer s' => (next answer).Keeps rule goal s'

variable {rule : Discipline Answer S} {goal goal' : α → S → Prop}

@[simp] theorem keeps_done (value : α) (s : S) :
    (done value : Dialogue Answer α).Keeps rule goal s ↔ goal value s := Iff.rfl

@[simp] theorem keeps_pure (value : α) (s : S) :
    (pure value : Dialogue Answer α).Keeps rule goal s ↔ goal value s := Iff.rfl

theorem keeps_ask (action : Action) (next : Answer action → Dialogue Answer α) (s : S) :
    (ask action next).Keeps rule goal s ↔
      rule action s fun answer s' => (next answer).Keeps rule goal s' := Iff.rfl

theorem keeps_congr (same : ∀ value s, goal value s ↔ goal' value s)
    (dialogue : Dialogue Answer α) (s : S) :
    dialogue.Keeps rule goal s ↔ dialogue.Keeps rule goal' s := by
  have equal : goal = goal' := funext fun value => funext fun s => propext (same value s)
  rw [equal]

theorem keeps_bind {goal : β → S → Prop} (dialogue : Dialogue Answer α)
    (next : α → Dialogue Answer β) (s : S) :
    (dialogue >>= next).Keeps rule goal s ↔
      dialogue.Keeps rule (fun value s' => (next value).Keeps rule goal s') s := by
  suffices same : (dialogue >>= next).Keeps rule goal =
      dialogue.Keeps rule (fun value s' => (next value).Keeps rule goal s') by rw [same]
  induction dialogue with
  | done value => rfl
  | ask action rest ih =>
      funext s
      exact congrArg (rule action s) (funext fun answer => ih answer)

theorem keeps_mono (mono : rule.Monotone) (weaker : ∀ value s, goal value s → goal' value s)
    {dialogue : Dialogue Answer α} {s : S} (keeps : dialogue.Keeps rule goal s) :
    dialogue.Keeps rule goal' s := by
  induction dialogue generalizing s with
  | done value => exact weaker value s keeps
  | ask action rest ih => exact mono action s _ _ (fun answer _ => ih answer) keeps

/-- **What a run keeps.** `Watched` relates the surroundings to the watching state; `Stuck` is what
holds of surroundings that leave an action without an answer. -/
theorem run_keeps {answer : (action : Action) → σ → Option (Answer action) × σ}
    {Watched : σ → S → Prop} {Stuck : σ → Prop} {dialogue : Dialogue Answer α} {state : σ} {s : S}
    (keeps : dialogue.Keeps rule goal s) (watched : Watched state s)
    (answered : ∀ action state s (goal : Answer action → S → Prop) reply state', Watched state s →
      rule action s goal → answer action state = (some reply, state') →
      ∃ s', Watched state' s' ∧ goal reply s')
    (unanswered : ∀ action state s (goal : Answer action → S → Prop) state', Watched state s →
      rule action s goal → answer action state = (none, state') → Stuck state') :
    (∀ value state', dialogue.run answer state = (some value, state') →
      ∃ s', Watched state' s' ∧ goal value s') ∧
    ∀ state', dialogue.run answer state = (none, state') → Stuck state' := by
  induction dialogue generalizing state s with
  | done value =>
      constructor
      · intro _ _ ran
        cases ran
        exact ⟨s, watched, keeps⟩
      · intro _ ran
        cases ran
  | ask action rest ih =>
      cases asked : answer action state with
      | mk reply between =>
          simp only [run, asked]
          cases reply with
          | some reply =>
              obtain ⟨s', watched', rest'⟩ := answered _ _ _ _ _ _ watched keeps asked
              exact ih reply rest' watched'
          | none =>
              constructor
              · intro _ _ ran
                cases ran
              · intro _ ran
                cases ran
                exact unanswered _ _ _ _ _ watched keeps asked

end Dialogue

end ControlLink
