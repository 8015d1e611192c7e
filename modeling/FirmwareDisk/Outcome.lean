/-!
Outcomes of operations, and actions on a state.

An operation ends with a value, with a cause that its caller can act on, or with a fault, after
which there is nothing left to answer. An `Action` is an operation on a state: however it ends, it
leaves a state behind, because a disk that failed halfway has still been written.
-/

set_option autoImplicit false

namespace FirmwareDisk

/-- Why a computation stops for good, with nothing to report to its caller. -/
inductive Fault where
  | overflow
  | outsideBuffer
deriving DecidableEq, Repr

/-- How an operation ends. -/
inductive Outcome (ε α : Type) where
  | ok (value : α)
  | error (cause : ε)
  | fault (reason : Fault)
deriving DecidableEq, Repr

namespace Outcome

variable {ε ε' α β : Type}

def ofExcept : Except ε α → Outcome ε α
  | .ok value => .ok value
  | .error cause => .error cause

/-- Continues with the value, if there is one. -/
def bind (outcome : Outcome ε α) (next : α → Outcome ε β) : Outcome ε β :=
  match outcome with
  | .ok value => next value
  | .error cause => .error cause
  | .fault reason => .fault reason

instance : Monad (Outcome ε) where
  pure := .ok
  bind := bind

instance : MonadLift (Except ε) (Outcome ε) where
  monadLift := ofExcept

/-- Rewords the cause of a refusal. -/
def mapError (reword : ε → ε') : Outcome ε α → Outcome ε' α
  | .ok value => .ok value
  | .error cause => .error (reword cause)
  | .fault reason => .fault reason

@[simp] theorem ok_bind (value : α) (next : α → Outcome ε β) :
    (Outcome.ok value >>= next) = next value := rfl

@[simp] theorem error_bind (cause : ε) (next : α → Outcome ε β) :
    (Outcome.error cause >>= next) = .error cause := rfl

@[simp] theorem fault_bind (reason : Fault) (next : α → Outcome ε β) :
    (Outcome.fault reason >>= next) = .fault reason := rfl

theorem bind_eq_ok {outcome : Outcome ε α} {next : α → Outcome ε β} {result : β} :
    (outcome >>= next) = .ok result ↔
      ∃ value, outcome = .ok value ∧ next value = .ok result := by
  cases outcome with
  | ok value => simp
  | error cause => simp
  | fault reason => simp

theorem mapError_eq_ok {reword : ε → ε'} {outcome : Outcome ε α} {value : α} :
    outcome.mapError reword = .ok value ↔ outcome = .ok value := by
  cases outcome with
  | ok result => simp [mapError]
  | error cause => simp [mapError]
  | fault reason => simp [mapError]

end Outcome

/-- An operation on a state. It leaves a state behind whether it succeeds or not. -/
def Action (σ ε α : Type) : Type :=
  σ → Outcome ε α × σ

namespace Action

variable {σ τ ε ε' α β : Type}

instance : Monad (Action σ ε) where
  pure value := fun state => (.ok value, state)
  bind action next := fun state =>
    match action state with
    | (.ok value, after) => next value after
    | (.error cause, after) => (.error cause, after)
    | (.fault reason, after) => (.fault reason, after)

@[simp] theorem pure_apply (value : α) (state : σ) :
    (pure value : Action σ ε α) state = (.ok value, state) := rfl

theorem bind_apply (action : Action σ ε α) (next : α → Action σ ε β) (state : σ) :
    (action >>= next) state =
      match action state with
      | (.ok value, after) => next value after
      | (.error cause, after) => (.error cause, after)
      | (.fault reason, after) => (.fault reason, after) := rfl

/-- A sequence succeeds exactly if its first action does and the second one does after it. -/
theorem bind_eq_ok {action : Action σ ε α} {next : α → Action σ ε β} {before after : σ}
    {result : β} :
    (action >>= next) before = (.ok result, after) ↔
      ∃ value middle, action before = (.ok value, middle) ∧
        next value middle = (.ok result, after) := by
  rw [bind_apply]
  match action before with
  | (.ok value, middle) =>
    constructor
    · exact fun success => ⟨value, middle, rfl, success⟩
    · rintro ⟨_, _, same, success⟩
      cases same
      exact success
  | (.error cause, middle) => simp
  | (.fault reason, middle) => simp

def refuse (cause : ε) : Action σ ε α :=
  fun state => (.error cause, state)

def ofOutcome (outcome : Outcome ε α) : Action σ ε α :=
  fun state => (outcome, state)

instance : MonadLift (Outcome ε) (Action σ ε) where
  monadLift := ofOutcome

instance : MonadLift (Except ε) (Action σ ε) where
  monadLift check := ofOutcome (.ofExcept check)

def look (view : σ → α) : Action σ ε α :=
  fun state => (.ok (view state), state)

def change (update : σ → σ) : Action σ ε Unit :=
  fun state => (.ok (), update state)

def onPart (part : σ → τ) (replace : τ → σ → σ) (action : Action τ ε α) : Action σ ε α :=
  fun state => ((action (part state)).1, replace (action (part state)).2 state)

theorem onPart_eq_ok {part : σ → τ} {replace : τ → σ → σ} {action : Action τ ε α}
    {before after : σ} {value : α} :
    onPart part replace action before = (.ok value, after) ↔
      ∃ inner, action (part before) = (.ok value, inner) ∧ replace inner before = after := by
  simp only [onPart, Prod.mk.injEq]
  constructor
  · rintro ⟨outcome, state⟩
    exact ⟨_, Prod.ext outcome rfl, state⟩
  · rintro ⟨inner, success, state⟩
    rw [success]
    exact ⟨rfl, state⟩

/-- Turns a refusal into a value, so that the caller can go on. A fault is still a fault. -/
def caught (action : Action σ ε α) : Action σ ε' (Except ε α) := fun state =>
  match action state with
  | (.ok value, after) => (.ok (.ok value), after)
  | (.error cause, after) => (.ok (.error cause), after)
  | (.fault reason, after) => (.fault reason, after)

def mapError (reword : ε → ε') (action : Action σ ε α) : Action σ ε' α :=
  fun state => ((action state).1.mapError reword, (action state).2)

end Action

end FirmwareDisk
