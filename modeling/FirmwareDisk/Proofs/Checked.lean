import FirmwareDisk.Proofs.Action

/-!
Runs whose arithmetic is checked. A number that does not fit into 64 bits has no value, and a run that
computes one has no result. An action whose checked run is its run never leaves 64 bits.
-/

set_option autoImplicit false

namespace FirmwareDisk

def add64 (a b : Nat) : Option Nat :=
  if a + b < UInt64.size then some (a + b) else none

def sub64 (a b : Nat) : Option Nat :=
  if b ≤ a then some (a - b) else none

def mul64 (a b : Nat) : Option Nat :=
  if a * b < UInt64.size then some (a * b) else none

def ceilDiv64 (a b : Nat) : Option Nat :=
  if a % b = 0 then some (a / b) else add64 (a / b) 1

section Arithmetic

variable {a b : Nat}

theorem add64_of_lt (fits : a + b < UInt64.size) : add64 a b = some (a + b) := if_pos fits

theorem sub64_of_le (fits : b ≤ a) : sub64 a b = some (a - b) := if_pos fits

theorem mul64_of_lt (fits : a * b < UInt64.size) : mul64 a b = some (a * b) := if_pos fits

theorem ceilDiv64_of_lt (positive : 0 < b) (fits : a < UInt64.size) :
    ceilDiv64 a b = some ((a + (b - 1)) / b) := by
  have parts := Nat.div_add_mod' a b
  have rest := Nat.mod_lt a positive
  have next : (a / b + 1) * b = a / b * b + b := Nat.succ_mul _ _
  unfold ceilDiv64
  split
  · rename_i whole
    have same : (a + (b - 1)) / b = a / b := Nat.div_eq_of_lt_le (by omega) (by omega)
    rw [same]
  · rename_i part
    have after : (a / b + 1 + 1) * b = (a / b + 1) * b + b := Nat.succ_mul _ _
    have same : (a + (b - 1)) / b = a / b + 1 := Nat.div_eq_of_lt_le (by omega) (by omega)
    have several : b ≠ 1 := by
      rintro rfl
      exact part (Nat.mod_one a)
    have nonzero : a ≠ 0 := by
      rintro rfl
      exact part (Nat.zero_mod b)
    have less : a / b < a := Nat.div_lt_self (Nat.pos_of_ne_zero nonzero) (by omega)
    rw [same, add64_of_lt (by omega)]

end Arithmetic

/-- A run that ends like an action, unless a number that it computes does not fit. -/
def Checked (σ ε α : Type) : Type :=
  σ → Option (Outcome ε α × σ)

namespace Checked

variable {σ τ ε ε' α β γ : Type}

instance : Monad (Checked σ ε) where
  pure value := fun state => some (.ok value, state)
  bind checked next := fun state =>
    match checked state with
    | none => none
    | some (.ok value, after) => next value after
    | some (.error cause, after) => some (.error cause, after)
    | some (.fault reason, after) => some (.fault reason, after)

def run (action : Action σ ε α) : Checked σ ε α :=
  fun state => some (action state)

def compute (value : Option α) : Checked σ ε α :=
  fun state => value.map fun value => (.ok value, state)

def onPart (part : σ → τ) (replace : τ → σ → σ) (checked : Checked τ ε α) : Checked σ ε α :=
  fun state => (checked (part state)).map fun result => (result.1, replace result.2 state)

/-- The checked run from a state has a result, which is that of the action. -/
def Fits (checked : Checked σ ε α) (action : Action σ ε α) (before : σ) : Prop :=
  checked before = some (action before)

variable {checked : Checked σ ε α} {action : Action σ ε α} {before : σ}

theorem fits_run (action : Action σ ε α) (before : σ) : Fits (run action) action before := rfl

/-- What comes next has to fit only where it is reached. -/
theorem Fits.bind {next : α → Checked σ ε β} {further : α → Action σ ε β}
    (first : Fits checked action before)
    (rest : ∀ value after, action before = (.ok value, after) →
      Fits (next value) (further value) after) :
    Fits (checked >>= next) (action >>= further) before := by
  change (match checked before with
    | none => none
    | some (.ok value, after) => next value after
    | some (.error cause, after) => some (.error cause, after)
    | some (.fault reason, after) => some (.fault reason, after)) = _
  rw [first, Action.bind_apply]
  rcases result : action before with ⟨value | cause | reason, after⟩
  · exact rest value after result
  · rfl
  · rfl

theorem Fits.compute {value : Option γ} {number : γ} {next : γ → Checked σ ε α}
    (computed : value = some number) (rest : Fits (next number) action before) :
    Fits (Checked.compute value >>= next) action before := by
  subst computed
  exact rest

theorem Fits.look {view : σ → γ} {next : γ → Checked σ ε β} {further : γ → Action σ ε β}
    (rest : Fits (next (view before)) (further (view before)) before) :
    Fits (run (Action.look view) >>= next) (Action.look view >>= further) before :=
  rest

theorem Fits.check {check : Except ε γ} {next : γ → Checked σ ε β} {further : γ → Action σ ε β}
    (rest : ∀ value, check = .ok value → Fits (next value) (further value) before) :
    Fits (run (liftM check) >>= next) (liftM check >>= further) before := by
  cases check with
  | ok value => exact rest value rfl
  | error cause => rfl

theorem Fits.onPart {part : σ → τ} {replace : τ → σ → σ} {checked : Checked τ ε α}
    {action : Action τ ε α} (inner : Fits checked action (part before)) :
    Fits (Checked.onPart part replace checked) (Action.onPart part replace action) before := by
  unfold Fits Checked.onPart
  rw [inner]
  rfl

end Checked

end FirmwareDisk
