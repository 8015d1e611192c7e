import FirmwareDisk.Outcome

set_option autoImplicit false

namespace FirmwareDisk.Action

variable {σ τ ε ε' α β : Type}

/-- The run from a state keeps one of three promises, according to how it ends. -/
def Ends (action : Action σ ε α) (before : σ) (returns : α → σ → Prop)
    (refuses : ε → σ → Prop) (faults : Fault → σ → Prop) : Prop :=
  match (action before).1 with
  | .ok value => returns value (action before).2
  | .error cause => refuses cause (action before).2
  | .fault reason => faults reason (action before).2

variable {action : Action σ ε α} {before : σ} {returns : α → σ → Prop}
  {refuses : ε → σ → Prop} {faults : Fault → σ → Prop}

theorem Ends.of_ok {value : α} {after : σ} (ends : Ends action before returns refuses faults)
    (run : action before = (.ok value, after)) : returns value after := by
  simpa only [Ends, run] using ends

theorem Ends.of_error {cause : ε} {after : σ} (ends : Ends action before returns refuses faults)
    (run : action before = (.error cause, after)) : refuses cause after := by
  simpa only [Ends, run] using ends

theorem Ends.of_fault {reason : Fault} {after : σ}
    (ends : Ends action before returns refuses faults)
    (run : action before = (.fault reason, after)) : faults reason after := by
  simpa only [Ends, run] using ends

theorem Ends.intro (ok : ∀ value after, action before = (.ok value, after) → returns value after)
    (error : ∀ cause after, action before = (.error cause, after) → refuses cause after)
    (fault : ∀ reason after, action before = (.fault reason, after) → faults reason after) :
    Ends action before returns refuses faults := by
  unfold Ends
  split
  · rename_i value same
    exact ok value _ (Prod.ext same rfl)
  · rename_i cause same
    exact error cause _ (Prod.ext same rfl)
  · rename_i reason same
    exact fault reason _ (Prod.ext same rfl)

theorem Ends.cases (ends : Ends action before returns refuses faults) :
    (∃ value after, action before = (.ok value, after) ∧ returns value after) ∨
      (∃ cause after, action before = (.error cause, after) ∧ refuses cause after) ∨
      ∃ reason after, action before = (.fault reason, after) ∧ faults reason after := by
  unfold Ends at ends
  rcases run : action before with ⟨value | cause | reason, after⟩
  · rw [run] at ends
    exact Or.inl ⟨value, after, rfl, ends⟩
  · rw [run] at ends
    exact Or.inr (Or.inl ⟨cause, after, rfl, ends⟩)
  · rw [run] at ends
    exact Or.inr (Or.inr ⟨reason, after, rfl, ends⟩)

theorem Ends.mono {returns' : α → σ → Prop} {refuses' : ε → σ → Prop}
    (ends : Ends action before returns refuses faults)
    (ok : ∀ value after, returns value after → returns' value after)
    (error : ∀ cause after, refuses cause after → refuses' cause after) :
    Ends action before returns' refuses' faults :=
  .intro (fun value after run => ok value after (ends.of_ok run))
    (fun cause after run => error cause after (ends.of_error run))
    (fun _ _ run => ends.of_fault run)

theorem Ends.with_run (ends : Ends action before returns refuses faults) :
    Ends action before (fun value after => action before = (.ok value, after) ∧ returns value after)
      refuses faults :=
  .intro (fun _ _ run => ⟨run, ends.of_ok run⟩) (fun _ _ run => ends.of_error run)
    (fun _ _ run => ends.of_fault run)

theorem Ends.and {returns' : α → σ → Prop} {refuses' : ε → σ → Prop} {faults' : Fault → σ → Prop}
    (first : Ends action before returns refuses faults)
    (second : Ends action before returns' refuses' faults') :
    Ends action before (fun value after => returns value after ∧ returns' value after)
      (fun cause after => refuses cause after ∧ refuses' cause after) faults :=
  .intro (fun _ _ run => ⟨first.of_ok run, second.of_ok run⟩)
    (fun _ _ run => ⟨first.of_error run, second.of_error run⟩) (fun _ _ run => first.of_fault run)

theorem Ends.left {kept : σ → Prop}
    (ends : Ends action before (fun _ => kept) (fun _ => kept) (fun _ => kept)) :
    kept (action before).2 := by
  unfold Ends at ends
  split at ends
  · exact ends
  · exact ends
  · exact ends

theorem Ends.unrefused (ends : Ends action before returns (fun _ _ => False) faults) :
    Ends action before returns refuses faults :=
  ends.mono (fun _ _ done => done) (fun _ _ never => never.elim)

theorem Ends.unfaulted (ends : Ends action before returns refuses (fun _ _ => False)) :
    Ends action before returns refuses faults :=
  .intro (fun _ _ run => ends.of_ok run) (fun _ _ run => ends.of_error run)
    (fun _ _ run => (ends.of_fault run).elim)

theorem Ends.returned
    (ends : Ends action before returns (fun _ _ => False) (fun _ _ => False)) :
    ∃ value after, action before = (.ok value, after) ∧ returns value after := by
  obtain done | ⟨_, _, _, never⟩ | ⟨_, _, _, never⟩ := ends.cases
  · exact done
  · exact never.elim
  · exact never.elim

/-- A run that succeeds exactly if a condition holds, and never faults. -/
theorem Ends.decided {condition : Prop}
    (ends : Ends action before (fun _ _ => condition) (fun _ _ => ¬ condition)
      (fun _ _ => False)) :
    (condition → ∃ value, (action before).1 = .ok value) ∧
      (¬ condition → ∃ cause, (action before).1 = .error cause) := by
  obtain ⟨value, _, run, holds⟩ | ⟨cause, _, run, fails⟩ | ⟨_, _, _, never⟩ := ends.cases
  · exact ⟨fun _ => ⟨value, by rw [run]⟩, fun fails => (fails holds).elim⟩
  · exact ⟨fun holds => (fails holds).elim, fun _ => ⟨cause, by rw [run]⟩⟩
  · exact never.elim

theorem ends_refuse {cause : ε} (refused : refuses cause before) :
    Ends (refuse cause) before returns refuses faults := refused

theorem run_of_ok {value : α} (returned : (action before).1 = .ok value) :
    action before = (.ok value, (action before).2) :=
  Prod.ext returned rfl

theorem bind_of_ok {next : α → Action σ ε β} {value : α} {after : σ}
    (run : action before = (.ok value, after)) : (action >>= next) before = next value after := by
  rw [bind_apply, run]

theorem bind_of_error {next : α → Action σ ε β} {cause : ε} {after : σ}
    (run : action before = (.error cause, after)) :
    (action >>= next) before = (.error cause, after) := by
  rw [bind_apply, run]

theorem bind_congr {next : α → Action σ ε β} {other : σ} (same : action before = action other) :
    (action >>= next) before = (action >>= next) other := by
  rw [bind_apply, bind_apply, same]

theorem look_bind (view : σ → τ) (next : τ → Action σ ε α) (before : σ) :
    (look view >>= next) before = next (view before) before := rfl

theorem check_of_ok {check : Except ε α} {value : α} (passed : check = .ok value) (before : σ) :
    (liftM check : Action σ ε α) before = (.ok value, before) := by
  rw [passed]
  rfl

/-- The rest of a sequence starts where its first action returned. -/
theorem Ends.bind {next : α → Action σ ε β} {middle : α → σ → Prop} {returns : β → σ → Prop}
    (first : Ends action before middle refuses faults)
    (rest : ∀ value state, middle value state → Ends (next value) state returns refuses faults) :
    Ends (action >>= next) before returns refuses faults := by
  unfold Ends
  rw [bind_apply]
  obtain ⟨value, after, run, done⟩ | ⟨cause, after, run, done⟩ | ⟨reason, after, run, done⟩ :=
    first.cases
  · rw [run]
    exact rest value after done
  · rw [run]
    exact done
  · rw [run]
    exact done

theorem ends_look_bind {view : σ → τ} {next : τ → Action σ ε α} :
    Ends (look view >>= next) before returns refuses faults ↔
      Ends (next (view before)) before returns refuses faults := Iff.rfl

theorem ends_ok_bind {value : β} {next : β → Action σ ε α} :
    Ends (ofOutcome (.ok value) >>= next) before returns refuses faults ↔
      Ends (next value) before returns refuses faults := Iff.rfl

theorem ends_onPart {part : σ → τ} {replace : τ → σ → σ} {action : Action τ ε α} :
    Ends (onPart part replace action) before returns refuses faults ↔
      Ends action (part before) (fun value inner => returns value (replace inner before))
        (fun cause inner => refuses cause (replace inner before))
        (fun reason inner => faults reason (replace inner before)) := Iff.rfl

/-- A run that is the run of another action, seen through its state, ends as that one does. -/
theorem Ends.through {inner : Action τ ε α} {part : τ} (rebuild : τ → σ)
    (same : action before = ((inner part).1, rebuild (inner part).2))
    (ends : Ends inner part (fun value after => returns value (rebuild after))
      (fun cause after => refuses cause (rebuild after))
      (fun reason after => faults reason (rebuild after))) :
    Ends action before returns refuses faults := by
  unfold Ends at ends ⊢
  rw [same]
  exact ends

theorem Ends.of_run {other : Action σ ε α} {start : σ} (same : action before = other start)
    (ends : Ends other start returns refuses faults) :
    Ends action before returns refuses faults := by
  unfold Ends at ends ⊢
  rw [same]
  exact ends

theorem Ends.mapError {reword : ε → ε'} {refuses : ε' → σ → Prop}
    (ends : Ends action before returns (fun cause => refuses (reword cause)) faults) :
    Ends (mapError reword action) before returns refuses faults := by
  unfold Ends Action.mapError
  obtain ⟨_, _, run, done⟩ | ⟨_, _, run, done⟩ | ⟨_, _, run, done⟩ := ends.cases <;> rw [run] <;>
    exact done

theorem Ends.caught {returns : Except ε α → σ → Prop} {refuses : ε' → σ → Prop}
    (ends : Ends action before (fun value => returns (.ok value))
      (fun cause => returns (.error cause)) faults) :
    Ends (caught action) before returns refuses faults := by
  unfold Ends Action.caught
  obtain ⟨_, _, run, done⟩ | ⟨_, _, run, done⟩ | ⟨_, _, run, done⟩ := ends.cases <;> rw [run] <;>
    exact done

/-- What follows a caught action starts where the action ended, unless that faulted. -/
theorem ends_caught_bind {next : Except ε α → Action σ ε' β} {returns : β → σ → Prop}
    {refuses : ε' → σ → Prop}
    (ends : Ends action before
      (fun value after => Ends (next (.ok value)) after returns refuses faults)
      (fun cause after => Ends (next (.error cause)) after returns refuses faults) faults) :
    Ends (Action.caught action >>= next) before returns refuses faults := by
  have answered : Ends (Action.caught action : Action σ ε' (Except ε α)) before
      (fun answer after => Ends (next answer) after returns refuses faults) (fun _ _ => False)
      faults := .caught ends
  exact answered.unrefused.bind fun _ _ rest => rest

theorem ends_check_bind {check : Except ε β} {next : β → Action σ ε α}
    (error : ∀ cause, check = .error cause → refuses cause before)
    (ok : ∀ value, check = .ok value → Ends (next value) before returns refuses faults) :
    Ends (liftM check >>= next) before returns refuses faults := by
  cases check with
  | ok value => exact ok value rfl
  | error cause => exact error cause rfl

end FirmwareDisk.Action
