import FirmwareDisk.Proofs.Action

set_option autoImplicit false

namespace FirmwareDisk.Action

variable {σ τ ε ε' α β : Type}

/-- The runs of an action from two states end alike: with the same value, and `returns` relates what
they leave behind, or with the same refusal or fault, and `fails` does. -/
inductive Agrees (action : Action σ ε α) (first second : σ) (returns : α → σ → σ → Prop)
    (fails : σ → σ → Prop) : Prop where
  | ok {value : α} {one two : σ} (run : action first = (.ok value, one))
      (again : action second = (.ok value, two)) (done : returns value one two)
  | error {cause : ε} {one two : σ} (run : action first = (.error cause, one))
      (again : action second = (.error cause, two)) (failed : fails one two)
  | fault {reason : Fault} {one two : σ} (run : action first = (.fault reason, one))
      (again : action second = (.fault reason, two)) (failed : fails one two)

variable {action : Action σ ε α} {first second : σ} {returns : α → σ → σ → Prop}
  {fails : σ → σ → Prop}

theorem Agrees.outcome (agrees : Agrees action first second returns fails) :
    (action first).1 = (action second).1 := by
  cases agrees with
  | ok run again _ => rw [run, again]
  | error run again _ => rw [run, again]
  | fault run again _ => rw [run, again]

theorem Agrees.left {kept : σ → σ → Prop}
    (agrees : Agrees action first second (fun _ => kept) kept) :
    kept (action first).2 (action second).2 := by
  cases agrees with
  | ok run again done =>
    rw [run, again]
    exact done
  | error run again failed =>
    rw [run, again]
    exact failed
  | fault run again failed =>
    rw [run, again]
    exact failed

theorem Agrees.mono {returns' : α → σ → σ → Prop} {fails' : σ → σ → Prop}
    (agrees : Agrees action first second returns fails)
    (ok : ∀ value one two, returns value one two → returns' value one two)
    (failure : ∀ one two, fails one two → fails' one two) :
    Agrees action first second returns' fails' := by
  cases agrees with
  | ok run again done => exact .ok run again (ok _ _ _ done)
  | error run again failed => exact .error run again (failure _ _ failed)
  | fault run again failed => exact .fault run again (failure _ _ failed)

theorem agrees_pure {value : α} (done : returns value first second) :
    Agrees (pure value : Action σ ε α) first second returns fails :=
  .ok rfl rfl done

theorem agrees_refuse {cause : ε} (failed : fails first second) :
    Agrees (refuse cause : Action σ ε α) first second returns fails :=
  .error rfl rfl failed

theorem agrees_self (action : Action σ ε α) (state : σ) :
    Agrees action state state (fun value one two => action state = (.ok value, one) ∧ one = two)
      (· = ·) := by
  rcases run : action state with ⟨value | cause | reason, after⟩
  · exact .ok run run ⟨rfl, rfl⟩
  · exact .error run run rfl
  · exact .fault run run rfl

/-- Promises about two runs are one about both, where the runs end the same way. -/
theorem Agrees.of_ends {returns returns' : α → σ → Prop} {refuses refuses' : ε → σ → Prop}
    {faults : Fault → σ → Prop} (same : (action first).1 = (action second).1)
    (front : Ends action first returns refuses (fun _ _ => False))
    (back : Ends action second returns' refuses' faults) :
    Agrees action first second (fun value one two => returns value one ∧ returns' value two)
      (fun one two => ∃ cause, refuses cause one ∧ refuses' cause two) := by
  obtain ⟨value, one, run, done⟩ | ⟨cause, one, run, failed⟩ | ⟨_, _, _, never⟩ := front.cases
  · rw [run] at same
    have again : action second = (.ok value, (action second).2) := Prod.ext same.symm rfl
    exact .ok run again ⟨done, back.of_ok again⟩
  · rw [run] at same
    have again : action second = (.error cause, (action second).2) := Prod.ext same.symm rfl
    exact .error run again ⟨cause, failed, back.of_error again⟩
  · exact never.elim

theorem Agrees.of_run {other : Action σ ε α} {start begin : σ}
    (agrees : Agrees other start begin returns fails) (front : action first = other start)
    (back : action second = other begin) : Agrees action first second returns fails := by
  cases agrees with
  | ok run again done => exact .ok (front.trans run) (back.trans again) done
  | error run again failed => exact .error (front.trans run) (back.trans again) failed
  | fault run again failed => exact .fault (front.trans run) (back.trans again) failed

theorem Agrees.bind {next : α → Action σ ε β} {middle : α → σ → σ → Prop}
    {returns : β → σ → σ → Prop} (start : Agrees action first second middle fails)
    (rest : ∀ value one two, middle value one two → Agrees (next value) one two returns fails) :
    Agrees (action >>= next) first second returns fails := by
  cases start with
  | ok run again done => exact (rest _ _ _ done).of_run (bind_of_ok run) (bind_of_ok again)
  | error run again failed => exact .error (bind_of_error run) (bind_of_error again) failed
  | fault run again failed =>
    exact .fault (by rw [bind_apply, run]) (by rw [bind_apply, again]) failed

theorem Agrees.through {inner : Action τ ε α} {part other : τ} (front back : τ → σ)
    (agrees : Agrees inner part other (fun value one two => returns value (front one) (back two))
      (fun one two => fails (front one) (back two)))
    (run : action first = ((inner part).1, front (inner part).2))
    (again : action second = ((inner other).1, back (inner other).2)) :
    Agrees action first second returns fails := by
  cases agrees with
  | ok one two done => exact .ok (by rw [run, one]) (by rw [again, two]) done
  | error one two failed => exact .error (by rw [run, one]) (by rw [again, two]) failed
  | fault one two failed => exact .fault (by rw [run, one]) (by rw [again, two]) failed

theorem Agrees.onPart {part : σ → τ} {replace : τ → σ → σ} {inner : Action τ ε α}
    (agrees : Agrees inner (part first) (part second)
      (fun value one two => returns value (replace one first) (replace two second))
      (fun one two => fails (replace one first) (replace two second))) :
    Agrees (Action.onPart part replace inner) first second returns fails :=
  agrees.through (fun after => replace after first) (fun after => replace after second) rfl rfl

theorem agrees_look_bind {view : σ → τ} {next : τ → Action σ ε α}
    (same : view first = view second)
    (rest : Agrees (next (view first)) first second returns fails) :
    Agrees (look view >>= next) first second returns fails :=
  rest.of_run (look_bind view next first) (by rw [look_bind, same])

theorem agrees_check_bind {check : Except ε β} {next : β → Action σ ε α}
    (failed : fails first second)
    (passed : ∀ value, check = .ok value → Agrees (next value) first second returns fails) :
    Agrees (liftM check >>= next) first second returns fails := by
  cases check with
  | ok value => exact passed value rfl
  | error cause => exact .error rfl rfl failed

theorem Agrees.mapError {reword : ε → ε'} (agrees : Agrees action first second returns fails) :
    Agrees (mapError reword action) first second returns fails := by
  cases agrees with
  | ok run again done =>
    exact .ok (by rw [Action.mapError, run]; rfl) (by rw [Action.mapError, again]; rfl) done
  | error run again failed =>
    exact .error (by rw [Action.mapError, run]; rfl) (by rw [Action.mapError, again]; rfl) failed
  | fault run again failed =>
    exact .fault (by rw [Action.mapError, run]; rfl) (by rw [Action.mapError, again]; rfl) failed

/-- What follows a caught action starts from where the action ended, unless that faulted. -/
theorem Agrees.caught_bind {next : Except ε α → Action σ ε' β} {middle : α → σ → σ → Prop}
    {refused : σ → σ → Prop} {returns : β → σ → σ → Prop}
    (start : Agrees action first second middle refused)
    (ok : ∀ value one two, middle value one two → Agrees (next (.ok value)) one two returns fails)
    (error : ∀ cause one two, refused one two →
      Agrees (next (.error cause)) one two returns fails)
    (fault : ∀ one two, refused one two → fails one two) :
    Agrees (Action.caught action >>= next) first second returns fails := by
  have caught {answer : Except ε α} {before after : σ}
      (run : (Action.caught action : Action σ ε' (Except ε α)) before = (.ok answer, after)) :
      (Action.caught action >>= next) before = next answer after := bind_of_ok run
  cases start with
  | ok run again done =>
    exact (ok _ _ _ done).of_run (caught (by rw [Action.caught, run]))
      (caught (by rw [Action.caught, again]))
  | error run again failed =>
    exact (error _ _ _ failed).of_run (caught (by rw [Action.caught, run]))
      (caught (by rw [Action.caught, again]))
  | fault run again failed =>
    exact .fault (by rw [bind_apply, Action.caught, run]) (by rw [bind_apply, Action.caught, again])
      (fault _ _ failed)

end FirmwareDisk.Action
