import FirmwareDisk.Backend.Shelf
import FirmwareDisk.Backend.Sum
import FirmwareDisk.Proofs.Session.Enumeration

set_option autoImplicit false

namespace FirmwareDisk

namespace Hook

variable {τ : Type}

def feed (hook : Hook τ) (names : List String) (seen : τ) : τ :=
  names.foldl (fun seen name => (hook name seen).2) seen

/-- None of the names, offered one after the other, is enough. -/
def Patient (hook : Hook τ) : List String → τ → Prop
  | [], _ => True
  | name :: rest, seen => (hook name seen).1 = false ∧ Patient hook rest (hook name seen).2

/-- Offers names one after the other, up to the first that is enough, each in a state of its own. -/
def walk {β ε : Type} (hook : Hook τ) (after : β) : List (String × β) → τ → Outcome ε Bool × (β × τ)
  | [], seen => (.ok false, (after, seen))
  | (name, state) :: rest, seen =>
    if (hook name seen).1 then (.ok true, (state, (hook name seen).2))
    else walk hook after rest (hook name seen).2

variable (hook : Hook τ)

@[simp] theorem feed_nil (seen : τ) : hook.feed [] seen = seen := rfl

@[simp] theorem feed_cons (name : String) (rest : List String) (seen : τ) :
    hook.feed (name :: rest) seen = hook.feed rest (hook name seen).2 := rfl

theorem feed_append (front back : List String) (seen : τ) :
    hook.feed (front ++ back) seen = hook.feed back (hook.feed front seen) := by
  rw [feed, List.foldl_append]
  rfl

theorem patient_append (front back : List String) (seen : τ) :
    hook.Patient (front ++ back) seen ↔
      hook.Patient front seen ∧ hook.Patient back (hook.feed front seen) := by
  induction front generalizing seen with
  | nil => simp only [Patient, List.nil_append, feed_nil, true_and]
  | cons name rest ih =>
    rw [List.cons_append, Patient, Patient, ih, feed_cons, and_assoc]

/-- A caller either is given all names, or those up to the first that is enough. -/
theorem walk_cases {β ε : Type} (after : β) (offers : List (String × β)) (seen : τ) :
    (hook.Patient (offers.map Prod.fst) seen ∧
      (hook.walk after offers seen : Outcome ε Bool × _) =
        (.ok false, (after, hook.feed (offers.map Prod.fst) seen))) ∨
    ∃ given name state later, offers = given ++ (name, state) :: later ∧
      hook.Patient (given.map Prod.fst) seen ∧
      (hook name (hook.feed (given.map Prod.fst) seen)).1 = true ∧
      (hook.walk after offers seen : Outcome ε Bool × _) =
        (.ok true, (state, hook.feed (given.map Prod.fst ++ [name]) seen)) := by
  induction offers generalizing seen with
  | nil => exact .inl ⟨trivial, rfl⟩
  | cons offer rest ih =>
    obtain ⟨name, state⟩ := offer
    rw [walk]
    cases answer : (hook name seen).1 with
    | true => exact .inr ⟨[], name, state, rest, rfl, trivial, answer, rfl⟩
    | false =>
      rw [if_neg Bool.false_ne_true]
      obtain ⟨patient, run⟩ | ⟨given, last, state', later, rfl, patient, enough, run⟩ :=
        ih (hook name seen).2
      · exact .inl ⟨⟨answer, patient⟩, run⟩
      · exact .inr ⟨(name, state) :: given, last, state', later, rfl, ⟨answer, patient⟩, enough,
          run⟩

end Hook

/-- What a backend offers: names in order, each with the backend as it is when the name is offered,
and the backend after the last of them. -/
structure Offering (β : Type) where
  backend : β
  offers : List (String × β)
  after : β

namespace Offering

variable {α β : Type}

def names (offering : Offering β) : List String :=
  offering.offers.map Prod.fst

/-- Whoever listens is given just these names, one after the other, up to the first that is
enough. -/
def Honest [NamedDisks β] (offering : Offering β) : Prop :=
  ∀ {ε τ : Type} (hook : Hook τ) (seen : τ),
    (NamedDisks.iterate hook : Action (β × τ) ε Bool) (offering.backend, seen) =
      hook.walk offering.after offering.offers seen

/-- An offering as one of a larger kind. -/
def map (view : α → β) (offering : Offering α) : Offering β where
  backend := view offering.backend
  offers := offering.offers.map fun offer => (offer.1, view offer.2)
  after := view offering.after

theorem walk_map {ε τ : Type} (hook : Hook τ) (view : α → β) (after : α)
    (offers : List (String × α)) (seen : τ) :
    (hook.walk (view after) (offers.map fun offer => (offer.1, view offer.2)) seen :
      Outcome ε Bool × _) =
      ((hook.walk after offers seen : Outcome ε Bool × _).1,
        (view (hook.walk after offers seen : Outcome ε Bool × _).2.1,
          (hook.walk after offers seen : Outcome ε Bool × _).2.2)) := by
  induction offers generalizing seen with
  | nil => rfl
  | cons offer rest ih =>
    rw [List.map_cons, Hook.walk, Hook.walk]
    cases (hook offer.1 seen).1 with
    | true => rfl
    | false => exact ih _

theorem Honest.inl [Backend α] [Backend β] {offering : Offering α} (honest : offering.Honest) :
    (offering.map Sum.inl : Offering (α ⊕ β)).Honest := by
  intro ε τ hook seen
  exact (congrArg (fun run : Outcome ε Bool × (α × τ) => (run.1, (Sum.inl run.2.1, run.2.2)))
    (honest hook seen)).trans (walk_map hook Sum.inl _ _ seen).symm

theorem Honest.inr [Backend α] [Backend β] {offering : Offering β} (honest : offering.Honest) :
    (offering.map Sum.inr : Offering (α ⊕ β)).Honest := by
  intro ε τ hook seen
  exact (congrArg (fun run : Outcome ε Bool × (β × τ) => (run.1, (Sum.inr run.2.1, run.2.2)))
    (honest hook seen)).trans (walk_map hook Sum.inr _ _ seen).symm

/-- What a shelf offers: the names of its disks. -/
def ofShelf (shelf : Shelf) : Offering Shelf where
  backend := shelf
  offers := shelf.diskNames.map fun name => (name, shelf)
  after := shelf

theorem honest_ofShelf (shelf : Shelf) : (ofShelf shelf).Honest := by
  intro ε τ hook seen
  have each : ∀ (names : List String) (seen : τ),
      (Shelf.offerAll hook names : Action (Shelf × τ) ε Bool) (shelf, seen) =
        hook.walk shelf (names.map fun name => (name, shelf)) seen := by
    intro names
    induction names with
    | nil => exact fun _ => rfl
    | cons name rest ih =>
      intro seen
      rw [Shelf.offerAll, Action.bind_apply, Hook.offer, List.map_cons, Hook.walk]
      cases answer : (hook name seen).1 with
      | true => simp only [answer, ↓reduceIte, Action.pure_apply]
      | false =>
        simp only [answer, Bool.false_eq_true, ↓reduceIte]
        exact ih _
  exact each shelf.diskNames seen

/-- What a session offers: the names of the drives that it reaches. -/
def ofSession {σ : Type} (session : Session σ) (reached : List (DriveNumber × Session σ))
    (after : Session σ) : Offering (Session σ) where
  backend := session
  offers := Session.offered session.settings.bootDrive reached
  after := after

/-- What is heard of a sequence of names is what it is walked for. -/
theorem walk_of_heard {σ ε τ : Type} {hook : Hook τ} {offers : List (String × Session σ)}
    {seen last : τ} {calls : List String} {stop : Option (Session σ)} {after : Session σ}
    (heard : Session.Heard hook offers seen calls last stop) :
    (hook.walk after offers seen : Outcome ε Bool × _) =
      ((Session.conclude stop none after).1,
        ((Session.conclude stop none after : Outcome ε Bool × _).2, last)) := by
  induction heard with
  | nothing => rfl
  | enough answer =>
    rw [Hook.walk, answer]
    rfl
  | more answer _ ih =>
    rw [Hook.walk, answer]
    exact ih

/-- A session whose enumeration does not fault offers the names of the drives that it reaches. -/
theorem honest_ofSession {σ : Type} [Firmware σ] {session after : Session σ}
    {reached : List (DriveNumber × Session σ)}
    (enumerated : Session.Enumerated session reached none after) :
    (ofSession session reached after).Honest := by
  intro ε τ hook seen
  obtain ⟨calls, last, stop, heard⟩ :=
    Session.Heard.exists hook (Session.offered session.settings.bootDrive reached) seen
  exact (enumerated.iterate heard).trans (walk_of_heard heard).symm

end Offering

end FirmwareDisk
