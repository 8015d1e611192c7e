import FirmwareDisk.Registry
import FirmwareDisk.Proofs.Backend.Offerings

set_option autoImplicit false

namespace FirmwareDisk

namespace Registry

variable {β ε τ : Type} [Backend β]

/-- The backend does not know the name. -/
def Passes (name : String) (backend : β) : Prop :=
  ∃ unknown, (NamedDisks.openDisk name backend).1 = .error (.unknownDevice unknown)

def asked (name : String) (backend : β) : β :=
  (NamedDisks.openDisk name backend).2

theorem openFirst_cons_of_passes {name : String} {backend : β} (passes : Passes name backend)
    (rest : List β) :
    openFirst name (backend :: rest) =
      ((openFirst name rest).1, asked name backend :: (openFirst name rest).2) := by
  obtain ⟨unknown, answer⟩ := passes
  rw [openFirst, asked, show NamedDisks.openDisk name backend =
    (.error (.unknownDevice unknown), (NamedDisks.openDisk name backend).2) from Prod.ext answer rfl]

theorem openFirst_cons_of_knows {name : String} {backend : β} (knows : ¬Passes name backend)
    (rest : List β) :
    openFirst name (backend :: rest) =
      ((NamedDisks.openDisk name backend).1, asked name backend :: rest) := by
  rw [openFirst, asked]
  split
  · rename_i unknown after answer
    exact absurd ⟨unknown, congrArg Prod.fst answer⟩ knows
  · rename_i answer
    rw [answer]

/-- Either some backend is the first that knows a name, and it answers for the registry, or none
does. -/
theorem openFirst_cases (name : String) (backends : List β) :
    (∃ front backend rest, backends = front ++ backend :: rest ∧
      (∀ earlier ∈ front, Passes name earlier) ∧ ¬Passes name backend ∧
      openFirst name backends =
        ((NamedDisks.openDisk name backend).1,
          front.map (asked name) ++ asked name backend :: rest)) ∨
    (∀ backend ∈ backends, Passes name backend) ∧
      openFirst name backends = (.error (.unknownDevice name), backends.map (asked name)) := by
  induction backends with
  | nil => exact .inr ⟨fun _ listed => (List.not_mem_nil listed).elim, rfl⟩
  | cons backend rest ih =>
    by_cases passes : Passes name backend
    · rw [openFirst_cons_of_passes passes]
      obtain ⟨front, knowing, behind, rfl, before, knows, run⟩ | ⟨all, run⟩ := ih
      · refine .inl ⟨backend :: front, knowing, behind, rfl, ?_, knows, by rw [run]; rfl⟩
        exact List.forall_mem_cons.mpr ⟨passes, before⟩
      · exact .inr ⟨List.forall_mem_cons.mpr ⟨passes, all⟩, by rw [run]; rfl⟩
    · exact .inl ⟨[], backend, rest, rfl, fun _ listed => (List.not_mem_nil listed).elim, passes,
        openFirst_cons_of_knows passes rest⟩

/-- Backends that are enumerated one after the other, none of which offers a name that is enough.
What the caller has seen goes from one to the next. -/
inductive Exhausted (ε : Type) (hook : Hook τ) : List β → τ → List β → τ → Prop where
  | none (seen : τ) : Exhausted ε hook [] seen [] seen
  | more {backend after : β} {rest rest' : List β} {seen middle last : τ}
      (answer : (NamedDisks.iterate hook : Action (β × τ) ε Bool) (backend, seen) =
        (.ok false, (after, middle)))
      (exhausted : Exhausted ε hook rest middle rest' last) :
      Exhausted ε hook (backend :: rest) seen (after :: rest') last

/-- Either some backend is the first whose enumeration ends otherwise than with "none was enough",
and then so does the registry's, or there is none. -/
theorem iterateAll_cases (hook : Hook τ) (backends : List β) (seen : τ) :
    (∃ front front' middle backend rest outcome after last, backends = front ++ backend :: rest ∧
      Exhausted ε hook front seen front' middle ∧
      (NamedDisks.iterate hook : Action (β × τ) ε Bool) (backend, middle) =
        (outcome, (after, last)) ∧
      outcome ≠ .ok false ∧
      iterateAll hook (backends, seen) = (outcome, (front' ++ after :: rest, last))) ∨
    ∃ after last, Exhausted ε hook backends seen after last ∧
      (iterateAll hook : Action (List β × τ) ε Bool) (backends, seen) =
        (.ok false, (after, last)) := by
  induction backends generalizing seen with
  | nil => exact .inr ⟨[], seen, .none seen, by rw [iterateAll]⟩
  | cons backend rest ih =>
    rw [iterateAll]
    split
    · rename_i after middle answer
      obtain ⟨front, front', between, ending, behind, outcome, left, last, rfl, exhausted, run, other,
        whole⟩ | ⟨rest', last, exhausted, whole⟩ := ih middle
      · refine .inl ⟨backend :: front, after :: front', between, ending, behind, outcome, left, last,
          rfl, .more answer exhausted, run, other, ?_⟩
        rw [whole]
        rfl
      · refine .inr ⟨after :: rest', last, .more answer exhausted, ?_⟩
        rw [whole]
    · rename_i outcome after last other answer
      refine .inl ⟨[], [], seen, backend, rest, outcome, after, last, rfl, .none seen, answer, ?_,
        rfl⟩
      rintro rfl
      exact other rfl

/-- Backends that offer names of their own offer them one backend after the other. -/
theorem iterateAll_offers (sources : List (Offering β))
    (honest : ∀ source ∈ sources, source.Honest) (hook : Hook τ) (seen : τ) :
    (hook.Patient (sources.flatMap Offering.names) seen ∧
      (iterateAll hook : Action (List β × τ) ε Bool) (sources.map Offering.backend, seen) =
        (.ok false,
          (sources.map Offering.after, hook.feed (sources.flatMap Offering.names) seen))) ∨
    ∃ front source rest given name state later, sources = front ++ source :: rest ∧
      source.offers = given ++ (name, state) :: later ∧
      let heard := front.flatMap Offering.names ++ given.map Prod.fst
      hook.Patient heard seen ∧ (hook name (hook.feed heard seen)).1 = true ∧
      (iterateAll hook : Action (List β × τ) ε Bool) (sources.map Offering.backend, seen) =
        (.ok true, (front.map Offering.after ++ state :: rest.map Offering.backend,
          hook.feed (heard ++ [name]) seen)) := by
  induction sources generalizing seen with
  | nil => exact .inl ⟨trivial, by rw [List.map_nil, iterateAll]; rfl⟩
  | cons source rest ih =>
    have own : (NamedDisks.iterate hook : Action (β × τ) ε Bool) (source.backend, seen) = _ :=
      honest source List.mem_cons_self hook seen
    have others := ih fun other member => honest other (List.mem_cons_of_mem _ member)
    rw [List.map_cons, iterateAll, own]
    obtain ⟨patient, run⟩ | ⟨given, name, state, later, offers, patient, enough, run⟩ :=
      hook.walk_cases (ε := ε) source.after source.offers seen
    · -- None of its own names was enough, so that the backends behind it come next.
      rw [run]
      simp only
      obtain ⟨still, whole⟩ | ⟨front, ending, behind, given, name, state, later, rfl, offers, still,
        enough, whole⟩ := others (hook.feed source.names seen)
      · refine .inl ⟨?_, ?_⟩
        · rw [List.flatMap_cons, hook.patient_append]
          exact ⟨patient, still⟩
        · rw [show hook.feed (source.offers.map Prod.fst) seen = hook.feed source.names seen from rfl,
            whole, List.flatMap_cons, hook.feed_append]
          rfl
      · refine .inr ⟨source :: front, ending, behind, given, name, state, later, rfl, offers, ?_⟩
        simp only [List.flatMap_cons, List.append_assoc, hook.patient_append source.names,
          hook.feed_append source.names]
        rw [← List.append_assoc]
        refine ⟨⟨patient, still⟩, enough, ?_⟩
        rw [show hook.feed (source.offers.map Prod.fst) seen = hook.feed source.names seen from rfl,
          whole]
        rfl
    · exact .inr ⟨[], source, rest, given, name, state, later, rfl, offers, patient, enough, by
        rw [run]; rfl⟩

/-- How a registry answers, for backends of any kind. A name is opened by the first backend that does
not call it an unknown device, whatever that one answers: each backend before it and it itself have
been asked once, and those behind it are as they were; if all call it unknown, so does the registry.
An enumeration goes from one backend to the next with what the caller has seen, as long as each tells
that no name was enough, and the first that ends otherwise ends it. Where the backends offer names of
their own, the caller is given these one backend after the other, up to the first that is enough, and
is told that there was one just then. -/
theorem asks_in_turn {β : Type} [Backend β] :
    (∀ (name : String) (backends : List β),
      (∃ front backend rest, backends = front ++ backend :: rest ∧
        (∀ earlier ∈ front, Passes name earlier) ∧ ¬Passes name backend ∧
        Registry.openDisk name { backends } =
          ((NamedDisks.openDisk name backend).1,
            { backends := front.map (asked name) ++ asked name backend :: rest })) ∨
      (∀ backend ∈ backends, Passes name backend) ∧
        Registry.openDisk name { backends } =
          (.error (.unknownDevice name), { backends := backends.map (asked name) })) ∧
    (∀ {ε τ : Type} (hook : Hook τ) (backends : List β) (seen : τ),
      (∃ front front' middle backend rest outcome after last,
        backends = front ++ backend :: rest ∧ Exhausted ε hook front seen front' middle ∧
        (NamedDisks.iterate hook : Action (β × τ) ε Bool) (backend, middle) =
          (outcome, (after, last)) ∧
        outcome ≠ .ok false ∧
        Registry.iterate hook ({ backends }, seen) =
          (outcome, ({ backends := front' ++ after :: rest }, last))) ∨
      ∃ after last, Exhausted ε hook backends seen after last ∧
        (Registry.iterate hook : Action (Registry β × τ) ε Bool) ({ backends }, seen) =
          (.ok false, ({ backends := after }, last))) ∧
    ∀ {ε τ : Type} (sources : List (Offering β)), (∀ source ∈ sources, source.Honest) →
      ∀ (hook : Hook τ) (seen : τ),
        let run : Outcome ε Bool × (Registry β × τ) :=
          Registry.iterate hook ({ backends := sources.map Offering.backend }, seen)
        (hook.Patient (sources.flatMap Offering.names) seen ∧
          run = (.ok false, ({ backends := sources.map Offering.after },
            hook.feed (sources.flatMap Offering.names) seen))) ∨
        ∃ front source rest given name state later, sources = front ++ source :: rest ∧
          source.offers = given ++ (name, state) :: later ∧
          let heard := front.flatMap Offering.names ++ given.map Prod.fst
          hook.Patient heard seen ∧ (hook name (hook.feed heard seen)).1 = true ∧
          run = (.ok true,
            ({ backends := front.map Offering.after ++ state :: rest.map Offering.backend },
              hook.feed (heard ++ [name]) seen)) := by
  refine ⟨fun name backends => ?_, fun {ε τ} hook backends seen => ?_,
    fun {ε τ} sources honest hook seen => ?_⟩
  · obtain ⟨front, backend, rest, parts, before, knows, run⟩ | ⟨all, run⟩ :=
      openFirst_cases name backends
    · refine .inl ⟨front, backend, rest, parts, before, knows, ?_⟩
      rw [Registry.openDisk, Action.onPart, run]
    · refine .inr ⟨all, ?_⟩
      rw [Registry.openDisk, Action.onPart, run]
  · obtain ⟨front, front', middle, backend, rest, outcome, after, last, parts, exhausted, answer,
      other, run⟩ | ⟨after, last, exhausted, run⟩ := iterateAll_cases (ε := ε) hook backends seen
    · refine .inl ⟨front, front', middle, backend, rest, outcome, after, last, parts, exhausted,
        answer, other, ?_⟩
      rw [Registry.iterate, Action.onPart, run]
    · refine .inr ⟨after, last, exhausted, ?_⟩
      rw [Registry.iterate, Action.onPart, run]
  · intro run
    obtain ⟨patient, all⟩ | ⟨front, source, rest, given, name, state, later, parts, offers, patient,
      enough, stopped⟩ := iterateAll_offers (ε := ε) sources honest hook seen
    · refine .inl ⟨patient, ?_⟩
      simp only [run, Registry.iterate, Action.onPart, all]
    · refine .inr ⟨front, source, rest, given, name, state, later, parts, offers, patient, enough, ?_⟩
      simp only [run, Registry.iterate, Action.onPart, stopped]

/-- A shelf with two empty disks of one sector. -/
def pairOf (stem : String) : Shelf where
  name := stem
  stem := stem
  media := List.replicate 2 { store := .memory { totalSectors := 1 } }

/-- A caller that waits for the second disk of the first shelf hears of both its disks, and the second
shelf is not asked. -/
theorem asks_in_turn_shelves :
    ∃ front source rest given name state later,
      [Offering.ofShelf (pairOf "md"), Offering.ofShelf (pairOf "rd")] = front ++ source :: rest ∧
      source.offers = given ++ (name, state) :: later ∧
      (Registry.iterate (.collecting (· == "md1")) ({ backends := [pairOf "md", pairOf "rd"] }, []) :
          Outcome DiskError Bool × (Registry Shelf × List String)) =
        (.ok true,
          ({ backends := front.map Offering.after ++ state :: rest.map Offering.backend },
            ["md1", "md0"])) := by
  have honest : ∀ source ∈ [Offering.ofShelf (pairOf "md"), Offering.ofShelf (pairOf "rd")],
      source.Honest := by
    intro source member
    obtain ⟨shelf, -, rfl⟩ :
        ∃ shelf ∈ [pairOf "md", pairOf "rd"], Offering.ofShelf shelf = source :=
      List.mem_map.mp member
    exact Offering.honest_ofShelf shelf
  have impatient : ¬(Hook.collecting (· == "md1")).Patient ["md0", "md1", "rd0", "rd1"] [] := by
    rintro ⟨-, waits, -⟩
    exact absurd waits (by decide)
  have heard : (Registry.iterate (.collecting (· == "md1"))
      ({ backends := [pairOf "md", pairOf "rd"] }, []) :
        Outcome DiskError Bool × (Registry Shelf × List String)).2.2 = ["md1", "md0"] := by
    decide +kernel
  obtain ⟨patient, -⟩ | ⟨front, source, rest, given, name, state, later, parts, offers, -, -, run⟩ :=
    asks_in_turn.2.2 (ε := DiskError) _ honest (.collecting (· == "md1")) []
  · exact absurd patient impatient
  · refine ⟨front, source, rest, given, name, state, later, parts, offers, ?_⟩
    have seen := (congrArg (fun run => run.2.2) run).symm.trans heard
    exact run.trans (Prod.ext rfl (Prod.ext rfl seen))

/-- A disk that the first shelf cannot open is not looked for on the second. -/
example :
    let shelf : Shelf :=
      { name := "rd", stem := "rd", media := [{ store := .memory { totalSectors := 1 } }] }
    Registry.openDisk "rd0" { backends := [{ shelf with broken := ["rd0"] }, shelf] } =
      (.error (.unreachable "rd0"), {
        backends := [{ shelf with broken := ["rd0"], events := [.asked "rd0"] }, shelf] }) := rfl

end Registry

end FirmwareDisk
