import FirmwareDisk.Registry
import FirmwareDisk.Proofs.Backend.Calls

set_option autoImplicit false

namespace FirmwareDisk

namespace Registry

variable {β ε τ α : Type} [Backend β]

/-- The first of some backends with a name, and its place among them. -/
structure FirstNamed (backends : List β) (name : String) (place : Nat) (backend : β) : Prop where
  stands : backends[place]? = some backend
  named : Backend.name backend = name
  first : ∀ earlier < place, ∀ other : β, backends[earlier]? = some other →
    Backend.name other ≠ name

/-- Either a backend is the first with a name, or none has it. -/
theorem firstNamed_or_absent (backends : List β) (name : String) :
    (∃ place backend, FirstNamed backends name place backend) ∨
      ∀ backend ∈ backends, Backend.name backend ≠ name := by
  induction backends with
  | nil => exact .inr fun _ listed => (List.not_mem_nil listed).elim
  | cons head rest ih =>
    by_cases named : Backend.name head = name
    · exact .inl ⟨0, head, rfl, named, fun _ before => (Nat.not_lt_zero _ before).elim⟩
    · cases ih with
      | inl found =>
        obtain ⟨place, backend, stands, bears, first⟩ := found
        refine .inl ⟨place + 1, backend, stands, bears, ?_⟩
        intro earlier before other at_earlier
        cases earlier with
        | zero =>
          cases at_earlier
          exact named
        | succ earlier => exact first earlier (Nat.lt_of_succ_lt_succ before) other at_earlier
      | inr absent =>
        refine .inr ?_
        intro backend listed
        cases listed with
        | head => exact named
        | tail _ listed => exact absent backend listed

/-- A name is looked up from the front. -/
theorem slot?_of_first {backends : List β} {name : String} {place : Nat} {backend : β}
    (first : FirstNamed backends name place backend) :
    slot? name backends =
      some { before := backends.take place, backend, after := backends.drop (place + 1) } := by
  induction backends generalizing place with
  | nil => exact absurd first.stands (by simp)
  | cons head rest ih =>
    cases place with
    | zero =>
      obtain rfl : head = backend := Option.some.inj first.stands
      rw [slot?, if_pos first.named]
      rfl
    | succ place =>
      have other : Backend.name head ≠ name := first.first 0 (Nat.succ_pos _) head rfl
      have later : FirstNamed rest name place backend :=
        ⟨first.stands, first.named, fun earlier before other at_earlier =>
          first.first (earlier + 1) (Nat.succ_lt_succ before) other at_earlier⟩
      rw [slot?, if_neg other, ih later]
      rfl

theorem slot?_of_absent {backends : List β} {name : String}
    (absent : ∀ backend ∈ backends, Backend.name backend ≠ name) : slot? name backends = none := by
  induction backends with
  | nil => rfl
  | cons head rest ih =>
    rw [slot?, if_neg (absent head (List.mem_cons_self ..)),
      ih fun backend listed => absent backend (List.mem_cons_of_mem _ listed)]
    rfl

def put (registry : Registry β) (place : Nat) (backend : β) : Registry β where
  backends := registry.backends.set place backend

omit [Backend β] in
theorem toList_slot {backends : List β} {place : Nat} {backend : β}
    (stands : backends[place]? = some backend) (other : β) :
    Slot.toList
        { before := backends.take place
          backend := other
          after := backends.drop (place + 1) } = backends.set place other := by
  obtain ⟨inside, _⟩ := List.getElem?_eq_some_iff.mp stands
  rw [Slot.toList, List.set_eq_take_append_cons_drop, if_pos inside]

/-- Whatever is done with a handle is done by the backend at a place, as that backend does it, and
all other backends stay as they are. -/
structure Reaches (registry : Registry β) (disk : DiskHandle) (place : Nat) (backend : β) :
    Prop where
  stands : registry.backends[place]? = some backend
  read : ∀ (sector : Nat) (buffer : Bytes),
    Registry.read disk sector { buffer, state := registry } =
      ((NamedDisks.read disk sector { buffer, state := backend }).1,
        { buffer := (NamedDisks.read disk sector { buffer, state := backend }).2.buffer
          state :=
            registry.put place (NamedDisks.read disk sector { buffer, state := backend }).2.state })
  write : ∀ (sector : Nat) (bytes : Bytes),
    Registry.write disk sector bytes registry =
      ((NamedDisks.write disk sector bytes backend).1,
        registry.put place (NamedDisks.write disk sector bytes backend).2)
  close : registry.close disk = registry.put place (NamedDisks.close disk backend)
  serve : ∀ {ε α : Type} (wrap : DiskError → ε) (service : Action (OpenedDisk β) ε α),
    withOpened disk wrap service registry =
      ((service { backend, disk }).1, registry.put place (service { backend, disk }).2.backend)

/-- A handle leads to the first backend of the name that it carries. -/
theorem FirstNamed.reaches {registry : Registry β} {disk : DiskHandle} {place : Nat} {backend : β}
    (first : FirstNamed registry.backends disk.backend place backend) :
    Reaches registry disk place backend := by
  have found := slot?_of_first first
  have inSlot := toList_slot first.stands
  constructor
  case stands => exact first.stands
  case read =>
    intro sector buffer
    simp only [Registry.read, found, inSlot, Registry.put]
  case write =>
    intro sector bytes
    simp only [Registry.write, found, inSlot, Registry.put]
  case close => simp only [Registry.close, found, inSlot, Registry.put]
  case serve =>
    intro ε α wrap service
    simp only [withOpened, found, inSlot, Registry.put]

/-- Every backend is still at its place, whatever was asked of it. -/
def Carried (before after : List β) : Prop :=
  ∀ (place : Nat) (backend : β), before[place]? = some backend →
    ∃ current, after[place]? = some current ∧ Called backend current

namespace Carried

theorem refl (backends : List β) : Carried backends backends :=
  fun _ backend stands => ⟨backend, stands, .start⟩

theorem cons {head head' : β} {rest rest' : List β} (called : Called head head')
    (carried : Carried rest rest') : Carried (head :: rest) (head' :: rest') := by
  intro place backend stands
  cases place with
  | zero =>
    cases stands
    exact ⟨head', rfl, called⟩
  | succ place => exact carried place backend stands

theorem set {backends : List β} {place : Nat} {backend after : β}
    (stands : backends[place]? = some backend) (called : Called backend after) :
    Carried backends (backends.set place after) := by
  intro other current at_other
  by_cases same : place = other
  · subst same
    obtain rfl : backend = current := Option.some.inj (stands.symm.trans at_other)
    obtain ⟨inside, _⟩ := List.getElem?_eq_some_iff.mp stands
    exact ⟨after, List.getElem?_set_self inside, called⟩
  · exact ⟨current, (List.getElem?_set_ne same).trans at_other, .start⟩

end Carried

theorem openFirst_carried (name : String) (backends : List β) :
    Carried backends (openFirst name backends).2 := by
  induction backends with
  | nil => exact .refl []
  | cons head rest ih =>
    have asked : Called head (NamedDisks.openDisk name head).2 := .openDisk .start name
    rw [openFirst]
    split
    · rename_i after answered
      rw [answered] at asked
      exact .cons asked ih
    · rename_i answered
      rw [answered] at asked
      exact .cons asked (.refl rest)

theorem iterateAll_carried (hook : Hook τ) (backends : List β) (seen : τ) :
    Carried backends ((iterateAll hook : Action (List β × τ) ε Bool) (backends, seen)).2.1 := by
  induction backends generalizing seen with
  | nil =>
    rw [iterateAll]
    exact .refl []
  | cons head rest ih =>
    have asked : Called head
        ((NamedDisks.iterate hook : Action (β × τ) ε Bool) (head, seen)).2.1 :=
      .iterate .start hook seen
    rw [iterateAll]
    split
    · rename_i after seen' answered
      rw [answered] at asked
      exact .cons asked (ih seen')
    · rename_i answered
      rw [answered] at asked
      exact .cons asked (.refl rest)

/-- A step of a registry. It takes the place of one backend from before the step to after it. There
is no step that takes that backend out. -/
inductive Step (registry : Registry β) (place : Nat) : Registry β → Nat → Prop
  | add (backend : β) : Step registry place (registry.add backend) place
  | removeNone {name : String}
      (absent : ∀ backend ∈ registry.backends, Backend.name backend ≠ name) :
      Step registry place (registry.remove name).2 place
  | removeBehind {name : String} {first : Nat} {removed : β}
      (found : FirstNamed registry.backends name first removed) (behind : place < first) :
      Step registry place (registry.remove name).2 place
  | removeBefore {name : String} {first : Nat} {removed : β}
      (found : FirstNamed registry.backends name first removed) (before : first < place) :
      Step registry place (registry.remove name).2 (place - 1)
  | iterate {ε τ : Type} (hook : Hook τ) (seen : τ) :
      Step registry place
        ((Registry.iterate hook : Action (Registry β × τ) ε Bool) (registry, seen)).2.1 place
  | openDisk (name : String) : Step registry place (Registry.openDisk name registry).2 place
  | read (disk : DiskHandle) (sector : Nat) (buffer : Bytes) :
      Step registry place (Registry.read disk sector { buffer, state := registry }).2.state place
  | write (disk : DiskHandle) (sector : Nat) (bytes : Bytes) :
      Step registry place (Registry.write disk sector bytes registry).2 place
  | close (disk : DiskHandle) : Step registry place (registry.close disk) place
  | serve {ε α : Type} (disk : DiskHandle) (wrap : DiskError → ε)
      (service : Action (OpenedDisk β) ε α)
      (calls : ∀ opened, Called opened.backend (service opened).2.backend) :
      Step registry place (withOpened disk wrap service registry).2 place

/-- A run of a registry, with the place of one backend from first to last. -/
inductive Follows (registry : Registry β) (place : Nat) : Registry β → Nat → Prop
  | start : Follows registry place registry place
  | step {middle later : Registry β} {between there : Nat}
      (follows : Follows registry place middle between) (step : Step middle between later there) :
      Follows registry place later there

theorem remove_of_first {registry : Registry β} {name : String} {first : Nat} {removed : β}
    (found : FirstNamed registry.backends name first removed) :
    registry.remove name = (some removed, { backends := registry.backends.eraseIdx first }) := by
  simp only [remove, slot?_of_first found, List.eraseIdx_eq_take_drop_succ]

theorem carried_by_handle (registry : Registry β) (disk : DiskHandle) {after : Registry β}
    (lost : slot? disk.backend registry.backends = none → after = registry)
    (done : ∀ place backend, Reaches registry disk place backend →
      ∃ current, Called backend current ∧ after = registry.put place current) :
    Carried registry.backends after.backends := by
  cases firstNamed_or_absent registry.backends disk.backend with
  | inl found =>
    obtain ⟨place, backend, first⟩ := found
    obtain ⟨current, called, rfl⟩ := done place backend first.reaches
    exact .set first.stands called
  | inr absent =>
    rw [lost (slot?_of_absent absent)]
    exact .refl _

/-- After a step, the followed backend is at its new place, whatever was asked of it. -/
theorem Step.called {registry later : Registry β} {place there : Nat}
    (step : Step registry place later there) {backend : β}
    (stands : registry.backends[place]? = some backend) :
    ∃ current, later.backends[there]? = some current ∧ Called backend current := by
  cases step with
  | add added =>
    obtain ⟨inside, _⟩ := List.getElem?_eq_some_iff.mp stands
    exact ⟨backend, (List.getElem?_append_left inside).trans stands, .start⟩
  | removeNone absent =>
    rw [remove, slot?_of_absent absent]
    exact ⟨backend, stands, .start⟩
  | removeBehind found behind =>
    rw [remove_of_first found]
    exact ⟨backend, (List.getElem?_eraseIdx_of_lt behind).trans stands, .start⟩
  | removeBefore found before =>
    rw [remove_of_first found]
    -- Whatever stands behind the backend that goes moves up by one.
    obtain ⟨place, rfl⟩ := Nat.exists_eq_add_one_of_ne_zero (Nat.ne_zero_of_lt before)
    have moved : (registry.backends.eraseIdx _)[place]? = registry.backends[place + 1]? :=
      List.getElem?_eraseIdx_of_ge (Nat.le_of_lt_succ before)
    exact ⟨backend, moved.trans stands, .start⟩
  | iterate hook seen => exact iterateAll_carried hook registry.backends seen place backend stands
  | openDisk name => exact openFirst_carried name registry.backends place backend stands
  | read disk sector buffer =>
    apply carried_by_handle registry disk _ _ place backend stands
    · intro lost
      rw [Registry.read, lost]
    · intro reached asked reaches
      exact ⟨_, .read .start disk sector buffer, by rw [reaches.read]⟩
  | write disk sector bytes =>
    apply carried_by_handle registry disk _ _ place backend stands
    · intro lost
      rw [Registry.write, lost]
    · intro reached asked reaches
      exact ⟨_, .write .start disk sector bytes, by rw [reaches.write]⟩
  | close disk =>
    apply carried_by_handle registry disk _ _ place backend stands
    · intro lost
      rw [Registry.close, lost]
    · intro reached asked reaches
      exact ⟨_, .close .start disk, reaches.close⟩
  | serve disk wrap service calls =>
    apply carried_by_handle registry disk _ _ place backend stands
    · intro lost
      rw [withOpened, lost]
    · intro reached asked reaches
      exact ⟨_, calls { backend := asked, disk }, by rw [reaches.serve]⟩

/-- After a run, the followed backend is at its last place, whatever was asked of it. -/
theorem Follows.called {registry later : Registry β} {place there : Nat}
    (follows : Follows registry place later there) {backend : β}
    (stands : registry.backends[place]? = some backend) :
    ∃ current, later.backends[there]? = some current ∧ Called backend current := by
  induction follows with
  | start => exact ⟨backend, stands, .start⟩
  | step _ step ih =>
    obtain ⟨between, at_middle, before⟩ := ih
    obtain ⟨current, at_end, after⟩ := step.called at_middle
    exact ⟨current, at_end, before.trans after⟩

/-- The backend at a place opens a disk, and no backend before it knows the name. -/
structure Opens (backends : List β) (name : String) (place : Nat) (backend : β)
    (disk : DiskHandle) : Prop where
  stands : backends[place]? = some backend
  opens : (NamedDisks.openDisk name backend).1 = .ok disk
  passed : ∀ earlier < place, ∀ other : β, backends[earlier]? = some other →
    ∃ unknown, (NamedDisks.openDisk name other).1 = .error (.unknownDevice unknown)

/-- A disk that is opened is opened by one of the backends. -/
theorem openFirst_opens {name : String} {disk : DiskHandle} {backends after : List β}
    (opened : openFirst name backends = (.ok disk, after)) :
    ∃ place backend, Opens backends name place backend disk ∧
      after[place]? = some (NamedDisks.openDisk name backend).2 := by
  induction backends generalizing after with
  | nil => cases opened
  | cons head rest ih =>
    rw [openFirst] at opened
    split at opened
    · rename_i unknown asked answered
      obtain ⟨rest_opened, rfl⟩ := Prod.mk.inj opened
      obtain ⟨place, backend, opens, at_place⟩ := ih (Prod.ext rest_opened rfl)
      refine ⟨place + 1, backend, ⟨opens.stands, opens.opens, ?_⟩, at_place⟩
      intro earlier before other at_earlier
      cases earlier with
      | zero =>
        cases at_earlier
        exact ⟨unknown, by rw [answered]⟩
      | succ earlier =>
        exact opens.passed earlier (Nat.lt_of_succ_lt_succ before) other at_earlier
    · rename_i answered
      obtain ⟨rfl, rfl⟩ := Prod.mk.inj opened
      refine ⟨0, head, ⟨rfl, by rw [answered], ?_⟩, by rw [answered]; rfl⟩
      exact fun _ before => (Nat.not_lt_zero _ before).elim

/-- A disk that was opened belongs to the backend at some place, which is followed from there on
through any later run. While that backend has the name that the handle carries and none before it
has, whatever is done with the handle is done by it, and by no other; if one before it has that
name, the first of them does it instead. A truthful backend has the name at any time. -/
theorem openDisk_leads_back {registry after : Registry β} {name : String} {disk : DiskHandle}
    (opened : Registry.openDisk name registry = (.ok disk, after)) :
    ∃ place backend, Opens registry.backends name place backend disk ∧
      ∀ (later : Registry β) (there : Nat), Follows after place later there →
        ∃ current, later.backends[there]? = some current ∧ Called backend current ∧
          (Truthful β → Backend.name current = disk.backend) ∧
          (Backend.name current = disk.backend →
            (∀ earlier < there, ∀ other : β, later.backends[earlier]? = some other →
              Backend.name other ≠ disk.backend) → Reaches later disk there current) ∧
          (∀ earlier < there, ∀ other : β,
            FirstNamed later.backends disk.backend earlier other →
              Reaches later disk earlier other) := by
  obtain ⟨inner, found, rfl⟩ := Action.onPart_eq_ok.mp opened
  obtain ⟨place, backend, opens, at_place⟩ := openFirst_opens found
  refine ⟨place, backend, opens, ?_⟩
  intro later there follows
  obtain ⟨current, at_end, called⟩ := follows.called at_place
  have calls : Called backend current := Called.trans (.openDisk .start name) called
  refine ⟨current, at_end, calls, ?_, ?_, ?_⟩
  · intro truthful
    rw [truthful.name_eq calls, truthful.signs opens.opens]
  · intro named unshadowed
    exact FirstNamed.reaches ⟨at_end, named, unshadowed⟩
  · intro earlier _ other first
    exact first.reaches

/-- A shelf with one empty disk of one sector. -/
def shelfOf (name stem : String) : Shelf where
  name := name
  stem := stem
  media := [{ store := .memory { totalSectors := 1 } }]

/-- The handle of the disk on such a shelf. -/
def handleOf (shelf disk : String) : DiskHandle where
  name := disk
  backend := shelf
  id := 0
  totalSectors := 1
  hasPartitions := true

/-- The second of two shelves opens a disk. When the first shelf is taken out, the second moves up,
and the handle still leads to it. -/
theorem openDisk_leads_back_after_removal :
    ∃ after, Registry.openDisk "rd0" { backends := [shelfOf "first" "md", shelfOf "second" "rd"] } =
        (.ok (handleOf "second" "rd0"), after) ∧
      Reaches (after.remove "first").2 (handleOf "second" "rd0") 0
        ((shelfOf "second" "rd").note (.asked "rd0")) := by
  have opened : Registry.openDisk "rd0"
      { backends := [shelfOf "first" "md", shelfOf "second" "rd"] } =
        (.ok (handleOf "second" "rd0"), {
          backends := [(shelfOf "first" "md").note (.asked "rd0"),
            (shelfOf "second" "rd").note (.asked "rd0")] }) := rfl
  refine ⟨_, opened, ?_⟩
  obtain ⟨place, backend, opens, leads⟩ := openDisk_leads_back opened
  cases place with
  | zero =>
    cases opens.stands
    cases opens.opens
  | succ place =>
    cases place with
    | zero =>
      have first : FirstNamed [(shelfOf "first" "md").note (.asked "rd0"),
          (shelfOf "second" "rd").note (.asked "rd0")] "first" 0
            ((shelfOf "first" "md").note (.asked "rd0")) :=
        ⟨rfl, rfl, fun _ before => (Nat.not_lt_zero _ before).elim⟩
      obtain ⟨current, stands, _, _, reaches, _⟩ :=
        leads _ _ (.step .start (.removeBefore first (by decide)))
      cases stands
      exact reaches rfl fun _ before => (Nat.not_lt_zero _ before).elim
    | succ place => cases opens.stands

/-- Two shelves of one name. The second opens a disk, but its handle leads to the first: what is
written through it is read back from the disk of the first shelf, and the second stays as it is. -/
theorem openDisk_leads_astray :
    ∃ opened written,
      Registry.openDisk "b0" { backends := [shelfOf "mem" "a", shelfOf "mem" "b"] } =
        (.ok (handleOf "mem" "b0"), opened) ∧
      Opens [shelfOf "mem" "a", shelfOf "mem" "b"] "b0" 1 (shelfOf "mem" "b")
        (handleOf "mem" "b0") ∧
      Registry.write (handleOf "mem" "b0") 0 (List.replicate 512 0x5a) opened =
        (.ok (), written) ∧
      written.backends[1]? = opened.backends[1]? ∧
      (Registry.read (handleOf "mem" "a0") 0
        { buffer := Bytes.zeros 512, state := written }).2.buffer = List.replicate 512 0x5a := by
  have opens : Opens [shelfOf "mem" "a", shelfOf "mem" "b"] "b0" 1 (shelfOf "mem" "b")
      (handleOf "mem" "b0") := by
    refine ⟨rfl, rfl, ?_⟩
    intro earlier before other stands
    obtain rfl : earlier = 0 := Nat.lt_one_iff.mp before
    cases stands
    exact ⟨"b0", rfl⟩
  have astray : Reaches
      { backends := [(shelfOf "mem" "a").note (.asked "b0"),
          (shelfOf "mem" "b").note (.asked "b0")] }
      (handleOf "mem" "b0") 0 ((shelfOf "mem" "a").note (.asked "b0")) :=
    FirstNamed.reaches ⟨rfl, rfl, fun _ before => (Nat.not_lt_zero _ before).elim⟩
  have granted : (NamedDisks.write (handleOf "mem" "b0") 0 (List.replicate 512 0x5a)
      ((shelfOf "mem" "a").note (.asked "b0"))).1 = .ok () := by decide +kernel
  have written := astray.write 0 (List.replicate 512 0x5a)
  rw [granted] at written
  refine ⟨_, _, rfl, opens, written, ?_, ?_⟩
  · exact List.getElem?_set_ne (by decide)
  · decide +kernel

end Registry

end FirmwareDisk
