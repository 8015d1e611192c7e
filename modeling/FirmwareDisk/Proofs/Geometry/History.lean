import FirmwareDisk.Proofs.Geometry.Cache
import Mathlib.Data.List.Nodup
import Mathlib.Data.Set.Card

set_option autoImplicit false

namespace FirmwareDisk

/-- A change of a record that keeps its drive. -/
structure Amendment where
  apply : Geometry → Geometry
  keeps : ∀ record, (apply record).drive = record.drive

namespace GeometryCache

/-- What a table is asked. -/
inductive Call where
  | insert (record : Geometry)
  | get (drive : DriveNumber)
  | amend (drive : DriveNumber) (amendment : Amendment)
  | take (drive : DriveNumber)

namespace Call

def drive : Call → DriveNumber
  | .insert record => record.drive
  | .get drive | .amend drive _ | .take drive => drive

/-- Makes a call. An insertion answers with the record that the table has afterwards, any other call
with the one that it had before. -/
def run : Call → GeometryCache → Option Geometry × GeometryCache
  | .insert record, table => ((table.insert record).get? record.drive, table.insert record)
  | .get drive, table => (table.get? drive, table)
  | .amend drive amendment, table => (table.get? drive, table.modify drive amendment.apply)
  | .take drive, table => table.take drive

/-- The record that a drive has after a call that is about it. -/
def settle : Call → Option Geometry → Option Geometry
  | .insert record, _ => some record
  | .get _, known => known
  | .amend _ amendment, known => known.map amendment.apply
  | .take _, _ => none

def answer : Call → Option Geometry → Option Geometry
  | .insert record, _ => some record
  | .get _, known | .amend _ _, known | .take _, known => known

/-- The drives that have a record after a call, from those before it, in the order in which they got
it. -/
def enroll (drives : List DriveNumber) : Call → List DriveNumber
  | .insert record => if record.drive ∈ drives then drives else drives ++ [record.drive]
  | .get _ | .amend _ _ => drives
  | .take taken => drives.erase taken

end Call

/-- What a call does to a list of records. Its drive has its record changed, replaced or removed
where it stands, or gets one at the end. All others are left as they are, in their order. -/
inductive Effect (call : Call) (records : List Geometry) :
    Option Geometry → List Geometry → Prop where
  | present {front back : List Geometry} {known : Geometry}
      (split : records = front ++ known :: back) (same : known.drive = call.drive)
      (others : ∀ other ∈ front ++ back, other.drive ≠ call.drive) :
      Effect call records (call.answer (some known))
        (front ++ ((call.settle (some known)).toList ++ back))
  | absent (others : ∀ other ∈ records, other.drive ≠ call.drive) :
      Effect call records (call.answer none) (records ++ (call.settle none).toList)

def after (calls : List Call) (table : GeometryCache) : GeometryCache :=
  calls.foldl (fun table call => (call.run table).2) table

variable {table : GeometryCache} {record : Geometry} {drive : DriveNumber}

/-- Either the record of a drive stands in a table, with others before and behind it, or the drive
has none. -/
theorem Distinct.stands_or_absent (distinct : table.Distinct) (drive : DriveNumber) :
    (∃ front known back, table.records = front ++ known :: back ∧ known.drive = drive ∧
      ∀ other ∈ front ++ back, other.drive ≠ drive) ∨
    ∀ other ∈ table.records, other.drive ≠ drive := by
  cases look : table.get? drive with
  | none =>
    rw [get?, List.find?_eq_none] at look
    refine Or.inr fun other member => ?_
    have apart := look other member
    rwa [decide_eq_true_eq] at apart
  | some known =>
    obtain ⟨member, same⟩ := get?_some look
    obtain ⟨front, back, split⟩ := List.append_of_mem member
    refine Or.inl ⟨front, known, back, split, same, fun other elsewhere again => ?_⟩
    rw [Distinct, split, List.map_append, List.map_cons, List.nodup_middle, List.nodup_cons,
      ← List.map_append] at distinct
    exact distinct.1 (List.mem_map.mpr ⟨other, elsewhere, again.trans same.symm⟩)

theorem run_present {call : Call} {front back : List Geometry} {known : Geometry}
    (split : table.records = front ++ known :: back) (same : known.drive = call.drive)
    (before : ∀ other ∈ front, other.drive ≠ call.drive) :
    (call.run table).1 = call.answer (some known) ∧
      (call.run table).2.records = front ++ ((call.settle (some known)).toList ++ back) := by
  have look := get?_present split same before
  cases call with
  | insert record =>
    refine ⟨get?_insert_own rfl, ?_⟩
    rw [Call.run, insert, split, placed_present same before]
    rfl
  | get drive => exact ⟨look, split⟩
  | amend drive amendment =>
    refine ⟨look, ?_⟩
    have kept : (amendment.apply known).drive = drive := (amendment.keeps known).trans same
    rw [Call.run, modify, show table.get? drive = some known from look]
    simp only [insert, split]
    exact placed_present (same.trans kept.symm) (by rwa [kept])
  | take drive =>
    rw [Call.run, take_eq]
    exact ⟨look, erase_present split same before⟩

theorem run_absent {call : Call} (absent : ∀ other ∈ table.records, other.drive ≠ call.drive) :
    (call.run table).1 = call.answer none ∧
      (call.run table).2.records = table.records ++ (call.settle none).toList := by
  have look := get?_absent absent
  cases call with
  | insert record =>
    refine ⟨get?_insert_own rfl, ?_⟩
    rw [Call.run, insert, placed_absent absent]
    rfl
  | get drive => exact ⟨look, (List.append_nil _).symm⟩
  | amend drive amendment =>
    refine ⟨look, ?_⟩
    rw [Call.run, modify, show table.get? drive = none from look]
    exact (List.append_nil _).symm
  | take drive =>
    have still : table.erase drive = table := erase_absent absent
    rw [Call.run, take_eq, still]
    exact ⟨look, (List.append_nil _).symm⟩

theorem Distinct.effect (distinct : table.Distinct) (call : Call) :
    Effect call table.records (call.run table).1 (call.run table).2.records := by
  rcases distinct.stands_or_absent call.drive with
    ⟨front, known, back, split, same, others⟩ | absent
  · obtain ⟨answer, records⟩ := run_present split same
      fun other member => others other (List.mem_append_left back member)
    rw [answer, records]
    exact .present split same others
  · obtain ⟨answer, records⟩ := run_absent absent
    rw [answer, records]
    exact .absent absent

theorem Call.enroll_present {call : Call} {front back : List DriveNumber} {known : Geometry}
    (same : known.drive = call.drive) (unlisted : call.drive ∉ front) :
    call.enroll (front ++ known.drive :: back) =
      front ++ ((call.settle (some known)).toList.map Geometry.drive ++ back) := by
  rw [same]
  cases call with
  | insert record => exact if_pos (List.mem_append_right front List.mem_cons_self)
  | get asked => exact congrArg (fun drive => front ++ drive :: back) same.symm
  | amend changed amendment =>
    exact congrArg (fun drive => front ++ drive :: back) ((amendment.keeps known).trans same).symm
  | take taken =>
    have elsewhere : taken ∉ front := unlisted
    rw [enroll, Call.drive, List.erase_append_right _ elsewhere, List.erase_cons_head]
    rfl

theorem Call.enroll_absent {call : Call} {drives : List DriveNumber}
    (unlisted : call.drive ∉ drives) :
    call.enroll drives = drives ++ (call.settle none).toList.map Geometry.drive := by
  cases call with
  | insert record => exact if_neg unlisted
  | get asked => exact (List.append_nil _).symm
  | amend changed amendment => exact (List.append_nil _).symm
  | take taken => exact (List.erase_of_not_mem unlisted).trans (List.append_nil _).symm

/-- The drives of a table stand in the order in which they got their records. -/
theorem Distinct.drives_run (distinct : table.Distinct) (call : Call) :
    (call.run table).2.records.map Geometry.drive =
      call.enroll (table.records.map Geometry.drive) := by
  have unlisted : ∀ records : List Geometry, (∀ other ∈ records, other.drive ≠ call.drive) →
      call.drive ∉ records.map Geometry.drive := by
    intro records apart listed
    obtain ⟨other, member, same⟩ := List.mem_map.mp listed
    exact apart other member same
  rcases distinct.stands_or_absent call.drive with
    ⟨front, known, back, split, same, others⟩ | absent
  · have before : ∀ other ∈ front, other.drive ≠ call.drive :=
      fun other member => others other (List.mem_append_left back member)
    rw [(run_present split same before).2, split, List.map_append, List.map_append, List.map_append,
      List.map_cons, Call.enroll_present same (unlisted front before)]
  · rw [(run_absent absent).2, List.map_append, Call.enroll_absent (unlisted _ absent)]

theorem Distinct.run (distinct : table.Distinct) (call : Call) :
    (call.run table).2.Distinct := by
  cases call with
  | insert record => exact distinct.insert record
  | get drive => exact distinct
  | amend drive amendment => exact distinct.modify drive
  | take drive =>
    rw [Call.run, take_eq]
    exact distinct.erase drive

theorem Distinct.after_calls (distinct : table.Distinct) (calls : List Call) :
    (after calls table).Distinct := by
  induction calls generalizing table with
  | nil => exact distinct
  | cons call rest ih => exact ih (distinct.run call)

theorem Distinct.drives_after (distinct : table.Distinct) (calls : List Call) :
    (after calls table).records.map Geometry.drive =
      calls.foldl Call.enroll (table.records.map Geometry.drive) := by
  induction calls generalizing table with
  | nil => rfl
  | cons call rest ih =>
    rw [List.foldl_cons, ← distinct.drives_run call]
    exact ih (distinct.run call)

theorem empty_distinct : Distinct {} :=
  List.nodup_nil

/-- For every drive, a call settles what is found, or leaves it. -/
theorem Distinct.get?_run (distinct : table.Distinct) (call : Call) (drive : DriveNumber) :
    (call.run table).2.get? drive =
      if call.drive = drive then call.settle (table.get? drive) else table.get? drive := by
  cases call with
  | insert record => exact get?_insert table record drive
  | get asked => exact (ite_self _).symm
  | amend changed amendment => exact get?_modify amendment.keeps table changed drive
  | take taken =>
    rw [Call.run, take_eq, Call.drive]
    split
    · rename_i same
      rw [← same]
      exact distinct.get?_erase taken
    · rename_i apart
      exact get?_erase_of_ne table apart

section History

/-- Whether a call decides on the record of a drive, whatever it was. -/
def Call.Decides (drive : DriveNumber) : Call → Prop
  | .insert record => record.drive = drive
  | .take taken => taken = drive
  | .get _ | .amend _ _ => False

def Call.amended (drive : DriveNumber) (record : Geometry) : Call → Geometry
  | .amend changed amendment => if changed = drive then amendment.apply record else record
  | .insert _ | .get _ | .take _ => record

/-- What is known of a drive after some calls, starting with nothing. -/
inductive Remembered (drive : DriveNumber) (calls : List Call) : Option Geometry → Prop where
  | inserted {front back : List Call} {record : Geometry}
      (split : calls = front ++ .insert record :: back) (same : record.drive = drive)
      (since : ∀ call ∈ back, ¬ call.Decides drive) :
      Remembered drive calls (some (back.foldl (Call.amended drive) record))
  | nothing (taken : ∀ front record back, calls = front ++ .insert record :: back →
      record.drive = drive → .take drive ∈ back) : Remembered drive calls none

variable {calls : List Call}

@[simp] theorem after_cons (call : Call) (rest : List Call) (table : GeometryCache) :
    after (call :: rest) table = after rest (call.run table).2 := rfl

theorem after_append (front back : List Call) (table : GeometryCache) :
    after (front ++ back) table = after back (after front table) := List.foldl_append

theorem Distinct.get?_run_undecided (distinct : table.Distinct) {call : Call}
    (undecided : ¬ call.Decides drive) :
    (call.run table).2.get? drive = (table.get? drive).map fun record =>
      call.amended drive record := by
  rw [distinct.get?_run]
  cases call with
  | insert record =>
    have apart : ¬ record.drive = drive := undecided
    rw [Call.drive, if_neg apart]
    exact Option.map_id'.symm
  | get asked =>
    rw [Call.settle, ite_self]
    exact Option.map_id'.symm
  | amend changed amendment =>
    rw [Call.drive, Call.settle]
    by_cases same : changed = drive
    · simp only [Call.amended, if_pos same]
    · simp only [Call.amended, if_neg same, Option.map_id']
  | take taken =>
    have apart : ¬ taken = drive := undecided
    rw [Call.drive, if_neg apart]
    exact Option.map_id'.symm

theorem Distinct.get?_after_undecided (distinct : table.Distinct)
    (undecided : ∀ call ∈ calls, ¬ call.Decides drive) :
    (after calls table).get? drive =
      (table.get? drive).map fun record => calls.foldl (Call.amended drive) record := by
  induction calls generalizing table with
  | nil => exact Option.map_id'.symm
  | cons call rest ih =>
    rw [after_cons, ih (distinct.run call) fun later member =>
      undecided later (List.mem_cons_of_mem call member),
      distinct.get?_run_undecided (undecided call List.mem_cons_self), Option.map_map]
    rfl

/-- Either no call decides on a drive, or one of them is the last to do so. -/
theorem last_decision (drive : DriveNumber) (calls : List Call) :
    (∀ call ∈ calls, ¬ call.Decides drive) ∨
      ∃ front last back, calls = front ++ last :: back ∧ last.Decides drive ∧
        ∀ call ∈ back, ¬ call.Decides drive := by
  induction calls with
  | nil => exact Or.inl nofun
  | cons call rest ih =>
    rcases ih with undecided | ⟨front, last, back, rfl, decides, since⟩
    · by_cases decides : call.Decides drive
      · exact Or.inr ⟨[], call, rest, rfl, decides, undecided⟩
      · exact Or.inl (List.forall_mem_cons.mpr ⟨decides, undecided⟩)
    · exact Or.inr ⟨call :: front, last, back, rfl, decides, since⟩

/-- Where the last decision on a drive was to take its record out, every record that was inserted
for it has been taken out since. -/
theorem take_after_insert {front back first later : List Call} {record : Geometry}
    (since : ∀ call ∈ back, ¬ call.Decides drive) (same : record.drive = drive)
    (split : front ++ .take drive :: back = first ++ .insert record :: later) :
    .take drive ∈ later := by
  rcases List.append_eq_append_iff.mp split with ⟨between, -, behind⟩ | ⟨between, -, before⟩
  · rcases List.cons_eq_append_iff.mp behind with ⟨-, impossible⟩ | ⟨rest, -, within⟩
    · cases impossible
    · have member : .insert record ∈ back := by
        rw [within]
        exact List.mem_append_right rest List.mem_cons_self
      exact absurd same (since _ member)
  · rcases List.cons_eq_append_iff.mp before with ⟨-, impossible⟩ | ⟨rest, -, within⟩
    · cases impossible
    · rw [within]
      exact List.mem_append_right rest List.mem_cons_self

theorem remembered_after (drive : DriveNumber) (calls : List Call) :
    Remembered drive calls ((after calls {}).get? drive) := by
  rcases last_decision drive calls with undecided | ⟨front, last, back, rfl, decides, since⟩
  · rw [empty_distinct.get?_after_undecided undecided]
    refine .nothing fun front record back split same => absurd same (undecided (.insert record) ?_)
    rw [split]
    exact List.mem_append_right front List.mem_cons_self
  · have distinct := empty_distinct.after_calls front
    rw [after_append, after_cons, (distinct.run last).get?_after_undecided since,
      distinct.get?_run]
    cases last with
    | insert record =>
      have same : record.drive = drive := decides
      rw [Call.drive, if_pos same]
      exact .inserted rfl same since
    | take taken =>
      have same : taken = drive := decides
      subst same
      rw [Call.drive, if_pos rfl]
      exact .nothing fun _ _ _ split same => take_after_insert since same split
    | get asked => exact decides.elim
    | amend changed amendment => exact decides.elim

/-- A history says one thing only of a drive. -/
theorem Remembered.get?_eq {found : Option Geometry}
    (remembered : Remembered drive calls found) : (after calls {}).get? drive = found := by
  cases remembered with
  | @inserted front back record split same since =>
    have distinct := empty_distinct.after_calls front
    rw [split, after_append, after_cons, (distinct.run _).get?_after_undecided since,
      distinct.get?_run, Call.drive, if_pos same]
    rfl
  | nothing taken =>
    generalize look : (after calls {}).get? drive = found
    have known := remembered_after drive calls
    rw [look] at known
    cases known with
    | inserted split same since => exact absurd rfl (since _ (taken _ _ _ split same))
    | nothing _ => rfl

end History

theorem Distinct.size_eq_ncard (distinct : table.Distinct) :
    table.size = {drive | (table.get? drive).isSome}.ncard := by
  have present : {drive | (table.get? drive).isSome} =
      ((table.records.map Geometry.drive).toFinset : Set DriveNumber) := by
    ext drive
    simp only [Set.mem_ofPred_eq, get?, List.find?_isSome, decide_eq_true_eq, List.coe_toFinset,
      List.mem_map]
  rw [present, Set.ncard_coe_finset, List.toFinset_card_of_nodup distinct, List.length_map, size]

/-- A table that has had some calls, starting with no records, has one record for a drive at most, in
the order in which the drives got theirs. It knows of a drive what was inserted last, with what has
been changed in it since, and nothing if that was taken out. Each further call deals with the record
of its drive where it stands, and with no other. There are as many records as known drives. -/
theorem remembers_in_order (calls : List Call) :
    let table := after calls {}
    (table.records.map Geometry.drive).Nodup ∧
    table.records.map Geometry.drive = calls.foldl Call.enroll [] ∧
    (∀ drive found, table.get? drive = found ↔ Remembered drive calls found) ∧
    (∀ call : Call, Effect call table.records (call.run table).1 (call.run table).2.records) ∧
    table.size = {drive | (table.get? drive).isSome}.ncard := by
  intro table
  have distinct : table.Distinct := empty_distinct.after_calls calls
  refine ⟨distinct, empty_distinct.drives_after calls,
    fun drive found => ⟨?_, Remembered.get?_eq⟩, distinct.effect, distinct.size_eq_ncard⟩
  rintro rfl
  exact remembered_after drive calls

/-- A record that is amended stays where it stands. -/
example :
    let lowered : Amendment := ⟨fun record => { record with cap := 7 }, fun _ => rfl⟩
    (after [.insert (.ofOptical 0x80), .insert (.ofOptical 0x81), .amend 0x80 lowered] {}).records =
      [{ Geometry.ofOptical 0x80 with cap := 7 }, .ofOptical 0x81] := by
  decide

end GeometryCache

end FirmwareDisk
