import FirmwareDisk.Geometry.Cache

set_option autoImplicit false

namespace FirmwareDisk.GeometryCache

variable {table : GeometryCache} {record found : Geometry} {drive : DriveNumber}

theorem find?_placed (record : Geometry) (records : List Geometry) (drive : DriveNumber) :
    (placed record records).find? (fun record => record.drive = drive) =
      if record.drive = drive then some record
      else records.find? fun record => record.drive = drive := by
  induction records with
  | nil =>
    by_cases same : record.drive = drive
    · simp only [placed, List.find?_cons, same, decide_true, ↓reduceIte]
    · simp only [placed, List.find?_cons, List.find?_nil, same, decide_false, ↓reduceIte]
  | cons first rest ih =>
    rw [placed]
    by_cases taken : first.drive = record.drive
    · rw [if_pos taken]
      by_cases same : record.drive = drive
      · simp only [List.find?_cons, same, decide_true, ↓reduceIte]
      · have apart : ¬ first.drive = drive := by rwa [taken]
        simp only [List.find?_cons, same, apart, decide_false, ↓reduceIte]
    · rw [if_neg taken]
      by_cases same : first.drive = drive
      · have apart : ¬ record.drive = drive := fun other => taken (same.trans other.symm)
        simp only [List.find?_cons, same, apart, decide_true, ↓reduceIte]
      · simp only [List.find?_cons, same, decide_false, ih]

theorem get?_insert (table : GeometryCache) (record : Geometry) (drive : DriveNumber) :
    (table.insert record).get? drive =
      if record.drive = drive then some record else table.get? drive :=
  find?_placed record table.records drive

theorem get?_insert_own (own : record.drive = drive) :
    (table.insert record).get? drive = some record := by
  rw [get?_insert, if_pos own]

theorem get?_insert_other (apart : ¬ record.drive = drive) :
    (table.insert record).get? drive = table.get? drive := by
  rw [get?_insert, if_neg apart]

theorem get?_insert_same (cached : table.get? record.drive = some record) (other : DriveNumber) :
    (table.insert record).get? other = table.get? other := by
  by_cases same : record.drive = other
  · rw [get?_insert_own same, ← same, cached]
  · exact get?_insert_other same

theorem get?_some (look : table.get? drive = some found) :
    found ∈ table.records ∧ found.drive = drive := by
  refine ⟨List.mem_of_find?_eq_some look, ?_⟩
  have same := List.find?_some look
  simpa only [decide_eq_true_eq] using same

/-- A change that keeps the drive shows in the record of that drive, and nowhere else. -/
theorem get?_modify {update : Geometry → Geometry}
    (keeps : ∀ record, (update record).drive = record.drive) (table : GeometryCache)
    (changed drive : DriveNumber) :
    (table.modify changed update).get? drive =
      if changed = drive then (table.get? drive).map update else table.get? drive := by
  unfold modify
  cases look : table.get? changed with
  | none =>
    by_cases same : changed = drive
    · rw [if_pos same, ← same, look, Option.map_none]
    · rw [if_neg same]
  | some record =>
    have kept : (update record).drive = changed := (keeps record).trans (get?_some look).2
    by_cases same : changed = drive
    · rw [if_pos same, ← same, look, Option.map_some, get?_insert_own kept]
    · rw [if_neg same, get?_insert_other (by rwa [kept])]

theorem mem_placed {records : List Geometry} (member : found ∈ placed record records) :
    found = record ∨ found ∈ records := by
  induction records with
  | nil =>
    rw [placed, List.mem_singleton] at member
    exact Or.inl member
  | cons first rest ih =>
    rw [placed] at member
    split at member
    · rcases List.mem_cons.mp member with same | inRest
      · exact Or.inl same
      · exact Or.inr (List.mem_cons_of_mem first inRest)
    · rcases List.mem_cons.mp member with same | inRest
      · exact Or.inr (same ▸ List.mem_cons_self)
      · exact (ih inRest).imp_right (List.mem_cons_of_mem first)

theorem mem_insert (member : found ∈ (table.insert record).records) :
    found = record ∨ found ∈ table.records :=
  mem_placed member

theorem mem_erase (member : found ∈ (table.erase drive).records) : found ∈ table.records :=
  List.mem_of_mem_eraseP member

def Distinct (table : GeometryCache) : Prop :=
  (table.records.map Geometry.drive).Nodup

theorem distinct_placed {records : List Geometry}
    (distinct : (records.map Geometry.drive).Nodup) :
    ((placed record records).map Geometry.drive).Nodup := by
  induction records with
  | nil => exact List.pairwise_singleton _ record.drive
  | cons first rest ih =>
    rw [List.map_cons, List.nodup_cons] at distinct
    obtain ⟨absent, others⟩ := distinct
    rw [placed]
    split
    · rename_i same
      rw [List.map_cons, List.nodup_cons, ← same]
      exact ⟨absent, others⟩
    · rename_i apart
      rw [List.map_cons, List.nodup_cons]
      refine ⟨?_, ih others⟩
      intro listed
      obtain ⟨other, member, same⟩ := List.mem_map.mp listed
      rcases mem_placed member with new | old
      · rw [new] at same
        exact apart same.symm
      · exact absent (List.mem_map.mpr ⟨other, old, same⟩)

theorem Distinct.insert (distinct : table.Distinct) (record : Geometry) :
    (table.insert record).Distinct :=
  distinct_placed distinct

theorem Distinct.modify {update : Geometry → Geometry} (distinct : table.Distinct)
    (drive : DriveNumber) : (table.modify drive update).Distinct := by
  rw [GeometryCache.modify]
  split
  · exact distinct
  · exact distinct.insert _

theorem Distinct.erase (distinct : table.Distinct) (drive : DriveNumber) :
    (table.erase drive).Distinct := by
  have kept := (List.eraseP_sublist (p := fun record : Geometry => record.drive = drive)
    (l := table.records)).map Geometry.drive
  exact List.Nodup.sublist kept distinct

theorem get?_erase_of_ne (table : GeometryCache) {other : DriveNumber} (apart : other ≠ drive) :
    (table.erase other).get? drive = table.get? drive := by
  obtain ⟨records⟩ := table
  simp only [get?, erase]
  induction records with
  | nil => rfl
  | cons first rest ih =>
    by_cases forgotten : first.drive = other
    · simp only [List.eraseP_cons, forgotten, decide_true, cond_true, List.find?_cons, apart,
        decide_false]
    · simp only [List.eraseP_cons, forgotten, decide_false, cond_false, List.find?_cons, ih]

/-- A drive that was forgotten is not found. -/
theorem Distinct.get?_erase (distinct : table.Distinct) (drive : DriveNumber) :
    (table.erase drive).get? drive = none := by
  obtain ⟨records⟩ := table
  simp only [get?, GeometryCache.erase]
  unfold Distinct at distinct
  induction records with
  | nil => rfl
  | cons first rest ih =>
    obtain ⟨absent, others⟩ := List.nodup_cons.mp distinct
    by_cases same : first.drive = drive
    · simp only [List.eraseP_cons, same, decide_true, cond_true, List.find?_eq_none,
        decide_eq_true_eq]
      intro record member again
      exact absent (List.mem_map.mpr ⟨record, member, again.trans same.symm⟩)
    · simp only [List.eraseP_cons, same, decide_false, cond_false, List.find?_cons]
      exact ih others

/-- In a table with one record for a drive, every record is found. -/
theorem Distinct.get?_of_mem (distinct : table.Distinct) (member : record ∈ table.records) :
    table.get? record.drive = some record := by
  obtain ⟨records⟩ := table
  simp only [get?]
  unfold Distinct at distinct
  induction records with
  | nil => cases member
  | cons first rest ih =>
    obtain ⟨absent, others⟩ := List.nodup_cons.mp distinct
    by_cases same : first.drive = record.drive
    · have found : record = first := by
        refine (List.mem_cons.mp member).resolve_right fun later => absent ?_
        exact same ▸ List.mem_map_of_mem later
      simp only [found, List.find?_cons, decide_true]
    · have later : record ∈ rest :=
        (List.mem_cons.mp member).resolve_left fun new => same (congrArg Geometry.drive new.symm)
      simp only [List.find?_cons, same, decide_false]
      exact ih others later

/-- Tables that find the same for every drive have the same records. -/
theorem Distinct.perm {other : GeometryCache} (distinct : table.Distinct) (also : other.Distinct)
    (same : ∀ drive, table.get? drive = other.get? drive) : table.records.Perm other.records := by
  have nodup {table : GeometryCache} (distinct : table.Distinct) : table.records.Nodup :=
    List.Pairwise.of_map Geometry.drive (fun _ _ apart => mt (congrArg Geometry.drive) apart)
      distinct
  refine (List.perm_ext_iff_of_nodup (nodup distinct) (nodup also)).mpr fun record => ⟨?_, ?_⟩
  · intro member
    exact (get?_some ((same record.drive).symm.trans (distinct.get?_of_mem member))).1
  · intro member
    exact (get?_some ((same record.drive).trans (also.get?_of_mem member))).1

/-- What is taken out of a table is what is found in it, and then it is forgotten. -/
theorem take_eq (table : GeometryCache) (drive : DriveNumber) :
    table.take drive = (table.get? drive, table.erase drive) := by
  obtain ⟨records⟩ := table
  simp only [take, get?, erase, List.eraseP_eq_eraseIdx]
  cases search : records.findIdx? fun record => record.drive = drive with
  | none =>
    have absent := List.findIdx?_eq_none_iff.mp search
    have unfound : records.find? (fun record => record.drive = drive) = none :=
      List.find?_eq_none.mpr fun record member => by
        rw [absent record member]
        exact Bool.false_ne_true
    rw [unfound]
  | some place =>
    obtain ⟨inside, here, before⟩ := List.findIdx?_eq_some_iff_getElem.mp search
    have found : records.find? (fun record => record.drive = drive) = some records[place] := by
      refine List.find?_eq_some_iff_getElem.mpr ⟨here, place, inside, rfl, fun index earlier => ?_⟩
      rw [Bool.not_eq_true', Bool.eq_false_iff]
      exact before index earlier
    simp only [found, List.getElem?_eq_getElem inside]

section Places

variable {records front back : List Geometry} {known : Geometry}

theorem placed_present (same : known.drive = record.drive)
    (before : ∀ other ∈ front, other.drive ≠ record.drive) :
    placed record (front ++ known :: back) = front ++ record :: back := by
  induction front with
  | nil => rw [List.nil_append, placed, if_pos same, List.nil_append]
  | cons first rest ih =>
    rw [List.cons_append, placed, if_neg (before first List.mem_cons_self),
      ih fun other member => before other (List.mem_cons_of_mem first member), List.cons_append]

theorem placed_absent (absent : ∀ other ∈ records, other.drive ≠ record.drive) :
    placed record records = records ++ [record] := by
  induction records with
  | nil => rfl
  | cons first rest ih =>
    rw [placed, if_neg (absent first List.mem_cons_self),
      ih fun other member => absent other (List.mem_cons_of_mem first member), List.cons_append]

theorem get?_present (split : table.records = front ++ known :: back) (same : known.drive = drive)
    (before : ∀ other ∈ front, other.drive ≠ drive) : table.get? drive = some known := by
  rw [get?, List.find?_eq_some_iff_append]
  refine ⟨decide_eq_true same, front, back, split, fun other member => ?_⟩
  rw [decide_eq_false (before other member), Bool.not_false]

theorem get?_absent (absent : ∀ other ∈ table.records, other.drive ≠ drive) :
    table.get? drive = none := by
  rw [get?, List.find?_eq_none]
  intro other member
  rw [decide_eq_true_eq]
  exact absent other member

theorem erase_present (split : table.records = front ++ known :: back) (same : known.drive = drive)
    (before : ∀ other ∈ front, other.drive ≠ drive) :
    (table.erase drive).records = front ++ back := by
  have elsewhere : ∀ other ∈ front, ¬ decide (other.drive = drive) = true := by
    intro other member
    rw [decide_eq_true_eq]
    exact before other member
  rw [erase, split, List.eraseP_append_right _ elsewhere, List.eraseP_cons, decide_eq_true same,
    cond_true]

theorem erase_absent (absent : ∀ other ∈ table.records, other.drive ≠ drive) :
    table.erase drive = table := by
  rw [erase, List.eraseP_of_forall_not]
  intro other member
  rw [decide_eq_true_eq]
  exact absent other member

end Places

end FirmwareDisk.GeometryCache
