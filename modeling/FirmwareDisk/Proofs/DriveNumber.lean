import FirmwareDisk.Proofs.Session.Caching
import Mathlib.Data.Nat.Digits.Lemmas

set_option autoImplicit false

namespace FirmwareDisk

namespace Decimal

/-- The text is the decimal number: digits, at least one of them, most significant first. -/
structure Writes (text : List Char) (value : Nat) : Prop where
  nonempty : text ≠ []
  digits : ∀ letter ∈ text, '0' ≤ letter ∧ letter ≤ '9'
  value : Nat.ofDigits 10 (text.reverse.map digitValue) = value

/-- The text starts with a zero only if that is all of it. -/
def Tight (text : List Char) : Prop :=
  text.head? = some '0' → text = ['0']

instance (text : List Char) : Decidable (Tight text) :=
  inferInstanceAs (Decidable (_ → _))

theorem isDigit_iff (letter : Char) : letter.isDigit = true ↔ '0' ≤ letter ∧ letter ≤ '9' := by
  rw [Char.isDigit, Bool.and_eq_true, decide_eq_true_iff, decide_eq_true_iff]
  exact Iff.rfl

/-- Going through the digits from the left sums them up as their places say. -/
theorem ofDigits_eq (text : List Char) :
    ofDigits text = Nat.ofDigits 10 (text.reverse.map digitValue) := by
  rw [ofDigits, ← List.foldr_reverse]
  induction text.reverse with
  | nil => rfl
  | cons digit rest ih =>
    rw [List.foldr_cons, ih, List.map_cons, Nat.ofDigits_cons]
    omega

theorem natural?_eq_some (text : List Char) (value : Nat) :
    natural? text = some value ↔ Writes text value := by
  rw [natural?, Option.ite_none_right_eq_some, Option.some.injEq, ofDigits_eq, List.all_eq_true]
  constructor
  · rintro ⟨⟨nonempty, all⟩, sum⟩
    exact ⟨nonempty, fun letter member => (isDigit_iff letter).mp (all letter member), sum⟩
  · rintro ⟨nonempty, all, sum⟩
    exact ⟨⟨nonempty, fun letter member => (isDigit_iff letter).mpr (all letter member)⟩, sum⟩

section Digits

variable {letter : Char} (digit : '0' ≤ letter ∧ letter ≤ '9')

include digit

theorem toNat_digit : 48 ≤ letter.toNat ∧ letter.toNat ≤ 57 :=
  ⟨UInt32.le_iff_toNat_le.mp digit.1, UInt32.le_iff_toNat_le.mp digit.2⟩

theorem digitValue_lt : digitValue letter < 10 := by
  have bounds := toNat_digit digit
  have zero : '0'.toNat = 48 := rfl
  rw [digitValue]
  omega

theorem eq_ofNat_digitValue : letter = Char.ofNat (48 + digitValue letter) := by
  have bounds := toNat_digit digit
  have zero : '0'.toNat = 48 := rfl
  have back : 48 + digitValue letter = letter.toNat := by
    rw [digitValue]
    omega
  rw [back, Char.ofNat_toNat]

end Digits

/-- Without superfluous zeros the places of the digits are those of their value. -/
theorem Writes.places {text : List Char} {value : Nat} (writes : Writes text value)
    (tight : Tight text) (positive : value ≠ 0) :
    text.reverse.map digitValue = Nat.digits 10 value := by
  rw [← writes.value]
  refine (Nat.digits_ofDigits 10 (by decide) _ ?_ ?_).symm
  · intro place member
    obtain ⟨letter, among, rfl⟩ := List.mem_map.mp member
    exact digitValue_lt (writes.digits letter (List.mem_reverse.mp among))
  · intro filled zero
    cases text with
    | nil => exact writes.nonempty rfl
    | cons first rest =>
      have digit := writes.digits first List.mem_cons_self
      have leading : digitValue first = 0 := by
        simpa only [List.reverse_cons, List.map_append, List.map_cons, List.map_nil,
          List.getLast_append_singleton] using zero
      have naught : first = '0' := by
        rw [eq_ofNat_digitValue digit, leading]
      -- A leading zero is the only digit, so that the value would be zero.
      have alone := tight (congrArg Option.some naught)
      exact positive (by rw [← writes.value, alone]; rfl)

theorem Writes.eq_zero {text : List Char} (writes : Writes text 0) (tight : Tight text) :
    text = ['0'] := by
  cases text with
  | nil => exact absurd rfl writes.nonempty
  | cons first rest =>
    have digit := writes.digits first List.mem_cons_self
    have sum := writes.value
    rw [List.reverse_cons, List.map_append, Nat.ofDigits_append] at sum
    have leading : digitValue first = 0 := by
      have product := (Nat.add_eq_zero_iff.mp sum).2
      simpa using product
    refine tight (congrArg Option.some ?_)
    rw [eq_ofNat_digitValue digit, leading]

/-- Texts of one value without superfluous zeros are the same. -/
theorem Writes.text_unique {text other : List Char} {value : Nat} (one : Writes text value)
    (two : Writes other value) (tight : Tight text) (tight' : Tight other) : text = other := by
  by_cases zero : value = 0
  · subst zero
    rw [one.eq_zero tight, two.eq_zero tight']
  · have places := (one.places tight zero).trans (two.places tight' zero).symm
    have letters : ∀ text : List Char, (∀ letter ∈ text, '0' ≤ letter ∧ letter ≤ '9') →
        (text.reverse.map digitValue).map (fun place => Char.ofNat (48 + place)) =
          text.reverse := by
      intro text digits
      rw [List.map_map]
      refine (List.map_congr_left fun letter member => ?_).trans (List.map_id _)
      exact (eq_ofNat_digitValue (digits letter (List.mem_reverse.mp member))).symm
    have reversed : text.reverse = other.reverse := by
      rw [← letters text one.digits, places, letters other two.digits]
    exact List.reverse_inj.mp reversed

end Decimal

namespace DriveNumber

open Decimal

/-- The name is the drive's: the letters of the class, and the number within the class in decimal
digits, below 0x80. -/
def Spells (name : String) (drive : DriveNumber) : Prop :=
  ∃ digits index, Writes digits index ∧ index ≤ 127 ∧
    (name.toList = 'h' :: 'd' :: digits ∧ drive.toNat = 0x80 + index ∨
      name.toList = 'f' :: 'd' :: digits ∧ drive.toNat = index)

/-- There is no superfluous zero after the two letters of the class. -/
def Plain (name : String) : Prop :=
  Tight (name.toList.drop 2)

theorem index?_eq_some (digits : List Char) (index : Nat) :
    index? digits = some index ↔ Writes digits index ∧ index ≤ 127 := by
  rw [index?, Option.filter_eq_some_iff, natural?_eq_some, decide_eq_true_iff, firstFixed,
    Nat.lt_succ_iff]

theorem map_index?_eq_some {base : Nat} (low : base ≤ 0x80) (digits : List Char)
    (drive : DriveNumber) :
    (index? digits).map (fun index => UInt8.ofNat (base + index)) = some drive ↔
      ∃ index, Writes digits index ∧ index ≤ 127 ∧ drive.toNat = base + index := by
  rw [Option.map_eq_some_iff]
  refine exists_congr fun index => ?_
  rw [index?_eq_some, and_assoc]
  refine and_congr_right fun writes => and_congr_right fun below => ?_
  rw [← UInt8.toNat_inj, UInt8.toNat_ofNat', Nat.mod_eq_of_lt (by omega), eq_comm]

/-- A name is read as a drive exactly if it spells that drive. -/
theorem ofName?_eq_some (name : String) (drive : DriveNumber) :
    ofName? name = some drive ↔ Spells name drive := by
  unfold ofName? Spells
  split
  · rename_i digits letters
    rw [map_index?_eq_some (show firstFixed ≤ 0x80 from Nat.le_refl _), letters]
    constructor
    · rintro ⟨index, writes, below, number⟩
      exact ⟨digits, index, writes, below, .inl ⟨rfl, number⟩⟩
    · rintro ⟨_, index, writes, below, ⟨same, number⟩ | ⟨same, -⟩⟩
      · cases same
        exact ⟨index, writes, below, number⟩
      · cases same
  · rename_i digits letters
    have plain := map_index?_eq_some (Nat.zero_le _) digits drive
    simp only [Nat.zero_add] at plain
    rw [letters]
    refine plain.trans ⟨?_, ?_⟩
    · rintro ⟨index, writes, below, number⟩
      exact ⟨digits, index, writes, below, .inr ⟨rfl, number⟩⟩
    · rintro ⟨_, index, writes, below, ⟨same, -⟩ | ⟨same, number⟩⟩
      · cases same
      · cases same
        exact ⟨index, writes, below, number⟩
  · rename_i fixed floppy
    refine iff_of_false nofun ?_
    rintro ⟨digits, index, -, -, ⟨same, -⟩ | ⟨same, -⟩⟩
    · exact fixed digits same
    · exact floppy digits same

theorem ofName_eq_ok (name : String) (drive : DriveNumber) :
    ofName name = .ok drive ↔ Spells name drive := by
  rw [← ofName?_eq_some, ofName]
  cases ofName? name with
  | none =>
    constructor
    · intro same
      cases same
    · intro same
      cases same
  | some found => rw [Except.ok.injEq, Option.some.injEq]

/-- A name that spells no drive is refused, as the name of no device. -/
theorem ofName_eq_error (name : String) :
    ofName name = .error (.unknownDevice name) ↔ ∀ drive, ¬Spells name drive := by
  simp only [← ofName?_eq_some, ofName]
  cases ofName? name with
  | none =>
    refine iff_of_true rfl fun drive same => ?_
    cases same
  | some found =>
    refine iff_of_false (fun same => ?_) fun never => never found rfl
    cases same

theorem Plain.tight {name : String} {first second : Char} {digits : List Char}
    (plain : Plain name) (letters : name.toList = first :: second :: digits) : Tight digits := by
  rwa [Plain, letters] at plain

/-- A drive's plain names have the same letters. -/
theorem Spells.unique {name other : String} {drive : DriveNumber} (one : Spells name drive)
    (two : Spells other drive) (plain : Plain name) (plain' : Plain other) : name = other := by
  obtain ⟨digits, index, writes, below, kind⟩ := one
  obtain ⟨digits', index', writes', below', class'⟩ := two
  apply String.toList_injective
  -- The number of a drive tells its class, and the number within the class.
  obtain ⟨letters, number⟩ | ⟨letters, number⟩ := kind <;>
    obtain ⟨letters', number'⟩ | ⟨letters', number'⟩ := class'
  · obtain rfl : index = index' := by omega
    rw [letters, letters', writes.text_unique writes' (plain.tight letters) (plain'.tight letters')]
  · omega
  · omega
  · obtain rfl : index = index' := by omega
    rw [letters, letters', writes.text_unique writes' (plain.tight letters) (plain'.tight letters')]

theorem plain_name (drive : DriveNumber) : Plain drive.name := by
  have every : ∀ index : Fin 256, Tight ((name (UInt8.ofFin index)).toList.drop 2) := by
    decide +kernel
  exact every drive.toFin

/-- A name is read as a drive exactly if it is `hd` or `fd` and decimal digits of a value up to 127,
which count from 0x80 after `hd`; any other name is unknown. What is printed for a drive is read as
that drive, and is its only name without superfluous zeros. -/
theorem ofName_grammar :
    (∀ name, (∀ drive, ofName name = .ok drive ↔ Spells name drive) ∧
      (ofName name = .error (.unknownDevice name) ↔ ∀ drive, ¬Spells name drive)) ∧
    ∀ drive : DriveNumber, ofName drive.name = .ok drive ∧
      ∀ name, ofName name = .ok drive ∧ Plain name ↔ name = drive.name := by
  refine ⟨fun name => ⟨ofName_eq_ok name, ofName_eq_error name⟩, fun drive => ?_⟩
  have printed := drive.ofName_name.1
  refine ⟨printed, fun name => ⟨?_, ?_⟩⟩
  · rintro ⟨read, plain⟩
    exact ((ofName_eq_ok name drive).mp read).unique ((ofName_eq_ok _ drive).mp printed) plain
      drive.plain_name
  · rintro rfl
    exact ⟨printed, drive.plain_name⟩

example : ofName "hd00128" = .error (.unknownDevice "hd00128") := by decide +kernel

end DriveNumber

end FirmwareDisk
