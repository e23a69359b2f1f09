import FieldLogger.Proofs.Metadata.RoundTrip

/-! Which metadata its own record gives back. Reading a record trims the name and then cuts it, so a name that is
    too long can be cut just after a blank (`CutAtBlank`). Such a name does not survive being written and read
    once more; all other metadata that was read does (`tidy_eq_self_iff_of_applyRecord`). -/

namespace FieldLogger
namespace Metadata

/-! ### The cut -/

/-- What stands in the name field of a record, without the blanks around it. -/
def nameField (record : String) : List Char :=
  Text.trim ((recordFields (recordLine record.toList))[0]?.getD [])

/-- The name of a record, cut to the bytes that a name may take, ends in a blank. -/
def CutAtBlank (record : String) : Prop :=
  ∃ c, (Utf8.takeBytes maxNameBytes (nameField record)).getLast? = some c ∧ Text.isBlank c = true

theorem trim_takeBytes_iff (budget : Nat) (cs : List Char) :
    Text.trim (Utf8.takeBytes budget (Text.trim cs)) = Utf8.takeBytes budget (Text.trim cs) ↔
      ¬∃ c, (Utf8.takeBytes budget (Text.trim cs)).getLast? = some c ∧ Text.isBlank c = true := by
  constructor
  · rintro htrim ⟨c, hc, hb⟩
    rw [← htrim] at hc
    have hnot := Text.getLast?_trim hc
    rw [hb] at hnot
    cases hnot
  · intro hcut
    apply Text.trim_eq_self
    · -- The cut only shortens the end, so the text still begins as the trimmed one does.
      intro c hc
      exact Text.head?_trim (Text.head?_of_isPrefix (Utf8.takeBytes_prefix _ _) hc)
    · intro c hc
      rw [Bool.eq_false_iff]
      intro hb
      exact hcut ⟨c, hc, hb⟩

/-! ### Names that were read -/

theorem name_of_applyRecord {base m : Metadata} {record : String} {n : Nat} (h : base.applyRecord record = .ok (n, m)) :
    nameField record = [] ∧ m.name = base.name ∨
      m.name = String.ofList (Utf8.takeBytes maxNameBytes (nameField record)) := by
  obtain ⟨hn, hmin, rfl⟩ := applyRecord_ok h
  obtain ⟨field, rest, hfields⟩ : ∃ field rest, recordFields (recordLine record.toList) = field :: rest := by
    apply List.exists_cons_of_ne_nil
    rintro hnil
    rw [hnil] at hn
    simp [hn, minFieldCount] at hmin
  have hfield : nameField record = Text.trim field := by simp [nameField, hfields]
  rw [hfields, hfield]
  simp only [applyFields, List.getElem?_cons_zero, Option.map_some, Option.getD_some, readName]
  split
  · rename_i hempty
    exact Or.inl ⟨List.isEmpty_iff.mp hempty, rfl⟩
  · exact Or.inr rfl

theorem trim_name_iff {base m : Metadata} {record : String} {n : Nat}
    (hbase : Text.trim base.name.toList = base.name.toList) (h : base.applyRecord record = .ok (n, m)) :
    Text.trim m.name.toList = m.name.toList ↔ ¬CutAtBlank record := by
  rcases name_of_applyRecord h with ⟨hempty, hname⟩ | hname <;> rw [hname]
  · have hkept : ¬CutAtBlank record := by simp [CutAtBlank, hempty, Utf8.takeBytes]
    exact iff_of_true hbase hkept
  · rw [String.toList_ofList]
    exact trim_takeBytes_iff _ _

theorem tidy_eq_self_iff {m : Metadata} : m.tidy = m ↔ Text.trim m.name.toList = m.name.toList := by
  refine ⟨fun h => ?_, tidy_eq_self⟩
  have hname := trim_name_tidy m
  rwa [h] at hname

/-! ### Written and read once more -/

theorem ofRecord_toRecord {m : Metadata} (hm : Storable m.name) : ofRecord m.toRecord = .ok m.tidy := by
  rw [ofRecord, applyRecord_toRecord factory hm]
  rfl

/-- Metadata that was read from a record is given back by its own, unless its name was cut just after a blank. -/
theorem tidy_eq_self_iff_of_applyRecord {base m : Metadata} {record : String} {n : Nat}
    (hbase : Text.trim base.name.toList = base.name.toList) (h : base.applyRecord record = .ok (n, m)) :
    m.tidy = m ↔ ¬CutAtBlank record :=
  tidy_eq_self_iff.trans (trim_name_iff hbase h)

end Metadata
end FieldLogger
