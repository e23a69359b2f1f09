import Mathlib.Data.List.TakeWhile
import FieldLogger.Entry
import FieldLogger.Proofs.Text.Decoding
import FieldLogger.Proofs.Text.Sizes

/-! Records read back. Every name that the device comes to have can stand in a record (`Storable`), and the
    record of metadata with such a name is read, over whatever record was there before, as the same
    metadata without the blanks at the end of the name (`tidy`). Reading one record twice is reading it
    once. -/

namespace FieldLogger

/-! ### Names that a record can hold -/

/-- A name that a record can hold: it is not empty, does not begin with a blank, is not too long and has no
    character at which a field or the line would end. -/
structure Storable (name : String) : Prop where
  head : ∃ c, name.toList.head? = some c ∧ Text.isBlank c = false
  size : Utf8.size name.toList ≤ Metadata.maxNameBytes
  plain : ∀ c ∈ name.toList, c ≠ ';' ∧ ¬Utf8.EndsLine c

theorem not_endsLine_of_isDigit {c : Char} (h : c.isDigit = true) : c ≠ ';' ∧ ¬Utf8.EndsLine c :=
  ⟨Text.ne_of_isDigit h (by decide),
    not_or.mpr ⟨Text.ne_of_isDigit h (by decide), Text.ne_of_isDigit h (by decide)⟩⟩

namespace Storable

theorem factory : Storable Metadata.factory.name where
  head := ⟨'d', by decide +kernel, by decide⟩
  size := by decide +kernel
  plain c hc := by
    have hall : Metadata.factory.name.toList.all (fun c => c != ';' && c != '\n' && c != '\x00') = true := by
      decide +kernel
    simpa [Utf8.EndsLine, and_assoc] using List.all_eq_true.mp hall c hc

theorem of_field {cs : List Char} (hne : Text.trim cs ≠ []) (hp : ∀ c ∈ cs, c ≠ ';' ∧ ¬Utf8.EndsLine c) :
    Storable (String.ofList (Utf8.takeBytes Metadata.maxNameBytes (Text.trim cs))) := by
  refine ⟨?_, ?_, ?_⟩ <;> rw [String.toList_ofList]
  · obtain ⟨c, rest, hcs⟩ := List.exists_cons_of_ne_nil hne
    have hhead : (Text.trim cs).head? = some c := by rw [hcs, List.head?_cons]
    refine ⟨c, ?_, Text.head?_trim hhead⟩
    rw [hcs]
    exact Utf8.head?_takeBytes (by decide) rest
  · exact Utf8.size_takeBytes_le _ _
  · intro c hc
    have hcut := Utf8.takeBytes_prefix Metadata.maxNameBytes (Text.trim cs)
    exact hp c (Text.mem_of_mem_trim (hcut.subset hc))

theorem trim_ne_nil {name : String} (h : Storable name) : Text.trim name.toList ≠ [] := by
  obtain ⟨c, hc, hb⟩ := h.head
  exact List.ne_nil_of_mem (Text.mem_trim (List.mem_of_head? hc) hb)

/-- A name that was accepted when it was typed can be stored, and has no blanks around it. -/
theorem of_entry {input name : String} (h : Entry.name input = .ok name) :
    Storable name ∧ Text.trim name.toList = name.toList := by
  unfold Entry.name at h
  dsimp only at h
  split at h
  · cases h
  · rename_i hne
    split at h
    · cases h
    · rename_i hsize
      split at h
      · cases h
      · rename_i hfind
        cases h
        rw [List.find?_eq_none] at hfind
        have hplain : ∀ c ∈ Text.trim input.toList, c ≠ ';' ∧ ¬Utf8.EndsLine c := by
          intro c hc
          have hok : ¬Entry.isRefusedInName c = true := hfind c hc
          refine ⟨?_, ?_⟩
          · rintro rfl
            exact hok (by decide)
          · rintro (rfl | rfl) <;> exact hok (by decide)
        have hs : Utf8.size (Text.trim input.toList) ≤ Metadata.maxNameBytes := by omega
        have hkept : Text.trim (Text.trim input.toList) ≠ [] := by
          rw [Text.trim_trim]
          simpa using hne
        have hstored := of_field hkept hplain
        rw [Text.trim_trim, Utf8.takeBytes_of_size_le hs] at hstored
        exact ⟨hstored, by rw [String.toList_ofList, Text.trim_trim]⟩

end Storable

/-! ### Reading a whole record -/

namespace Metadata

/-- The metadata as its record is read back: without blanks at the end of the name. -/
def tidy (m : Metadata) : Metadata := { m with name := String.ofList (Text.trim m.name.toList) }

theorem tidy_eq_self {m : Metadata} (h : Text.trim m.name.toList = m.name.toList) : m.tidy = m := by
  rw [tidy, h, String.ofList_toList]

theorem tidy_factory : factory.tidy = factory := tidy_eq_self (by decide +kernel)

theorem storable_tidy {m : Metadata} (h : Storable m.name) : Storable m.tidy.name := by
  have hname := Storable.of_field h.trim_ne_nil h.plain
  rwa [Utf8.takeBytes_of_size_le (Nat.le_trans (Utf8.size_trim_le _) h.size)] at hname

theorem trim_name_tidy (m : Metadata) : Text.trim m.tidy.name.toList = m.tidy.name.toList := by
  rw [tidy, String.toList_ofList, Text.trim_trim]

theorem mem_recordChars {m : Metadata} {c : Char} (h : c ∈ m.recordChars) :
    c ∈ m.name.toList ∨ c = ';' ∨ c.isDigit = true := by
  simp only [recordChars, List.mem_append, List.mem_cons] at h
  rcases h with (((h | rfl | h) | rfl | h) | rfl | h) | rfl | h
  · exact Or.inl h
  all_goals first
    | exact Or.inr (Or.inl rfl)
    | exact Or.inr (Or.inr (Text.isDigit_of_mem_numeral h))

theorem isDigit_of_getLast?_recordChars {m : Metadata} {c : Char} (h : m.recordChars.getLast? = some c) :
    c.isDigit = true := by
  have hne : Text.numeral m.report.toNat ≠ [] := Nat.toDigits_ne_nil
  rw [recordChars, List.getLast?_append, List.getLast?_cons_of_ne_nil hne, List.getLast?_eq_some_getLast hne,
    Option.some_or] at h
  cases h
  exact Text.isDigit_of_mem_numeral (List.getLast_mem hne)

theorem takeWhile_of_not_endsLine {cs : List Char} (h : ∀ c ∈ cs, ¬Utf8.EndsLine c) :
    cs.takeWhile (fun c => c != '\n' && c != '\x00') = cs := by
  rw [List.takeWhile_eq_self_iff]
  intro c hc
  rw [Bool.and_eq_true, bne_iff_ne, bne_iff_ne]
  exact ⟨fun hn => h c hc (Or.inl hn), fun h0 => h c hc (Or.inr h0)⟩

section
variable {m : Metadata} (h : ∀ c ∈ m.name.toList, c ≠ ';' ∧ ¬Utf8.EndsLine c)
include h

theorem not_endsLine_of_mem_recordChars : ∀ c ∈ m.recordChars, ¬Utf8.EndsLine c := by
  intro c hc
  rcases mem_recordChars hc with hc | rfl | hc
  · exact (h c hc).2
  · rintro (hsep | hsep) <;> exact absurd hsep (by decide)
  · exact (not_endsLine_of_isDigit hc).2

theorem recordLine_recordChars : recordLine m.recordChars = m.recordChars := by
  have hline := takeWhile_of_not_endsLine (not_endsLine_of_mem_recordChars h)
  rw [recordLine, hline]
  apply Text.dropWhileEnd_eq_self
  intro c hc
  have hdigit := isDigit_of_getLast?_recordChars hc
  rw [beq_eq_false_iff_ne]
  rintro rfl
  exact absurd hdigit (by decide)

theorem splitAt_recordChars :
    Text.splitAt ';' m.recordChars =
      [m.name.toList, Text.numeral m.filePeriod.code, Text.numeral m.transmission.toNat,
        Text.numeral m.measurement.toNat, Text.numeral m.report.toNat] := by
  have hname : ∀ c ∈ m.name.toList, (c == ';') = false := fun c hc => beq_eq_false_iff_ne.mpr (h c hc).1
  have hnum : ∀ n, ∀ c ∈ Text.numeral n, (c == ';') = false := fun n c hc =>
    beq_eq_false_iff_ne.mpr (not_endsLine_of_isDigit (Text.isDigit_of_mem_numeral hc)).1
  have hsep : (';' == ';') = true := rfl
  rw [Text.splitAt, recordChars]
  simp only [List.append_assoc, List.cons_append]
  rw [Text.splitWhere_append_cons hname hsep, Text.splitWhere_append_cons (hnum _) hsep,
    Text.splitWhere_append_cons (hnum _) hsep, Text.splitWhere_append_cons (hnum _) hsep,
    Text.splitWhere_of_forall (hnum _)]

theorem recordFields_recordChars :
    recordFields m.recordChars =
      [m.name.toList, Text.numeral m.filePeriod.code, Text.numeral m.transmission.toNat,
        Text.numeral m.measurement.toNat, Text.numeral m.report.toNat] := by
  have hblank : (Text.trim m.recordChars).isEmpty = false := by
    have hmem : ';' ∈ m.recordChars := List.mem_append_right _ List.mem_cons_self
    exact List.isEmpty_eq_false_iff.mpr (List.ne_nil_of_mem (Text.mem_trim hmem (by decide)))
  rw [recordFields, hblank, if_neg (by decide), splitAt_recordChars h]
  rfl

end

theorem readName_of_storable {old name : String} (h : Storable name) :
    readName old name.toList = String.ofList (Text.trim name.toList) := by
  have hne : (Text.trim name.toList).isEmpty = false := List.isEmpty_eq_false_iff.mpr h.trim_ne_nil
  rw [readName, hne, if_neg (by decide), Utf8.takeBytes_of_size_le (Nat.le_trans (Utf8.size_trim_le _) h.size)]

theorem readFilePeriod_numeral (old p : FilePeriod) : readFilePeriod old (Text.numeral p.code) = p := by
  have hcode : p.code < UInt8.size := by cases p <;> decide
  rw [readFilePeriod, Text.trim_numeral, Text.unsigned?_numeral hcode, Option.bind_some, FilePeriod.ofCode?_code,
    Option.getD_some]

theorem readMinutes_numeral (old n : UInt32) : readMinutes old (Text.numeral n.toNat) = n := by
  rw [readMinutes, Text.trim_numeral, Text.unsigned?_numeral n.toNat_lt, Option.map_some, Option.getD_some,
    UInt32.ofNat_toNat]

/-- A record replaces every value of the metadata that it is applied to; only the name may be trimmed or cut. -/
theorem applyRecord_toRecord_of_plain (base : Metadata) {m : Metadata}
    (h : ∀ c ∈ m.name.toList, c ≠ ';' ∧ ¬Utf8.EndsLine c) :
    base.applyRecord m.toRecord = .ok (fieldCount, { m with name := readName base.name m.name.toList }) := by
  have hline : recordFields (recordLine m.toRecord.toList) = recordFields m.recordChars := by
    rw [toRecord, String.toList_ofList, recordLine_recordChars h]
  unfold applyRecord
  rw [hline, recordFields_recordChars h]
  simp only [applyFields, List.getElem?_cons_zero, List.getElem?_cons_succ, Option.map_some, Option.getD_some,
    readFilePeriod_numeral, readMinutes_numeral]
  rfl

theorem applyRecord_toRecord (base : Metadata) {m : Metadata} (h : Storable m.name) :
    base.applyRecord m.toRecord = .ok (fieldCount, m.tidy) := by
  rw [applyRecord_toRecord_of_plain base h.plain, readName_of_storable h]
  rfl

/-- A record fits, with its newline, into what is read of its file. -/
theorem size_recordChars_le {m : Metadata} (h : Storable m.name) : Utf8.size m.recordChars ≤ 130 := by
  have hname := h.size
  have hcode : Utf8.size (Text.numeral m.filePeriod.code) ≤ 1 := by cases m.filePeriod <;> decide +kernel
  have hmin : ∀ n : UInt32, Utf8.size (Text.numeral n.toNat) ≤ 10 := fun n =>
    Utf8.size_numeral_le (by decide) (Nat.lt_trans n.toNat_lt (by decide))
  have htrans := hmin m.transmission
  have hmeas := hmin m.measurement
  have hreport := hmin m.report
  have hsep : (';').utf8Size = 1 := rfl
  have hmax : maxNameBytes = 95 := rfl
  simp only [recordChars, Utf8.size_append, Utf8.size_cons, hsep]
  omega

/-! ### Reading any record -/

theorem mem_recordLine {cs : List Char} {c : Char} (h : c ∈ recordLine cs) : ¬Utf8.EndsLine c := by
  have hline := (Text.dropWhileEnd_isPrefix _ _).subset h
  have hkept := List.all_eq_true.mp List.all_takeWhile c hline
  rw [Bool.and_eq_true, bne_iff_ne, bne_iff_ne] at hkept
  rintro (hc | hc)
  · exact hkept.1 hc
  · exact hkept.2 hc

theorem mem_recordFields {line field : List Char} (h : field ∈ recordFields line) :
    ∀ c ∈ field, c ≠ ';' ∧ c ∈ line := by
  unfold recordFields at h
  split at h
  · cases h
  · intro c hc
    have hpiece := Text.of_mem_splitWhere (List.mem_of_mem_take h) c hc
    exact ⟨beq_eq_false_iff_ne.mp hpiece.1, hpiece.2⟩

theorem storable_readName {old : String} {field : List Char} (hold : Storable old)
    (hp : ∀ c ∈ field, c ≠ ';' ∧ ¬Utf8.EndsLine c) : Storable (readName old field) := by
  unfold readName
  dsimp only
  split
  · exact hold
  · rename_i hne
    exact Storable.of_field (fun h => hne (List.isEmpty_iff.mpr h)) hp

theorem applyRecord_ok {base m : Metadata} {record : String} {n : Nat} (h : base.applyRecord record = .ok (n, m)) :
    n = (recordFields (recordLine record.toList)).length ∧ minFieldCount ≤ n ∧
      m = base.applyFields (recordFields (recordLine record.toList)) := by
  unfold applyRecord at h
  dsimp only at h
  split at h
  · cases h
  · cases h
    exact ⟨rfl, by omega, rfl⟩

theorem recordFields_eq_nil_iff {line : List Char} : recordFields line = [] ↔ Text.trim line = [] := by
  unfold recordFields
  split
  · rename_i hblank
    exact iff_of_true rfl (List.isEmpty_iff.mp hblank)
  · rename_i hblank
    refine iff_of_false ?_ fun h => hblank (List.isEmpty_iff.mpr h)
    rw [List.take_eq_nil_iff, not_or]
    exact ⟨by decide, Text.splitWhere_ne_nil _ _⟩

theorem trim_recordLine_eq_nil_iff {cs : List Char} (h : ∀ c ∈ cs, ¬Utf8.EndsLine c) :
    Text.trim (recordLine cs) = [] ↔ Text.trim cs = [] := by
  rw [recordLine, takeWhile_of_not_endsLine h]
  apply Text.trim_dropWhileEnd_eq_nil_iff
  intro c hc
  rw [beq_iff_eq.mp hc]
  decide

theorem applyRecord_line (base : Metadata) {record : String} (h : ∀ c ∈ record.toList, ¬Utf8.EndsLine c) :
    (Text.trim record.toList = [] → base.applyRecord record = .error (.tooFewFields 0)) ∧
      (Text.trim record.toList ≠ [] → ∃ n m, base.applyRecord record = .ok (n, m)) := by
  have hblank : recordFields (recordLine record.toList) = [] ↔ Text.trim record.toList = [] :=
    recordFields_eq_nil_iff.trans (trim_recordLine_eq_nil_iff h)
  unfold applyRecord
  refine ⟨fun hnil => ?_, fun hne => ?_⟩
  · rw [hblank.mpr hnil]
    rfl
  · have hfields : minFieldCount ≤ (recordFields (recordLine record.toList)).length :=
      List.length_pos_iff.mpr fun hnil => hne (hblank.mp hnil)
    dsimp only
    rw [if_neg (Nat.not_lt.mpr hfields)]
    exact ⟨_, _, rfl⟩

theorem storable_of_applyRecord {base m : Metadata} {record : String} {n : Nat} (hb : Storable base.name)
    (h : base.applyRecord record = .ok (n, m)) : Storable m.name := by
  obtain ⟨-, -, rfl⟩ := applyRecord_ok h
  unfold applyFields
  dsimp only
  cases hfield : (recordFields (recordLine record.toList))[0]? with
  | none => exact hb
  | some field =>
    refine storable_readName hb fun c hc => ?_
    have hmem := mem_recordFields (List.mem_of_getElem? hfield) c hc
    exact ⟨hmem.1, mem_recordLine hmem.2⟩

/-! ### Reading a record again -/

theorem readName_readName (old : String) (field : List Char) :
    readName (readName old field) field = readName old field := by
  simp only [readName]
  split <;> rfl

theorem readFilePeriod_readFilePeriod (old : FilePeriod) (field : List Char) :
    readFilePeriod (readFilePeriod old field) field = readFilePeriod old field := by
  simp only [readFilePeriod]
  cases (Text.unsigned? UInt8.size (Text.trim field)).bind FilePeriod.ofCode? <;> rfl

theorem readMinutes_readMinutes (old : UInt32) (field : List Char) :
    readMinutes (readMinutes old field) field = readMinutes old field := by
  simp only [readMinutes]
  cases (Text.unsigned? UInt32.size (Text.trim field)).map UInt32.ofNat <;> rfl

theorem applyFields_applyFields (m : Metadata) (fields : List (List Char)) :
    (m.applyFields fields).applyFields fields = m.applyFields fields := by
  have twice : ∀ {α : Type} (f : α → List Char → α) (old : α) (field : Option (List Char)),
      (∀ a t, f (f a t) t = f a t) →
      (field.map (f ((field.map (f old)).getD old))).getD ((field.map (f old)).getD old) =
        (field.map (f old)).getD old := by
    intro α f old field hf
    cases field with
    | none => rfl
    | some t => exact hf old t
  unfold applyFields
  dsimp only
  rw [twice readName _ _ readName_readName, twice readFilePeriod _ _ readFilePeriod_readFilePeriod,
    twice readMinutes _ _ readMinutes_readMinutes, twice readMinutes _ _ readMinutes_readMinutes,
    twice readMinutes _ _ readMinutes_readMinutes]

theorem applyRecord_applyRecord {base m : Metadata} {record : String} {n : Nat}
    (h : base.applyRecord record = .ok (n, m)) : m.applyRecord record = .ok (n, m) := by
  obtain ⟨hn, hmin, rfl⟩ := applyRecord_ok h
  unfold applyRecord
  dsimp only
  rw [if_neg (by omega), applyFields_applyFields, hn]

end Metadata
end FieldLogger
