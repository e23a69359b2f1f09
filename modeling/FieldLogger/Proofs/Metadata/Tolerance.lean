import FieldLogger.Proofs.Metadata.RoundTrip

/-! What any text does to metadata when it is applied as a record (`takeRecord_tolerant`). A text whose line is blank is
    refused. Any other replaces each of the five values by the one that the field at its own position holds, if it
    holds one, and keeps the others. -/

namespace FieldLogger
namespace Metadata

/-! ### What a field holds -/

/-- The line of a text: it ends before the first newline or NUL, and before the carriage returns there. -/
def IsLine (cs line : List Char) : Prop :=
  ∃ returns, cs.takeWhile (fun c => c != '\n' && c != '\x00') = line ++ returns ∧ (∀ c ∈ returns, c = '\r') ∧
    line.getLast? ≠ some '\r'

theorem isLine_iff {cs line : List Char} : IsLine cs line ↔ recordLine cs = line := by
  rw [recordLine, Text.dropWhileEnd_eq_iff, IsLine]
  have hlast : line.getLast? ≠ some '\r' ↔ ∀ c, line.getLast? = some c → (c == '\r') = false :=
    ⟨fun h c hc => beq_eq_false_iff_ne.mpr fun hr => h (hr ▸ hc), fun h hr => absurd (h _ hr) (by decide)⟩
  simp only [hlast, beq_iff_eq]

/-- The field holds the name: it is not blank, and without the blanks around it and after the cut the name is left. -/
def HoldsName (field : List Char) (name : String) : Prop :=
  ∃ kept, Text.Trimmed field kept ∧ kept ≠ [] ∧ Utf8.Fitting maxNameBytes kept name.toList

def HoldsFilePeriod (field : List Char) (p : FilePeriod) : Prop :=
  ∃ kept, Text.Trimmed field kept ∧ Text.Writes UInt8.size kept p.code

def HoldsMinutes (field : List Char) (n : UInt32) : Prop :=
  ∃ kept, Text.Trimmed field kept ∧ Text.Writes UInt32.size kept n.toNat

def HeldAt {α : Type} (holds : List Char → α → Prop) (fields : List (List Char)) (i : Nat) (v : α) : Prop :=
  ∃ field, fields[i]? = some field ∧ holds field v

/-- A value after a record: the one that is held, or the old one if none is. -/
inductive Settles {α : Type} (held : α → Prop) (old : α) : α → Prop where
  | replaced {new : α} (h : held new) : Settles held old new
  | kept (h : ∀ v, ¬held v) : Settles held old old

theorem settles_iff {α : Type} {held : α → Prop} {value? : Option α} (h : ∀ v, value? = some v ↔ held v) {old new : α} :
    Settles held old new ↔ value?.getD old = new := by
  rw [Option.getD_eq_iff]
  constructor
  · rintro (hnew | hnone)
    · exact Or.inl ((h new).mpr hnew)
    · exact Or.inr ⟨Option.eq_none_iff_forall_ne_some.mpr fun v hv => hnone v ((h v).mp hv), rfl⟩
  · rintro (hnew | ⟨hnone, rfl⟩)
    · exact .replaced ((h new).mp hnew)
    · refine .kept fun v hv => ?_
      rw [(h v).mpr hv] at hnone
      cases hnone

/-! ### Reading one field -/

theorem ofCode?_eq_some_iff {n : Nat} {p : FilePeriod} : FilePeriod.ofCode? n = some p ↔ p.code = n := by
  constructor
  · intro h
    unfold FilePeriod.ofCode? at h
    split at h <;> cases h <;> rfl
  · rintro rfl
    exact FilePeriod.ofCode?_code p

theorem readName_eq_iff (old new : String) (field : List Char) :
    readName old field = new ↔ Settles (HoldsName field) old new := by
  have hholds : ∀ name, HoldsName field name ↔
      Text.trim field ≠ [] ∧ String.ofList (Utf8.takeBytes maxNameBytes (Text.trim field)) = name := fun name => by
    simp only [HoldsName, Text.trimmed_iff, Utf8.fitting_iff, exists_eq_left', ← String.toList_inj, String.toList_ofList]
  unfold readName
  dsimp only
  split
  · rename_i hempty
    have hnone : ∀ name, none = some name ↔ HoldsName field name := fun name =>
      iff_of_false (fun h => nomatch h) fun h => ((hholds name).mp h).1 (List.isEmpty_iff.mp hempty)
    exact (settles_iff hnone).symm
  · rename_i hne
    have hsome : ∀ name, some (String.ofList (Utf8.takeBytes maxNameBytes (Text.trim field))) = some name ↔
        HoldsName field name := fun name => by
      rw [hholds, Option.some.injEq]
      exact ⟨fun h => ⟨fun hnil => hne (List.isEmpty_iff.mpr hnil), h⟩, fun h => h.2⟩
    exact (settles_iff hsome).symm

theorem readFilePeriod_eq_iff (old new : FilePeriod) (field : List Char) :
    readFilePeriod old field = new ↔ Settles (HoldsFilePeriod field) old new := by
  refine (settles_iff fun p => ?_).symm
  simp only [HoldsFilePeriod, Text.trimmed_iff, exists_eq_left', Option.bind_eq_some_iff, Text.unsigned?_eq_some_iff,
    ofCode?_eq_some_iff, exists_eq_right']

theorem readMinutes_eq_iff (old new : UInt32) (field : List Char) :
    readMinutes old field = new ↔ Settles (HoldsMinutes field) old new := by
  refine (settles_iff fun n => ?_).symm
  simp only [HoldsMinutes, Text.trimmed_iff, exists_eq_left', Option.map_eq_some_iff, Text.unsigned?_eq_some_iff]
  constructor
  · rintro ⟨k, hk, rfl⟩
    rwa [UInt32.toNat_ofNat_of_lt' hk.1]
  · intro h
    exact ⟨n.toNat, h, UInt32.ofNat_toNat⟩

theorem settles_heldAt_iff {α : Type} {read : α → List Char → α} {holds : List Char → α → Prop}
    (hread : ∀ old new field, read old field = new ↔ Settles (holds field) old new) (fields : List (List Char))
    (i : Nat) (old new : α) :
    Settles (HeldAt holds fields i) old new ↔ (fields[i]?.map (read old)).getD old = new := by
  unfold HeldAt
  cases fields[i]? with
  | none =>
    have hnone : ∀ v, none = some v ↔ ∃ field, none = some field ∧ holds field v := fun v => by simp
    exact settles_iff hnone
  | some field =>
    have hfield : (fun v => ∃ found, some field = some found ∧ holds found v) = holds field := by
      funext v
      simp
    rw [hfield, Option.map_some, Option.getD_some, hread]

/-! ### Reading all fields -/

/-- The metadata `m'` is `m` with each value as the field at its own position settles it. -/
structure Replaced (m : Metadata) (fields : List (List Char)) (m' : Metadata) : Prop where
  name : Settles (HeldAt HoldsName fields 0) m.name m'.name
  filePeriod : Settles (HeldAt HoldsFilePeriod fields 1) m.filePeriod m'.filePeriod
  transmission : Settles (HeldAt HoldsMinutes fields 2) m.transmission m'.transmission
  measurement : Settles (HeldAt HoldsMinutes fields 3) m.measurement m'.measurement
  report : Settles (HeldAt HoldsMinutes fields 4) m.report m'.report

theorem replaced_iff {m m' : Metadata} {fields : List (List Char)} :
    Replaced m fields m' ↔ m.applyFields fields = m' := by
  have hname := settles_heldAt_iff readName_eq_iff fields 0 m.name m'.name
  have hperiod := settles_heldAt_iff readFilePeriod_eq_iff fields 1 m.filePeriod m'.filePeriod
  have hminutes := settles_heldAt_iff readMinutes_eq_iff fields
  constructor
  · rintro ⟨h0, h1, h2, h3, h4⟩
    rw [applyFields, hname.mp h0, hperiod.mp h1, (hminutes 2 _ _).mp h2, (hminutes 3 _ _).mp h3,
      (hminutes 4 _ _).mp h4]
  · rintro rfl
    exact ⟨hname.mpr rfl, hperiod.mpr rfl, (hminutes 2 _ _).mpr rfl, (hminutes 3 _ _).mpr rfl,
      (hminutes 4 _ _).mpr rfl⟩

theorem applyFields_take (m : Metadata) (fields : List (List Char)) :
    m.applyFields (fields.take fieldCount) = m.applyFields fields := by
  have hkept : ∀ i < fieldCount, (fields.take fieldCount)[i]? = fields[i]? := fun i hi => by
    rw [List.getElem?_take, if_pos hi]
  simp only [applyFields, hkept 0 (by decide), hkept 1 (by decide), hkept 2 (by decide), hkept 3 (by decide),
    hkept 4 (by decide)]

theorem applyFields_map_trim (m : Metadata) (fields : List (List Char)) :
    m.applyFields (fields.map Text.trim) = m.applyFields fields := by
  have hname : readName m.name ∘ Text.trim = readName m.name := by
    funext field
    simp only [Function.comp, readName, Text.trim_trim]
  have hperiod : readFilePeriod m.filePeriod ∘ Text.trim = readFilePeriod m.filePeriod := by
    funext field
    simp only [Function.comp, readFilePeriod, Text.trim_trim]
  have hminutes : ∀ old, readMinutes old ∘ Text.trim = readMinutes old := fun old => by
    funext field
    simp only [Function.comp, readMinutes, Text.trim_trim]
  simp only [applyFields, List.getElem?_map, Option.map_map, hname, hperiod, hminutes]

/-! ### Applying a record in place -/

/-- Applies a record to metadata: the number of its fields or why it is none, and the metadata that is left. -/
def takeRecord (m : Metadata) (record : String) : Except RecordError Nat × Metadata :=
  match m.applyRecord record with
  | .error e => (.error e, m)
  | .ok (n, m') => (.ok n, m')

inductive Taken (m : Metadata) (record : String) : Except RecordError Nat × Metadata → Prop where
  | blank {line : List Char} (hline : IsLine record.toList line) (hblank : ∀ c ∈ line, Text.isBlank c = true) :
    Taken m record (.error (.tooFewFields 0), m)
  | read {line : List Char} {fields : List (List Char)} {m' : Metadata} (hline : IsLine record.toList line)
      (hne : ∃ c ∈ line, Text.isBlank c = false) (hfields : Text.Pieces ';' line fields) (hm : Replaced m fields m') :
    Taken m record (.ok (min fieldCount fields.length), m')

theorem takeRecord_of_blank (m : Metadata) {record : String} (h : Text.trim (recordLine record.toList) = []) :
    m.takeRecord record = (.error (.tooFewFields 0), m) := by
  unfold takeRecord applyRecord
  rw [recordFields_eq_nil_iff.mpr h]
  rfl

theorem takeRecord_of_not_blank (m : Metadata) {record : String} (h : Text.trim (recordLine record.toList) ≠ []) :
    let fields := Text.splitAt ';' (recordLine record.toList)
    m.takeRecord record = (.ok (min fieldCount fields.length), m.applyFields fields) := by
  intro fields
  have hfields : recordFields (recordLine record.toList) = fields.take fieldCount := by
    rw [recordFields, if_neg (by simpa using h)]
  have henough : ¬(fields.take fieldCount).length < minFieldCount := by
    have hne : fields.take fieldCount ≠ [] := hfields ▸ fun hnil => h (recordFields_eq_nil_iff.mp hnil)
    exact Nat.not_lt.mpr (List.length_pos_iff.mpr hne)
  unfold takeRecord applyRecord
  rw [hfields]
  dsimp only
  rw [if_neg henough, List.length_take, applyFields_take]

theorem taken_iff {m : Metadata} {record : String} {result : Except RecordError Nat × Metadata} :
    Taken m record result ↔ m.takeRecord record = result := by
  have hblank : (∃ c ∈ recordLine record.toList, Text.isBlank c = false) ↔ Text.trim (recordLine record.toList) ≠ [] := by
    rw [Ne, Text.trim_eq_nil_iff]
    simp
  constructor
  · rintro (⟨hline, hall⟩ | ⟨hline, hne, hfields, hm⟩)
    · obtain rfl := isLine_iff.mp hline
      exact takeRecord_of_blank m (Text.trim_eq_nil_iff.mpr hall)
    · obtain rfl := isLine_iff.mp hline
      obtain rfl := Text.pieces_iff.mp hfields
      obtain rfl := replaced_iff.mp hm
      exact takeRecord_of_not_blank m (hblank.mp hne)
  · rintro rfl
    by_cases hline : Text.trim (recordLine record.toList) = []
    · rw [takeRecord_of_blank m hline]
      exact .blank (isLine_iff.mpr rfl) (Text.trim_eq_nil_iff.mp hline)
    · rw [takeRecord_of_not_blank m hline]
      exact .read (isLine_iff.mpr rfl) (hblank.mpr hline) (Text.pieces_iff.mpr rfl) (replaced_iff.mpr rfl)

/-! ### Text that is not read -/

theorem takeRecord_congr (m : Metadata) {r r' : String} (h : recordLine r.toList = recordLine r'.toList) :
    m.takeRecord r = m.takeRecord r' := by
  rw [takeRecord, takeRecord, applyRecord, applyRecord, h]

theorem recordLine_append_cons (cs : List Char) {c : Char} (hc : Utf8.EndsLine c) (rest : List Char) :
    recordLine (cs ++ c :: rest) = recordLine cs := by
  have hend : (c != '\n' && c != '\x00') = false := by
    rcases hc with rfl | rfl <;> decide
  rw [recordLine, Text.takeWhile_append_cons (p := fun c => c != '\n' && c != '\x00') hend, recordLine]

theorem recordLine_append_semicolon {cs : List Char} (h : ∀ c ∈ cs, ¬Utf8.EndsLine c) (rest : List Char) :
    recordLine (cs ++ ';' :: rest) = cs ++ ';' :: recordLine rest := by
  have hcs := List.takeWhile_eq_self_iff.mp (takeWhile_of_not_endsLine h)
  have hline : (';' :: rest).takeWhile (fun c => c != '\n' && c != '\x00') =
      ';' :: rest.takeWhile fun c => c != '\n' && c != '\x00' := List.takeWhile_cons_of_pos (by decide)
  rw [recordLine, List.takeWhile_append_of_pos hcs, hline, Text.dropWhileEnd_append_cons cs (by decide), recordLine]

/-- The carriage returns that a line leaves out are not seen in its fields once these are trimmed. -/
theorem map_trim_splitAt_recordLine {cs : List Char} (h : ∀ c ∈ cs, ¬Utf8.EndsLine c) :
    (Text.splitAt ';' (recordLine cs)).map Text.trim = (Text.splitAt ';' cs).map Text.trim := by
  obtain ⟨returns, hcs, hreturns, -⟩ := isLine_iff.mpr (rfl : recordLine cs = _)
  rw [takeWhile_of_not_endsLine h] at hcs
  have hsep : ';' ∉ returns := fun hmem => absurd (hreturns _ hmem) (by decide)
  have hblank : ∀ c ∈ returns, Text.isBlank c = true := fun c hc => by
    rw [hreturns c hc]
    decide
  have hfields := Text.map_trim_splitAt_append (recordLine cs) hsep hblank
  rw [← hcs] at hfields
  exact hfields.symm

theorem takeRecord_of_semicolon (m : Metadata) {record : String} (h : ';' ∈ recordLine record.toList) :
    let fields := ((Text.splitAt ';' (recordLine record.toList)).map Text.trim).take fieldCount
    m.takeRecord record = (.ok fields.length, m.applyFields fields) := by
  intro fields
  have hne : Text.trim (recordLine record.toList) ≠ [] := fun hnil =>
    absurd (Text.trim_eq_nil_iff.mp hnil _ h) (by decide)
  rw [takeRecord_of_not_blank m hne, applyFields_take, applyFields_map_trim, List.length_take, List.length_map]

theorem takeRecord_append_semicolon (m : Metadata) {record : String} (h : 4 ≤ record.toList.count ';') (rest : String) :
    m.takeRecord (record ++ ";" ++ rest) = m.takeRecord record := by
  have hchars : (record ++ ";" ++ rest).toList = record.toList ++ ';' :: rest.toList := by simp
  -- If the line has ended before, nothing after it is read, fields or not.
  by_cases hends : ∃ c ∈ record.toList, Utf8.EndsLine c
  · obtain ⟨c, hc, hend⟩ := hends
    obtain ⟨before, after, hrecord⟩ := List.append_of_mem hc
    apply takeRecord_congr
    rw [hchars, hrecord, List.append_assoc, List.cons_append, recordLine_append_cons before hend,
      recordLine_append_cons before hend]
  · have hplain : ∀ c ∈ record.toList, ¬Utf8.EndsLine c := fun c hc hend => hends ⟨c, hc, hend⟩
    have hline := recordLine_append_semicolon hplain rest.toList
    rw [← hchars] at hline
    have hfields := map_trim_splitAt_recordLine hplain
    have hcount : (recordLine record.toList).count ';' = record.toList.count ';' := by
      have hlength := congrArg List.length hfields
      simpa only [List.length_map, Text.length_splitAt, Nat.add_right_cancel_iff] using hlength
    have henough : fieldCount ≤ ((Text.splitAt ';' record.toList).map Text.trim).length := by
      rw [List.length_map, Text.length_splitAt]
      exact Nat.succ_le_succ h
    have hsemicolon : ';' ∈ recordLine record.toList := List.count_pos_iff.mp (by omega)
    have hlater : ';' ∈ recordLine (record ++ ";" ++ rest).toList := by
      rw [hline]
      exact List.mem_append_right _ List.mem_cons_self
    rw [takeRecord_of_semicolon m hlater, takeRecord_of_semicolon m hsemicolon, hline,
      Text.splitAt_append_cons, List.map_append, List.take_append_of_le_length henough, hfields]

theorem takeRecord_takeRecord (m : Metadata) (record : String) :
    (m.takeRecord record).2.takeRecord record = m.takeRecord record := by
  cases h : m.applyRecord record with
  | error e =>
    have hrefused : m.takeRecord record = (.error e, m) := by rw [takeRecord, h]
    rw [hrefused, hrefused]
  | ok r =>
    have hread : ∀ {base : Metadata}, base.applyRecord record = .ok r → base.takeRecord record = (.ok r.1, r.2) :=
      fun hr => by rw [takeRecord, hr]
    rw [hread h, hread (applyRecord_applyRecord h)]

/-! ### Any text as a record -/

/-- Every text is taken as a record in exactly the way that `Taken` says. Nothing after the first newline or NUL and
    nothing after the fifth field has a part in it, and taking a record twice is taking it once. -/
theorem takeRecord_tolerant (m : Metadata) (record : String) :
    (∀ result, m.takeRecord record = result ↔ Taken m record result) ∧
      (∀ c rest, Utf8.EndsLine c → m.takeRecord (record ++ String.singleton c ++ rest) = m.takeRecord record) ∧
      (4 ≤ record.toList.count ';' → ∀ rest, m.takeRecord (record ++ ";" ++ rest) = m.takeRecord record) ∧
      (m.takeRecord record).2.takeRecord record = m.takeRecord record := by
  refine ⟨fun result => taken_iff.symm, fun c rest hc => ?_, takeRecord_append_semicolon m,
    takeRecord_takeRecord m record⟩
  have hchars : (record ++ String.singleton c ++ rest).toList = record.toList ++ c :: rest.toList := by simp
  apply takeRecord_congr
  rw [hchars, recordLine_append_cons record.toList hc]

/-- Two fields are replaced; a blank name, a code of no file period and a number that is too large are not taken. -/
example :
    let m : Metadata := ⟨"Mast", .daily, 10, 20, 30⟩
    m.takeRecord " ;7;+015; 4294967296 ; 60\r\nrest" = (.ok 5, ⟨"Mast", .daily, 15, 20, 60⟩) := by
  decide +kernel

end Metadata
end FieldLogger
