import FieldLogger.Pipeline
import FieldLogger.Proofs.Text.Numerals

/-! A measurement record is taken apart again (`record_decodable`). It is one line of six fields: no reading is written
    with a semicolon, with a newline or with nothing at all, so the semicolons of the line are those between its fields,
    and a field is empty just if its sensor gave no reading. Hence the record tells the time stamp, the whole numbers and
    the text of the temperature. -/

namespace FieldLogger

/-! ### Texts of readings -/

namespace Sample

/-- A character that ends neither a field nor the line. -/
def InField (c : Char) : Prop := c ≠ ';' ∧ c ≠ '\n'

instance : DecidablePred InField := fun c => inferInstanceAs (Decidable (c ≠ ';' ∧ c ≠ '\n'))

theorem inField_of_isDigit {c : Char} (h : c.isDigit = true) : InField c :=
  ⟨Text.ne_of_isDigit h (by decide), Text.ne_of_isDigit h (by decide)⟩

theorem inField_of_mem_numeral {n : Nat} {c : Char} (h : c ∈ Text.numeral n) : InField c :=
  inField_of_isDigit (Text.isDigit_of_mem_numeral h)

theorem inField_of_not_mem {cs : List Char} (hsep : ';' ∉ cs) (hend : '\n' ∉ cs) : ∀ c ∈ cs, InField c :=
  fun _ hc => ⟨fun h => hsep (h ▸ hc), fun h => hend (h ▸ hc)⟩

end Sample

namespace Binary32

theorem inField_of_mem_chars {x : Binary32} {c : Char} (h : c ∈ x.chars) : Sample.InField c := by
  have hsign : ∀ {c}, c ∈ (if x.isNegative then ['-'] else []) → Sample.InField c := by
    intro c hc
    split at hc
    · rw [List.mem_singleton.mp hc]
      decide
    · cases hc
  unfold chars at h
  split at h
  · simp only [List.mem_cons, List.not_mem_nil, or_false] at h
    rcases h with rfl | rfl | rfl <;> decide
  · dsimp only at h
    split at h
    · simp only [List.mem_append, List.mem_cons] at h
      rcases h with (h | h) | rfl | h
      · exact hsign h
      · exact Sample.inField_of_mem_numeral h
      · decide
      · exact Sample.inField_of_isDigit (Text.isDigit_of_mem_padded h)
    · simp only [List.mem_append, List.mem_cons, List.not_mem_nil, or_false] at h
      rcases h with h | rfl | rfl | rfl
      · exact hsign h
      all_goals decide

theorem chars_ne_nil (x : Binary32) : x.chars ≠ [] := by
  unfold chars
  split
  · exact List.cons_ne_nil _ _
  · dsimp only
    split <;> exact List.append_ne_nil_of_right_ne_nil _ (List.cons_ne_nil _ _)

end Binary32

/-! ### Fields -/

namespace Sample

/-- A field shows a reading by its text, which is not empty, and is empty if there is no reading. -/
def Shows {α : Type} (chars : α → List Char) : Option α → List Char → Prop
  | .none, field => field = []
  | .some a, field => field = chars a ∧ field ≠ []

theorem shows_field {α : Type} {chars : α → List Char} (h : ∀ a, chars a ≠ []) (reading : Option α) :
    Shows chars reading (field chars reading) := by
  cases reading with
  | none => rfl
  | some a => exact ⟨rfl, h a⟩

theorem inField_of_mem_field {α : Type} {chars : α → List Char} (h : ∀ a, ∀ c ∈ chars a, InField c)
    (reading : Option α) : ∀ c ∈ field chars reading, InField c := by
  cases reading with
  | none => exact fun _ hc => nomatch hc
  | some a => exact h a

theorem Shows.map_eq {α : Type} {chars : α → List Char} {reading reading' : Option α} {field : List Char}
    (h : Shows chars reading field) (h' : Shows chars reading' field) : reading.map chars = reading'.map chars := by
  cases reading with
  | none =>
    cases reading' with
    | none => rfl
    | some a' => exact absurd h h'.2
  | some a =>
    cases reading' with
    | none => exact absurd h' h.2
    | some a' => rw [Option.map_some, Option.map_some, ← h.1, ← h'.1]

/-- Whole numbers are told from their numerals. -/
theorem Shows.eq {α : Type} {toNat : α → Nat} (hinj : ∀ {a b}, toNat a = toNat b → a = b) {reading reading' : Option α}
    {field : List Char} (h : Shows (fun a => Text.numeral (toNat a)) reading field)
    (h' : Shows (fun a => Text.numeral (toNat a)) reading' field) : reading = reading' :=
  Option.map_injective (fun _ _ hab => hinj (Text.numeral_inj hab)) (h.map_eq h')

/-! ### Records -/

/-- The fields of a record, in order. -/
def fields (s : Sample) (timestamp : String) : List (List Char) :=
  [Text.numeral layoutVersion, timestamp.toList, field Binary32.chars s.temperature,
    field (fun h => Text.numeral h.toNat) s.humidity, field (fun r => Text.numeral r.toNat) s.rain,
    field (fun w => Text.numeral w.toNat) s.wind]

theorem toList_record (s : Sample) (timestamp : String) :
    (s.record timestamp).toList = [';'].intercalate (s.fields timestamp) ++ ['\n'] := by
  unfold record fields
  simp only [String.toList_ofList, List.intercalate_cons_cons, List.intercalate_singleton, List.append_assoc,
    List.nil_append, List.cons_append]

theorem inField_of_mem_fields {timestamp : String} (hstamp : ∀ c ∈ timestamp.toList, InField c) {s : Sample}
    {piece : List Char} (hpiece : piece ∈ s.fields timestamp) : ∀ c ∈ piece, InField c := by
  have hnumeral : ∀ n, ∀ c ∈ Text.numeral n, InField c := fun _ _ => inField_of_mem_numeral
  simp only [fields, List.mem_cons, List.not_mem_nil, or_false] at hpiece
  rcases hpiece with rfl | rfl | rfl | rfl | rfl | rfl
  · exact hnumeral _
  · exact hstamp
  · exact inField_of_mem_field (fun _ _ => Binary32.inField_of_mem_chars) s.temperature
  · exact inField_of_mem_field (fun h => hnumeral h.toNat) s.humidity
  · exact inField_of_mem_field (fun r => hnumeral r.toNat) s.rain
  · exact inField_of_mem_field (fun w => hnumeral w.toNat) s.wind

theorem pieces_fields {timestamp : String} (hstamp : ∀ c ∈ timestamp.toList, InField c) (s : Sample) :
    Text.Pieces ';' ([';'].intercalate (s.fields timestamp)) (s.fields timestamp) where
  joined := rfl
  nonempty := List.cons_ne_nil _ _
  apart _ hpiece hmem := (inField_of_mem_fields hstamp hpiece _ hmem).1 rfl

theorem not_mem_line {timestamp : String} (hstamp : ∀ c ∈ timestamp.toList, InField c) (s : Sample) :
    '\n' ∉ [';'].intercalate (s.fields timestamp) := by
  intro hmem
  rcases Text.mem_of_mem_intercalate hmem with hsep | ⟨piece, hpiece, hmem⟩
  · exact absurd hsep (by decide)
  · exact (inField_of_mem_fields hstamp hpiece _ hmem).2 rfl

/-- The fields tell the time stamp and the readings. -/
theorem fields_eq_iff {s s' : Sample} {timestamp timestamp' : String} :
    s.fields timestamp = s'.fields timestamp' ↔
      timestamp = timestamp' ∧ s.temperature.map Binary32.chars = s'.temperature.map Binary32.chars ∧
        s.humidity = s'.humidity ∧ s.rain = s'.rain ∧ s.wind = s'.wind := by
  constructor
  · intro h
    simp only [fields, List.cons.injEq, and_true, true_and] at h
    obtain ⟨hstamp, htemperature, hhumidity, hrain, hwind⟩ := h
    have hshown : ∀ {α : Type} (toNat : α → Nat) (reading : Option α),
        Shows (fun a => Text.numeral (toNat a)) reading (field (fun a => Text.numeral (toNat a)) reading) :=
      fun toNat => shows_field fun a => Nat.toDigits_ne_nil
    refine ⟨String.toList_inj.mp hstamp, ?_, ?_, ?_, ?_⟩
    · exact (shows_field Binary32.chars_ne_nil _).map_eq (htemperature ▸ shows_field Binary32.chars_ne_nil _)
    · exact (hshown UInt8.toNat _).eq UInt8.toNat_inj.mp (hhumidity ▸ hshown UInt8.toNat _)
    · exact (hshown UInt16.toNat _).eq UInt16.toNat_inj.mp (hrain ▸ hshown UInt16.toNat _)
    · exact (hshown UInt16.toNat _).eq UInt16.toNat_inj.mp (hwind ▸ hshown UInt16.toNat _)
  · rintro ⟨rfl, htemperature, hhumidity, hrain, hwind⟩
    simp only [fields, field, htemperature, hhumidity, hrain, hwind]

theorem record_eq_iff {s s' : Sample} {timestamp timestamp' : String} (hstamp : ∀ c ∈ timestamp.toList, InField c)
    (hstamp' : ∀ c ∈ timestamp'.toList, InField c) :
    s.record timestamp = s'.record timestamp' ↔ s.fields timestamp = s'.fields timestamp' := by
  constructor
  · intro h
    have hline : [';'].intercalate (s.fields timestamp) = [';'].intercalate (s'.fields timestamp') := by
      have hchars := congrArg String.toList h
      rw [toList_record, toList_record] at hchars
      exact List.append_cancel_right hchars
    rw [← Text.pieces_iff.mp (pieces_fields hstamp s), hline, Text.pieces_iff.mp (pieces_fields hstamp' s')]
  · intro h
    rw [← String.toList_inj, toList_record, toList_record, h]

/-- A record is one line, which the semicolons cut into the version, the time stamp and a field for each reading. Two
    records are the same just if they tell the same time stamp, the same whole numbers and the same text of the
    temperature, each of them absent from both or from neither. -/
theorem record_decodable {timestamp : String} (hsep : ';' ∉ timestamp.toList) (hend : '\n' ∉ timestamp.toList)
    (s : Sample) :
    (∃ line temperature humidity rain wind, (s.record timestamp).toList = line ++ ['\n'] ∧ '\n' ∉ line ∧
      Text.Pieces ';' line [['1'], timestamp.toList, temperature, humidity, rain, wind] ∧
      Shows Binary32.chars s.temperature temperature ∧ Shows (fun h => Text.numeral h.toNat) s.humidity humidity ∧
      Shows (fun r => Text.numeral r.toNat) s.rain rain ∧ Shows (fun w => Text.numeral w.toNat) s.wind wind) ∧
    ∀ (timestamp' : String) (s' : Sample), ';' ∉ timestamp'.toList → '\n' ∉ timestamp'.toList →
      (s.record timestamp = s'.record timestamp' ↔
        timestamp = timestamp' ∧ s.temperature.map Binary32.chars = s'.temperature.map Binary32.chars ∧
          s.humidity = s'.humidity ∧ s.rain = s'.rain ∧ s.wind = s'.wind) := by
  have hstamp := inField_of_not_mem hsep hend
  have hnumeral : ∀ n, Text.numeral n ≠ [] := fun _ => Nat.toDigits_ne_nil
  refine ⟨⟨_, _, _, _, _, toList_record s timestamp, not_mem_line hstamp s, pieces_fields hstamp s,
    shows_field Binary32.chars_ne_nil _, shows_field (fun _ => hnumeral _) _, shows_field (fun _ => hnumeral _) _,
    shows_field (fun _ => hnumeral _) _⟩, fun timestamp' s' hsep' hend' => ?_⟩
  rw [record_eq_iff hstamp (inField_of_not_mem hsep' hend'), fields_eq_iff]

/-- The record tells a temperature just below zero from zero, though both are shown as zero. -/
theorem record_decodable_below_zero :
    let stamp := "29/02/2024 23:59:60"
    let below : Sample := ⟨some ⟨0x80000001⟩, .none, some 0, some 65535⟩
    let zero : Sample := ⟨some ⟨0⟩, .none, some 0, some 65535⟩
    below.record stamp = "1;29/02/2024 23:59:60;-0.00;;0;65535\n" ∧ ';' ∉ stamp.toList ∧ '\n' ∉ stamp.toList ∧
      below.record stamp ≠ zero.record stamp := by
  intro stamp below zero
  have hsep : ';' ∉ stamp.toList := by decide
  have hend : '\n' ∉ stamp.toList := by decide
  refine ⟨by decide +kernel, hsep, hend, fun h => ?_⟩
  obtain ⟨-, htemperature, -⟩ := ((record_decodable hsep hend below).2 stamp zero hsep hend).mp h
  exact absurd htemperature (by decide +kernel)

end Sample
end FieldLogger
