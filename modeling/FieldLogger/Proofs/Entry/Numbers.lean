import FieldLogger.Entry
import FieldLogger.Proofs.Metadata.RoundTrip

/-! Numbers as an operator types them. Without the blanks around it an entry is taken if it is decimal digits alone
    that write a number in range; a number out of range is named in the refusal, and any other text is refused as
    none (`NumberJudged`). What was taken is read back from a record as it was written there
    (`typed_numbers_exact`). -/

namespace FieldLogger.Entry

/-- Decimal digits alone that write the number; zeros may stand before it. -/
structure Number (cs : List Char) (n : Nat) : Prop where
  some : cs ≠ []
  digits : ∀ c ∈ cs, c.isDigit = true
  value : Nat.ofDigitChars 10 cs 0 = n

/-- What becomes of a text, without the blanks around it, that is entered for a value: `value` numbers the values
    that can be entered, up to `most`, and `refusal` is the error for the numbers beyond. -/
inductive NumberJudged {α : Type} (value : α → Nat) (most : Nat) (refusal : Nat → EntryError) (t : List Char) :
    Except EntryError α → Prop where
  | empty (h : t = []) : NumberJudged value most refusal t (.error .empty)
  | notANumber (hne : t ≠ []) (h : ∀ n, Number t n → UInt64.size ≤ n) :
    NumberJudged value most refusal t (.error (.notANumber (String.ofList t)))
  | outOfRange {n : Nat} (h : Number t n) (hlt : n < UInt64.size) (hout : most < n) :
    NumberJudged value most refusal t (.error (refusal n))
  | accepted {a : α} (h : Number t (value a)) (hin : value a ≤ most) : NumberJudged value most refusal t (.ok a)

/-! ### Reading a number -/

theorem digits?_eq_some_iff {cs : List Char} {n : Nat} : Text.digits? cs = some n ↔ Number cs n := by
  rw [Text.digits?_eq_some_iff]
  exact ⟨fun h => ⟨h.1, h.2.1, h.2.2⟩, fun h => ⟨h.some, h.digits, h.value⟩⟩

section
variable {input : String} {t : List Char} (ht : Text.Trimmed input.toList t)
include ht

theorem number_of_empty (h : t = []) : number input = .error .empty := by
  unfold number
  rw [Text.trimmed_iff.mp ht, h]
  rfl

theorem number_of_ne_nil (hne : t ≠ []) :
    number input =
      match (Text.digits? t).filter (· < UInt64.size) with
      | some n => .ok n
      | none => .error (.notANumber (String.ofList t)) := by
  unfold number
  rw [Text.trimmed_iff.mp ht]
  exact if_neg (by simpa using hne)

theorem number_of_number {n : Nat} (h : Number t n) (hlt : n < UInt64.size) : number input = .ok n := by
  rw [number_of_ne_nil ht h.some, digits?_eq_some_iff.mpr h, Option.filter_some, if_pos (decide_eq_true hlt)]

theorem number_of_not_number (hne : t ≠ []) (h : ∀ n, Number t n → UInt64.size ≤ n) :
    number input = .error (.notANumber (String.ofList t)) := by
  have hnone : (Text.digits? t).filter (· < UInt64.size) = none := by
    rw [Option.eq_none_iff_forall_ne_some]
    intro n hn
    obtain ⟨hdigits, hlt⟩ := Option.filter_eq_some_iff.mp hn
    exact absurd (of_decide_eq_true hlt) (Nat.not_lt.mpr (h n (digits?_eq_some_iff.mp hdigits)))
  rw [number_of_ne_nil ht hne, hnone]

/-- An entry that is read as a number and then checked is judged as the check judges each number. -/
theorem number_bind_eq_iff {α : Type} {value : α → Nat} {most : Nat} {refusal : Nat → EntryError}
    {check : Nat → Except EntryError α} (hmost : most < UInt64.size)
    (hin : ∀ n, n ≤ most → ∃ a, value a = n ∧ check n = .ok a) (hout : ∀ n, most < n → check n = .error (refusal n))
    (hinj : ∀ a b, value a = value b → a = b) (r : Except EntryError α) :
    (number input).bind check = r ↔ NumberJudged value most refusal t r := by
  have hcheck : ∀ {n}, Number t n → n < UInt64.size → (number input).bind check = check n := fun h hlt => by
    rw [number_of_number ht h hlt]
    rfl
  constructor
  · rintro rfl
    by_cases hne : t = []
    · rw [number_of_empty ht hne]
      exact .empty hne
    · by_cases hform : ∃ n, Number t n ∧ n < UInt64.size
      · obtain ⟨n, h, hlt⟩ := hform
        rw [hcheck h hlt]
        rcases Nat.lt_or_ge most n with hn | hn
        · rw [hout n hn]
          exact .outOfRange h hlt hn
        · obtain ⟨a, rfl, ha⟩ := hin n hn
          rw [ha]
          exact .accepted h hn
      · have hform : ∀ n, Number t n → UInt64.size ≤ n := fun n h => Nat.not_lt.mp fun hlt => hform ⟨n, h, hlt⟩
        rw [number_of_not_number ht hne hform]
        exact .notANumber hne hform
  · intro h
    cases h with
    | empty h =>
      rw [number_of_empty ht h]
      rfl
    | notANumber hne h =>
      rw [number_of_not_number ht hne h]
      rfl
    | outOfRange h hlt hn => rw [hcheck h hlt, hout _ hn]
    | accepted h hn =>
      obtain ⟨b, hb, hb'⟩ := hin _ hn
      rw [hcheck h (Nat.lt_of_le_of_lt hn hmost), hb', hinj b _ hb]

/-! ### Minutes and file periods -/

theorem minutes_eq_iff (r : Except EntryError UInt32) :
    minutes input = r ↔ NumberJudged UInt32.toNat 10080 .periodOutOfRange t r := by
  refine number_bind_eq_iff ht (by decide) (fun n hn => ?_) (fun n hn => if_pos hn) (fun _ _ => UInt32.toNat_inj.mp) r
  exact ⟨UInt32.ofNat n, UInt32.toNat_ofNat_of_lt' (Nat.lt_of_le_of_lt hn (by decide)), if_neg (Nat.not_lt.mpr hn)⟩

theorem filePeriod_eq_iff (r : Except EntryError FilePeriod) :
    filePeriod input = r ↔ NumberJudged FilePeriod.code 4 .invalidFileCode t r := by
  refine number_bind_eq_iff ht (by decide) (fun n hn => ?_) (fun n hn => ?_) (fun p q h => ?_) r
  · match n, hn with
    | 0, _ => exact ⟨.daily, rfl, rfl⟩
    | 1, _ => exact ⟨.weekly, rfl, rfl⟩
    | 2, _ => exact ⟨.monthly, rfl, rfl⟩
    | 3, _ => exact ⟨.yearly, rfl, rfl⟩
    | 4, _ => exact ⟨.once, rfl, rfl⟩
  · match n, hn with
    | n + 5, _ => rfl
  · have hcode := congrArg FilePeriod.ofCode? h
    rwa [FilePeriod.ofCode?_code, FilePeriod.ofCode?_code, Option.some.injEq] at hcode

end

/-! ### Written and read back -/

/-- With `t` the text of an entry without the blanks around it: an entry for a period in minutes is taken exactly if
    `t` is digits that write a number up to 10080, and one for a file period if they write one up to 4, the code of
    the period; every number beyond that is below 2^64 is refused by its value, an empty `t` as empty, and any other
    text as no number. A value that was taken is read back from the record that it was written into, whatever record
    was there before. No name holds a separator or an end of line, at which the fields after it would be lost. -/
theorem typed_numbers_exact {input : String} {t : List Char} (ht : Text.Trimmed input.toList t) :
    (∀ r, minutes input = r ↔ NumberJudged UInt32.toNat 10080 .periodOutOfRange t r) ∧
    (∀ r, filePeriod input = r ↔ NumberJudged FilePeriod.code 4 .invalidFileCode t r) ∧
    ∀ base m : Metadata, (∀ c ∈ m.name.toList, c ≠ ';' ∧ ¬Utf8.EndsLine c) →
      (∀ n, minutes input = .ok n →
        (base.applyRecord { m with transmission := n }.toRecord).map (·.2.transmission) = .ok n ∧
        (base.applyRecord { m with measurement := n }.toRecord).map (·.2.measurement) = .ok n ∧
        (base.applyRecord { m with report := n }.toRecord).map (·.2.report) = .ok n) ∧
      ∀ p, filePeriod input = .ok p →
        (base.applyRecord { m with filePeriod := p }.toRecord).map (·.2.filePeriod) = .ok p := by
  refine ⟨minutes_eq_iff ht, filePeriod_eq_iff ht, fun base m hname => ?_⟩
  have hback : ∀ {k : Metadata}, k.name = m.name →
      base.applyRecord k.toRecord =
        .ok (Metadata.fieldCount, { k with name := Metadata.readName base.name k.name.toList }) := fun hsame =>
    base.applyRecord_toRecord_of_plain (by rwa [hsame])
  refine ⟨fun n _ => ⟨?_, ?_, ?_⟩, fun p _ => ?_⟩
  · rw [hback (k := { m with transmission := n }) rfl]
    rfl
  · rw [hback (k := { m with measurement := n }) rfl]
    rfl
  · rw [hback (k := { m with report := n }) rfl]
    rfl
  · rw [hback (k := { m with filePeriod := p }) rfl]
    rfl

/-- A week in minutes, with zeros before it and blanks around it. -/
theorem typed_numbers_exact_week :
    Text.Trimmed " 0010080\t".toList "0010080".toList ∧ minutes " 0010080\t" = .ok 10080 ∧
      filePeriod " 0010080\t" = .error (.invalidFileCode 10080) ∧
      (Metadata.factory.applyRecord { Metadata.factory with measurement := 10080 }.toRecord).map (·.2.measurement) =
        .ok 10080 := by
  have ht : Text.Trimmed " 0010080\t".toList "0010080".toList := Text.trimmed_iff.mpr (by decide)
  obtain ⟨hminutes, hperiod, hback⟩ := typed_numbers_exact ht
  have hnumber : Number "0010080".toList 10080 := digits?_eq_some_iff.mp (by decide)
  have hweek : minutes " 0010080\t" = .ok 10080 := (hminutes _).mpr (.accepted hnumber (by decide))
  exact ⟨ht, hweek, (hperiod _).mpr (.outOfRange hnumber (by decide) (by decide)),
    ((hback .factory .factory Storable.factory.plain).1 10080 hweek).2.1⟩

end FieldLogger.Entry
