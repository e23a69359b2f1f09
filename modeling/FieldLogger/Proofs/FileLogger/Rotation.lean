import FieldLogger.Rotation
import FieldLogger.Proofs.Calendar.Days
import FieldLogger.Proofs.Text.Numerals

/-! Which measurements share a file. For one device name the file is the same for two dates just if they fall in the
    same period, and no file is named by two kinds of period (`fileName_exact`); every name is safe as the name of a
    file. Names of different kinds differ in length, but for those of days and of weeks, and only those of weeks
    have a letter. -/

namespace FieldLogger

/-- The years that are written in four digits. -/
def Date.InFourDigits (d : Date) : Prop := 0 ≤ d.year ∧ d.year ≤ 9999

instance (d : Date) : Decidable d.InFourDigits := inferInstanceAs (Decidable (_ ∧ _))

namespace Rotation

/-- Two dates fall in the same day, week from Monday to Sunday, month of a year, or year. -/
def SamePeriod : FilePeriod → Date → Date → Prop
  | .daily, d, d' => d = d'
  | .weekly, d, d' => d.monday = d'.monday
  | .monthly, d, d' => d.year = d'.year ∧ d.month = d'.month
  | .yearly, d, d' => d.year = d'.year
  | .once, _, _ => True

instance : (p : FilePeriod) → (d d' : Date) → Decidable (SamePeriod p d d')
  | .daily, _, _ => inferInstanceAs (Decidable (_ = _))
  | .weekly, _, _ => inferInstanceAs (Decidable (_ = _))
  | .monthly, _, _ => inferInstanceAs (Decidable (_ ∧ _))
  | .yearly, _, _ => inferInstanceAs (Decidable (_ = _))
  | .once, _, _ => inferInstanceAs (Decidable True)

/-- A letter or digit of ASCII, a hyphen or an underscore. -/
def IsSafe (c : Char) : Prop :=
  'a' ≤ c ∧ c ≤ 'z' ∨ 'A' ≤ c ∧ c ≤ 'Z' ∨ '0' ≤ c ∧ c ≤ '9' ∨ c = '-' ∨ c = '_'

instance (c : Char) : Decidable (IsSafe c) := inferInstanceAs (Decidable (_ ∨ _ ∨ _ ∨ _ ∨ _))

/-- A name for a file: safe characters, at least one of them, and `.csv` after them. -/
def SafeName (name : String) : Prop :=
  ∃ stem, name.toList = stem ++ ['.', 'c', 's', 'v'] ∧ stem ≠ [] ∧ ∀ c ∈ stem, IsSafe c

/-! ### The numbers of a suffix -/

theorem isSafe_of_isDigit {c : Char} (h : c.isDigit = true) : IsSafe c := by
  have hbounds : (decide ('0' ≤ c) && decide (c ≤ '9')) = true := h
  rw [Bool.and_eq_true, decide_eq_true_eq, decide_eq_true_eq] at hbounds
  exact Or.inr (Or.inr (Or.inl hbounds))

theorem month_lt (d : Date) : d.month < 10 ^ 2 := by
  obtain ⟨-, hmonth, -, -⟩ := d.isDate
  omega

theorem day_lt (d : Date) : d.day < 10 ^ 2 := by
  have hday := d.day_le
  omega

theorem yearChars_eq {year : Int} (h : 0 ≤ year ∧ year ≤ 9999) : yearChars year = Text.padded 4 year.natAbs := by
  unfold yearChars
  rw [if_neg (by omega), if_pos h.2]

theorem length_yearChars {year : Int} (h : 0 ≤ year ∧ year ≤ 9999) : (yearChars year).length = 4 := by
  rw [yearChars_eq h]
  exact Text.length_padded (by decide) (by omega)

theorem yearChars_inj {a b : Int} (ha : 0 ≤ a ∧ a ≤ 9999) (hb : 0 ≤ b ∧ b ≤ 9999) (h : yearChars a = yearChars b) :
    a = b := by
  rw [yearChars_eq ha, yearChars_eq hb] at h
  have := Text.padded_inj h
  omega

/-- A week of the years in four digits belongs to one of these years or to the year before them. -/
theorem weekYear_range {d : Date} (h : d.InFourDigits) : -1 ≤ d.weekYear ∧ d.weekYear ≤ 9999 := by
  obtain ⟨hfirst, hlast⟩ := h
  obtain ⟨hlow, hhigh⟩ := d.dayNumber_bounds
  obtain ⟨hweekLow, hweekHigh⟩ := d.weekYear_bounds
  have hnear : d.dayNumber - 3 ≤ Date.thursday d.dayNumber ∧ Date.thursday d.dayNumber ≤ d.dayNumber + 3 := by
    unfold Date.thursday
    omega
  constructor
  · refine Int.not_lt.mp fun hlt => ?_
    have h1 := daysBeforeYear_le (a := d.weekYear + 1) (b := -1) (by omega)
    have h2 := daysBeforeYear_le (a := 0) (b := d.year) hfirst
    have h3 : daysBeforeYear (-1) + 4 < daysBeforeYear 0 := by decide
    omega
  · refine Int.not_lt.mp fun hgt => ?_
    have h1 := daysBeforeYear_le (a := 10000) (b := d.weekYear) (by omega)
    have h2 := daysBeforeYear_le (a := d.year + 1) (b := 10000) (by omega)
    -- the last day of the year 9999 is a Friday
    have h3 : daysBeforeYear 10000 = 3652059 := by decide
    unfold Date.thursday at *
    omega

theorem length_paddedInt {i : Int} (h : -1 ≤ i ∧ i ≤ 9999) : (Text.paddedInt 4 i).length = 4 := by
  unfold Text.paddedInt
  split
  · rw [List.length_cons, Text.length_padded (by decide) (by omega)]
  · exact Text.length_padded (by decide) (by omega)

theorem paddedInt_inj {width : Nat} {a b : Int} (h : Text.paddedInt width a = Text.paddedInt width b) : a = b := by
  have hsign : ∀ {n m : Nat} {cs : List Char}, '-' :: cs ≠ Text.padded m n := fun heq => by
    have hdigit := Text.isDigit_of_mem_padded (heq ▸ List.mem_cons_self : '-' ∈ Text.padded _ _)
    exact Text.ne_of_isDigit hdigit (by decide) rfl
  unfold Text.paddedInt at h
  split at h <;> split at h
  · have := Text.padded_inj (List.cons.inj h).2
    omega
  · exact absurd h hsign
  · exact absurd h.symm hsign
  · have := Text.padded_inj h
    omega

/-! ### Suffixes -/

/-- The characters of a suffix of each kind. -/
def suffixLength : FilePeriod → Nat
  | .daily => 9
  | .weekly => 9
  | .monthly => 7
  | .yearly => 5
  | .once => 0

theorem length_dateSuffix {d : Date} (h : d.InFourDigits) (p : FilePeriod) :
    (dateSuffix d p).length = suffixLength p := by
  have hyear := length_yearChars h
  have hmonth := Text.length_padded (by decide) (month_lt d)
  have hday := Text.length_padded (by decide) (day_lt d)
  have hweekYear := length_paddedInt (weekYear_range h)
  have hweek := Text.length_padded (by decide) (Nat.lt_of_le_of_lt d.week_le (by decide : 53 < 10 ^ 2))
  cases p <;>
    simp only [dateSuffix, suffixLength, List.length_append, List.length_cons, List.length_nil, hyear, hmonth, hday,
      hweekYear, hweek]

theorem of_mem_paddedInt {width : Nat} {i : Int} {c : Char} (h : c ∈ Text.paddedInt width i) :
    c = '-' ∨ c.isDigit = true := by
  unfold Text.paddedInt at h
  split at h
  · rcases List.mem_cons.mp h with rfl | h
    · exact Or.inl rfl
    · exact Or.inr (Text.isDigit_of_mem_padded h)
  · exact Or.inr (Text.isDigit_of_mem_padded h)

/-- A suffix is made of digits after an underscore; that of a week also has a letter, and hyphens. -/
theorem of_mem_dateSuffix {d : Date} (h : d.InFourDigits) {p : FilePeriod} {c : Char} (hc : c ∈ dateSuffix d p) :
    c = '_' ∨ c.isDigit = true ∨ p = .weekly ∧ (c = '-' ∨ c = 'W') := by
  have hyear : c ∈ yearChars d.year → c.isDigit = true := fun hc => by
    rw [yearChars_eq h] at hc
    exact Text.isDigit_of_mem_padded hc
  cases p with
  | daily =>
    simp only [dateSuffix, List.mem_append, List.mem_cons] at hc
    rcases hc with ((rfl | hc) | hc) | hc
    · exact Or.inl rfl
    · exact Or.inr (Or.inl (hyear hc))
    · exact Or.inr (Or.inl (Text.isDigit_of_mem_padded hc))
    · exact Or.inr (Or.inl (Text.isDigit_of_mem_padded hc))
  | weekly =>
    simp only [dateSuffix, List.mem_append, List.mem_cons, List.not_mem_nil, or_false] at hc
    rcases hc with ((rfl | hc) | hc) | hc
    · exact Or.inl rfl
    · rcases of_mem_paddedInt hc with rfl | hc
      · exact Or.inr (Or.inr ⟨rfl, Or.inl rfl⟩)
      · exact Or.inr (Or.inl hc)
    · exact Or.inr (Or.inr ⟨rfl, hc⟩)
    · exact Or.inr (Or.inl (Text.isDigit_of_mem_padded hc))
  | monthly =>
    simp only [dateSuffix, List.mem_append, List.mem_cons] at hc
    rcases hc with (rfl | hc) | hc
    · exact Or.inl rfl
    · exact Or.inr (Or.inl (hyear hc))
    · exact Or.inr (Or.inl (Text.isDigit_of_mem_padded hc))
  | yearly =>
    rcases List.mem_cons.mp hc with rfl | hc
    · exact Or.inl rfl
    · exact Or.inr (Or.inl (hyear hc))
  | once => cases hc

theorem week_mark_mem_iff {d : Date} (h : d.InFourDigits) {p : FilePeriod} : 'W' ∈ dateSuffix d p ↔ p = .weekly := by
  constructor
  · intro hmem
    rcases of_mem_dateSuffix h hmem with hc | hc | ⟨hp, -⟩
    · exact absurd hc (by decide)
    · exact absurd hc (by decide)
    · exact hp
  · rintro rfl
    simp [dateSuffix]

/-- The length of a suffix and the mark of a week tell the kind. -/
theorem period_of_dateSuffix_eq {d d' : Date} (hd : d.InFourDigits) (hd' : d'.InFourDigits) {p p' : FilePeriod}
    (h : dateSuffix d p = dateSuffix d' p') : p = p' := by
  have hlength : suffixLength p = suffixLength p' := by rw [← length_dateSuffix hd, h, length_dateSuffix hd']
  have hweek : p = .weekly ↔ p' = .weekly := by rw [← week_mark_mem_iff hd, h, week_mark_mem_iff hd']
  revert hlength hweek
  cases p <;> cases p' <;> decide

theorem samePeriod_of_dateSuffix_eq {d d' : Date} (hd : d.InFourDigits) (hd' : d'.InFourDigits) {p : FilePeriod}
    (h : dateSuffix d p = dateSuffix d' p) : SamePeriod p d d' := by
  have hyears : (yearChars d.year).length = (yearChars d'.year).length := by
    rw [length_yearChars hd, length_yearChars hd']
  have hmonths : (Text.padded 2 d.month).length = (Text.padded 2 d'.month).length := by
    rw [Text.length_padded (by decide) (month_lt d), Text.length_padded (by decide) (month_lt d')]
  cases p with
  | daily =>
    simp only [dateSuffix, List.append_assoc, List.cons_append] at h
    obtain ⟨hyear, h⟩ := List.append_inj (List.cons.inj h).2 hyears
    obtain ⟨hmonth, hday⟩ := List.append_inj h hmonths
    exact Date.eq_of_parts (yearChars_inj hd hd' hyear) (Text.padded_inj hmonth) (Text.padded_inj hday)
  | weekly =>
    simp only [dateSuffix, List.append_assoc, List.cons_append, List.nil_append] at h
    have hlengths : (Text.paddedInt 4 d.weekYear).length = (Text.paddedInt 4 d'.weekYear).length := by
      rw [length_paddedInt (weekYear_range hd), length_paddedInt (weekYear_range hd')]
    obtain ⟨hyear, h⟩ := List.append_inj (List.cons.inj h).2 hlengths
    have hweek := (List.cons.inj (List.cons.inj h).2).2
    exact Date.weekYear_week_eq_iff.mp ⟨paddedInt_inj hyear, Text.padded_inj hweek⟩
  | monthly =>
    simp only [dateSuffix, List.cons_append] at h
    obtain ⟨hyear, hmonth⟩ := List.append_inj (List.cons.inj h).2 hyears
    exact ⟨yearChars_inj hd hd' hyear, Text.padded_inj hmonth⟩
  | yearly => exact yearChars_inj hd hd' (List.cons.inj h).2
  | once => trivial

theorem dateSuffix_eq_of_samePeriod {d d' : Date} {p : FilePeriod} (h : SamePeriod p d d') :
    dateSuffix d p = dateSuffix d' p := by
  cases p with
  | daily =>
    obtain rfl := h
    rfl
  | weekly =>
    obtain ⟨hyear, hweek⟩ := Date.weekYear_week_eq_iff.mpr h
    rw [dateSuffix, dateSuffix, hyear, hweek]
  | monthly =>
    obtain ⟨hyear, hmonth⟩ := h
    rw [dateSuffix, dateSuffix, hyear, hmonth]
  | yearly =>
    have hyear : d.year = d'.year := h
    rw [dateSuffix, dateSuffix, hyear]
  | once => rfl

/-! ### Names -/

theorem isSafe_of_isUpper {c : Char} (h : c.isUpper = true) : IsSafe c := by
  have hbounds : decide ('A' ≤ c ∧ c ≤ 'Z') = true := h
  exact Or.inr (Or.inl (of_decide_eq_true hbounds))

theorem isSafe_of_isLower {c : Char} (h : c.isLower = true) : IsSafe c := by
  have hbounds : (decide ('a' ≤ c) && decide (c ≤ 'z')) = true := h
  rw [Bool.and_eq_true, decide_eq_true_eq, decide_eq_true_eq] at hbounds
  exact Or.inl hbounds

theorem isSafe_of_isPortable {c : Char} (h : isPortable c = true) : IsSafe c := by
  have hkinds : ((((c.isUpper || c.isLower) || c.isDigit) || c == '-') || c == '_') = true := h
  simp only [Bool.or_eq_true, beq_iff_eq] at hkinds
  rcases hkinds with (((h | h) | h) | rfl) | rfl
  · exact isSafe_of_isUpper h
  · exact isSafe_of_isLower h
  · exact isSafe_of_isDigit h
  · decide
  · decide

theorem baseName_ne_nil (name : String) : baseName name ≠ [] := by
  unfold baseName
  dsimp only
  split
  · decide
  · rename_i h
    simpa using h

theorem isSafe_of_mem_baseName {name : String} {c : Char} (h : c ∈ baseName name) : IsSafe c := by
  unfold baseName at h
  dsimp only at h
  split at h
  · have hall : ['l', 'o', 'g', 'g', 'e', 'r'].all isPortable = true := by decide
    exact isSafe_of_isPortable (List.all_eq_true.mp hall c h)
  · obtain ⟨d, -, rfl⟩ := List.mem_map.mp h
    split
    · exact isSafe_of_isPortable ‹_›
    · decide

theorem isSafe_of_mem_dateSuffix {d : Date} (h : d.InFourDigits) {p : FilePeriod} {c : Char}
    (hc : c ∈ dateSuffix d p) : IsSafe c := by
  rcases of_mem_dateSuffix h hc with rfl | hc | ⟨-, rfl | rfl⟩
  · decide
  · exact isSafe_of_isDigit hc
  · decide
  · decide

theorem safeName_fileName {d : Date} (h : d.InFourDigits) (name : String) (p : FilePeriod) :
    SafeName (fileName name p d) := by
  refine ⟨baseName name ++ dateSuffix d p, String.toList_ofList, ?_, fun c hc => ?_⟩
  · exact fun hnil => baseName_ne_nil name (List.append_eq_nil_iff.mp hnil).1
  · rcases List.mem_append.mp hc with hc | hc
    · exact isSafe_of_mem_baseName hc
    · exact isSafe_of_mem_dateSuffix h hc

theorem fileName_eq_fileName_iff {name : String} {p p' : FilePeriod} {d d' : Date} :
    fileName name p d = fileName name p' d' ↔ dateSuffix d p = dateSuffix d' p' := by
  refine ⟨fun h => ?_, fun h => by rw [fileName, fileName, h]⟩
  have hchars := congrArg String.toList h
  rw [fileName, fileName, String.toList_ofList, String.toList_ofList] at hchars
  exact List.append_cancel_left (List.append_cancel_right hchars)

/-- For a device, two dates share a file just if the files are for one kind of period and the dates fall in the same
    one. The name is safe, whatever the device is called. -/
theorem fileName_exact (name : String) {d d' : Date} (hd : d.InFourDigits) (hd' : d'.InFourDigits)
    (p p' : FilePeriod) :
    (fileName name p d = fileName name p' d' ↔ p = p' ∧ SamePeriod p d d') ∧ SafeName (fileName name p d) := by
  refine ⟨?_, safeName_fileName hd name p⟩
  rw [fileName_eq_fileName_iff]
  constructor
  · intro h
    obtain rfl := period_of_dateSuffix_eq hd hd' h
    exact ⟨rfl, samePeriod_of_dateSuffix_eq hd hd' h⟩
  · rintro ⟨rfl, h⟩
    exact dateSuffix_eq_of_samePeriod h

/-- A Monday at the end of one year and the Sunday after it, in the next, share a file; the Monday after does not. -/
theorem fileName_exact_new_year :
    let monday : Date := ⟨2018, 12, 31, by decide⟩
    let sunday : Date := ⟨2019, 1, 6, by decide⟩
    let next : Date := ⟨2019, 1, 7, by decide⟩
    (fileName "a/b" .weekly monday = fileName "a/b" .weekly sunday ∧ SafeName (fileName "a/b" .weekly monday)) ∧
      fileName "a/b" .weekly monday ≠ fileName "a/b" .weekly next := by
  intro monday sunday next
  have hmonday : monday.InFourDigits := by decide
  obtain ⟨hsame, hsafe⟩ := fileName_exact "a/b" hmonday (by decide : sunday.InFourDigits) .weekly .weekly
  obtain ⟨hother, -⟩ := fileName_exact "a/b" hmonday (by decide : next.InFourDigits) .weekly .weekly
  refine ⟨⟨hsame.mpr ⟨rfl, by decide⟩, hsafe⟩, fun h => ?_⟩
  exact absurd (hother.mp h).2 (by decide)

end Rotation
end FieldLogger
