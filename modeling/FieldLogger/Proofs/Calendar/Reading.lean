import Mathlib.Data.List.TakeWhile
import FieldLogger.Proofs.Entry.TimeAndDate
import FieldLogger.Proofs.FileLogger.Rotation
import FieldLogger.Proofs.Measurement.RecordSize

/-! Reading the text of a clock. A clock is read back from its timestamp, in a leap second too (`read?_timestamp`), and
    a text without a sign names a year in four digits (`inFourDigits_of_no_sign`). -/

namespace FieldLogger

theorem yearChars_cases (year : Int) :
    0 ≤ year ∧ year ≤ 9999 ∧ yearChars year = Text.padded 4 year.natAbs ∨
      year < 0 ∧ yearChars year = '-' :: Text.padded 4 year.natAbs ∨
      9999 < year ∧ yearChars year = '+' :: Text.padded 4 year.natAbs := by
  unfold yearChars
  split
  · exact Or.inr (Or.inl ⟨‹_›, rfl⟩)
  · split
    · exact Or.inl ⟨by omega, ‹_›, rfl⟩
    · exact Or.inr (Or.inr ⟨by omega, rfl⟩)

namespace Clock

/-! ### Numbers read back -/

theorem dropWhile_isBlank_of_isDigit {cs : List Char} (h : ∃ c, cs.head? = some c ∧ c.isDigit = true) :
    cs.dropWhile Text.isBlank = cs := by
  obtain ⟨c, hhead, hc⟩ := h
  refine Text.dropWhile_eq_self fun d hd => ?_
  rw [hhead] at hd
  exact Option.some.inj hd ▸ Text.isBlank_eq_false_of_isDigit hc

theorem readNumber?_padded {width n : Nat} (hw : 0 < width) (h : n < 10 ^ width) (rest : List Char) :
    readNumber? width (Text.padded width n ++ rest) = some (n, rest) := by
  unfold readNumber?
  rw [dropWhile_isBlank_of_isDigit (Text.head?_padded width n rest)]
  dsimp only
  rw [List.take_left' (Text.length_padded hw h), Text.takeWhile_isDigit_padded, if_neg (by simp [Text.padded_ne_nil]),
    Text.ofDigitChars_padded, List.drop_left]

theorem readNumber?_cons_of_blank (width : Nat) {c : Char} (hc : Text.isBlank c = true) (cs : List Char) :
    readNumber? width (c :: cs) = readNumber? width cs := by
  unfold readNumber?
  rw [List.dropWhile_cons_of_pos hc]

/-- The digits after a sign, however many, and what follows them. -/
def readDigits? (cs : List Char) : Option (Nat × List Char) :=
  let ds := cs.takeWhile Char.isDigit
  if ds.isEmpty then none else some (Nat.ofDigitChars 10 ds 0, cs.drop ds.length)

theorem readDigits?_padded (width n : Nat) {c : Char} (hc : c.isDigit = false) (rest : List Char) :
    readDigits? (Text.padded width n ++ c :: rest) = some (n, c :: rest) := by
  unfold readDigits?
  dsimp only
  rw [Text.takeWhile_append_cons hc, Text.takeWhile_isDigit_padded, if_neg (by simp [Text.padded_ne_nil]),
    Text.ofDigitChars_padded, List.drop_left]

theorem readYear?_minus (cs : List Char) : readYear? ('-' :: cs) = (readDigits? cs).map fun (n, rest) => (-n, rest) :=
  rfl

theorem readYear?_plus (cs : List Char) : readYear? ('+' :: cs) = (readDigits? cs).map fun (n, rest) => (n, rest) :=
  rfl

theorem readYear?_of_isDigit {cs : List Char} (h : ∃ c, cs.head? = some c ∧ c.isDigit = true) :
    readYear? cs = (readNumber? 4 cs).map fun (n, rest) => (n, rest) := by
  have hstart := dropWhile_isBlank_of_isDigit h
  obtain ⟨c, hhead, hc⟩ := h
  unfold readYear?
  dsimp only
  rw [hstart]
  split
  · obtain rfl := Option.some.inj hhead
    exact absurd hc (by decide)
  · obtain rfl := Option.some.inj hhead
    exact absurd hc (by decide)
  · rfl

theorem readYear?_yearChars (year : Int) (rest : List Char) :
    readYear? (yearChars year ++ ' ' :: rest) = some (year, ' ' :: rest) := by
  have hvalue : (0 ≤ year → (year.natAbs : Int) = year) ∧ (year < 0 → -(year.natAbs : Int) = year) := by omega
  rcases yearChars_cases year with ⟨hlow, hhigh, hchars⟩ | ⟨hyear, hchars⟩ | ⟨hyear, hchars⟩ <;> rw [hchars]
  · rw [readYear?_of_isDigit (Text.head?_padded 4 _ _), readNumber?_padded (by decide) (by omega), Option.map_some]
    dsimp only
    rw [hvalue.1 hlow]
  · rw [List.cons_append, readYear?_minus, readDigits?_padded 4 _ (by decide), Option.map_some]
    dsimp only
    rw [hvalue.2 hyear]
  · rw [List.cons_append, readYear?_plus, readDigits?_padded 4 _ (by decide), Option.map_some]
    dsimp only
    rw [hvalue.1 (by omega)]

/-! ### Timestamps read back -/

theorem read?_timestamp {c : Clock} (h : c.InRange) : read? c.timestamp = some c := by
  have htext : c.timestamp.toList = Text.padded 2 c.date.day ++ '/' :: (Text.padded 2 c.date.month ++
      '/' :: (yearChars c.date.year ++ ' ' :: (Text.padded 2 c.time.hour ++
        ':' :: (Text.padded 2 c.time.minute ++ ':' :: (Text.padded 2 c.time.second ++ []))))) := by
    simp only [timestamp, String.toList_ofList, Date.chars, TimeOfDay.chars, List.append_assoc, List.cons_append,
      List.append_nil]
  obtain ⟨hhour, hminute, hsecond⟩ := c.time.isTime
  have hnumber : ∀ {n : Nat}, n < 10 ^ 2 → ∀ rest, readNumber? 2 (Text.padded 2 n ++ rest) = some (n, rest) :=
    readNumber?_padded (by decide)
  have hskip : ∀ (x : Char) (rest : List Char), skip? x (x :: rest) = some rest := fun _ _ => if_pos rfl
  have hgap := readNumber?_cons_of_blank 2 (by decide : Text.isBlank ' ' = true)
  have hdate : Date.of? c.date.year c.date.month c.date.day = some c.date :=
    Date.of?_eq_some_iff.mpr ⟨rfl, rfl, rfl⟩
  have htime : TimeOfDay.of? c.time.hour c.time.minute c.time.second = some c.time := dif_pos c.time.isTime
  have hyear : ¬(([] : List Char) ≠ [] ∨ c.date.year < -maxYear - 1 ∨ maxYear < c.date.year) := by
    unfold InRange at h
    simp only [ne_eq, not_true_eq_false, false_or]
    omega
  unfold read?
  simp only [htext, hnumber (Rotation.day_lt c.date), hnumber (Rotation.month_lt c.date), readYear?_yearChars, hgap,
    hnumber (Nat.lt_trans hhour (by decide)), hnumber (Nat.lt_trans hminute (by decide)),
    hnumber (Nat.lt_of_le_of_lt hsecond (by decide)), hskip, Option.bind_eq_bind, Option.bind_some]
  rw [if_neg hyear, hdate, htime]
  rfl

/-! ### Texts without a sign -/

theorem of_readNumber? {width n : Nat} {cs rest : List Char} (h : readNumber? width cs = some (n, rest)) :
    n < 10 ^ width ∧ rest ⊆ cs := by
  unfold readNumber? at h
  dsimp only at h
  split at h
  · cases h
  · rename_i hne
    cases h
    have hnumber : Entry.ShortNumber width (((cs.dropWhile Text.isBlank).take width).takeWhile Char.isDigit) _ :=
      { some := fun hnil => hne (List.isEmpty_iff.mpr hnil)
        short := Nat.le_trans (List.takeWhile_prefix _).length_le (List.length_take_le _ _)
        digits := List.all_eq_true.mp List.all_takeWhile
        value := rfl }
    exact ⟨hnumber.lt, List.Subset.trans (List.drop_subset _ _) (List.dropWhile_subset _)⟩

theorem subset_of_skip? {c : Char} {cs rest : List Char} (h : skip? c cs = some rest) : rest ⊆ cs := by
  cases cs with
  | nil => cases h
  | cons x cs =>
    rw [skip?, Option.ite_none_right_eq_some, Option.some.injEq] at h
    obtain rfl := h.2
    exact List.subset_cons_self x cs

theorem year_of_no_sign {cs rest : List Char} {year : Int} (h : readYear? cs = some (year, rest)) (hplus : '+' ∉ cs)
    (hminus : '-' ∉ cs) : 0 ≤ year ∧ year ≤ 9999 := by
  have hmem : ∀ {x xs}, cs.dropWhile Text.isBlank = x :: xs → x ∈ cs := fun hcs =>
    List.dropWhile_subset _ (hcs ▸ List.mem_cons_self)
  unfold readYear? at h
  dsimp only at h
  split at h
  · rename_i hcs
    exact absurd (hmem hcs) hminus
  · rename_i hcs
    exact absurd (hmem hcs) hplus
  · obtain ⟨⟨n, rest'⟩, hn, hyear⟩ := Option.map_eq_some_iff.mp h
    obtain ⟨rfl, -⟩ := Prod.mk.inj hyear
    have hlt := (of_readNumber? hn).1
    dsimp only
    omega

theorem inFourDigits_of_no_sign {text : String} {c : Clock} (h : read? text = some c) (hplus : '+' ∉ text.toList)
    (hminus : '-' ∉ text.toList) : c.date.InFourDigits := by
  unfold read? at h
  simp only [Option.bind_eq_bind, Option.bind_eq_some_iff] at h
  obtain ⟨⟨_, _⟩, hday, _, hslash, ⟨_, _⟩, hmonth, _, hslash', ⟨year, _⟩, hyear, _, -, _, -, _, -, _, -, _, -, h⟩ := h
  have hlater := List.Subset.trans (subset_of_skip? hslash') (List.Subset.trans (of_readNumber? hmonth).2
    (List.Subset.trans (subset_of_skip? hslash) (of_readNumber? hday).2))
  have hrange := year_of_no_sign hyear (fun hmem => hplus (hlater hmem)) fun hmem => hminus (hlater hmem)
  split at h
  · cases h
  · obtain ⟨date, hdate, h⟩ := Option.bind_eq_some_iff.mp h
    obtain ⟨time, -, h⟩ := Option.bind_eq_some_iff.mp h
    obtain rfl := Option.some.inj h
    obtain ⟨hdateYear, -, -⟩ := Date.of?_eq_some_iff.mp hdate
    dsimp only at hdateYear
    rwa [Date.InFourDigits, hdateYear]

end Clock
end FieldLogger
