import FieldLogger.Proofs.Text.FirstLine
import FieldLogger.Serial

/-! The lines of an input. Each ends with its newline and has no other, except that the last may have none
    (`RawLines`); those before the first that is no text are the ones that a reader sends (`SentLines`). An input has
    one row of either (`existsUnique_sentLines`). -/

namespace FieldLogger

theorem Utf8.decode?_eq_some_iff {bs : Bytes} {text : String} : decode? bs = some text ↔ encode text = bs := by
  unfold decode?
  dsimp only
  constructor
  · intro h
    split at h
    · rename_i hwhole
      obtain rfl := Option.some.inj h
      obtain ⟨tail, heq, hleaves⟩ := scan_leaves bs
      rw [hwhole] at hleaves
      obtain rfl : tail = [] := hleaves
      rw [List.append_nil] at heq
      rw [encode, String.toList_ofList, ← heq]
    · cases h
  · rintro rfl
    have hscan : scan (encode text) = ⟨text.toList, .whole⟩ := scan_encodeChars text.toList
    rw [hscan, if_pos rfl, String.ofList_toList]

namespace Serial

/-! ### Lines in bytes -/

/-- One line of an input, with what comes after it. -/
inductive LineBefore : Bytes → Bytes → Prop
  | ended {body rest : Bytes} (h : 10 ∉ body) : LineBefore (body ++ [10]) rest
  /-- The last line has no newline. -/
  | unended {line : Bytes} (hne : line ≠ []) (h : 10 ∉ line) : LineBefore line []

/-- The lines that an input is made of. -/
structure RawLines (input : Bytes) (lines : List Bytes) : Prop where
  joined : lines.flatten = input
  each : ∀ before line after, lines = before ++ line :: after → LineBefore line after.flatten

variable {input line rest : Bytes} {lines : List Bytes}

theorem LineBefore.ne_nil (h : LineBefore line rest) : line ≠ [] := by
  cases h with
  | ended => exact List.append_ne_nil_of_right_ne_nil _ (List.cons_ne_nil _ _)
  | unended hne => exact hne

theorem cutLine_append_newline {body : Bytes} (h : 10 ∉ body) (rest : Bytes) :
    cutLine (body ++ 10 :: rest) = (body ++ [10], rest) := by
  induction body with
  | nil => rfl
  | cons b body ih =>
    rw [List.mem_cons, not_or] at h
    rw [List.cons_append, cutLine, if_neg (Ne.symm h.1), ih h.2]
    rfl

theorem cutLine_of_not_mem (h : 10 ∉ line) : cutLine line = (line, []) := by
  induction line with
  | nil => rfl
  | cons b line ih =>
    rw [List.mem_cons, not_or] at h
    rw [cutLine, if_neg (Ne.symm h.1), ih h.2]

theorem cutLine_append (h : LineBefore line rest) : cutLine (line ++ rest) = (line, rest) := by
  cases h with
  | ended hbody =>
    rw [List.append_assoc]
    exact cutLine_append_newline hbody rest
  | unended _ hline =>
    rw [List.append_nil]
    exact cutLine_of_not_mem hline

/-- A line that is there is cut off whatever comes after it. -/
theorem cutLine_of_mem (h : 10 ∈ input) (late : Bytes) :
    cutLine (input ++ late) = ((cutLine input).1, (cutLine input).2 ++ late) := by
  obtain ⟨body, rest, rfl, hbody⟩ := List.eq_append_cons_of_mem h
  rw [List.append_assoc, List.cons_append, cutLine_append_newline hbody, cutLine_append_newline hbody]

theorem count_cutLine (h : 10 ∈ input) : input.count 10 = (cutLine input).2.count 10 + 1 := by
  obtain ⟨body, rest, rfl, hbody⟩ := List.eq_append_cons_of_mem h
  rw [cutLine_append_newline hbody, List.count_append, List.count_eq_zero_of_not_mem hbody, List.count_cons_self,
    Nat.zero_add]

theorem exists_lineBefore (h : input ≠ []) : ∃ line rest, input = line ++ rest ∧ LineBefore line rest := by
  by_cases hnewline : 10 ∈ input
  · obtain ⟨body, rest, rfl, hbody⟩ := List.eq_append_cons_of_mem hnewline
    exact ⟨body ++ [10], rest, by rw [List.append_assoc, List.singleton_append], .ended hbody⟩
  · exact ⟨input, [], (List.append_nil _).symm, .unended h hnewline⟩

theorem rawLines_nil : RawLines [] [] := ⟨rfl, fun before _ _ h => by cases before <;> cases h⟩

theorem RawLines.cons (h : LineBefore line rest) (hrest : RawLines rest lines) :
    RawLines (line ++ rest) (line :: lines) := by
  refine ⟨congrArg (line ++ ·) hrest.joined, fun before line' after heq => ?_⟩
  cases before with
  | nil =>
    obtain ⟨rfl, rfl⟩ := List.cons.inj heq
    rwa [hrest.joined]
  | cons first before =>
    obtain ⟨-, hlater⟩ := List.cons.inj heq
    exact hrest.each before line' after hlater

theorem RawLines.tail (h : RawLines input (line :: lines)) : RawLines lines.flatten lines :=
  ⟨rfl, fun before line' after heq => h.each (line :: before) line' after (by rw [heq, List.cons_append])⟩

theorem RawLines.cutLine_eq (h : RawLines input (line :: lines)) : cutLine input = (line, lines.flatten) := by
  rw [← h.joined, List.flatten_cons]
  exact cutLine_append (h.each [] line lines rfl)

theorem RawLines.eq_nil (h : RawLines [] lines) : lines = [] := by
  cases lines with
  | nil => rfl
  | cons line lines =>
    have hline := (List.append_eq_nil_iff.mp h.joined).1
    exact absurd hline (h.each [] line lines rfl).ne_nil

theorem RawLines.eq_of_cons (h : RawLines input (line :: lines)) {others : List Bytes} (h' : RawLines input others) :
    ∃ others', others = line :: others' ∧ RawLines lines.flatten others' := by
  cases others with
  | nil =>
    obtain rfl : [] = input := h'.joined
    cases h.eq_nil
  | cons other others' =>
    have hcut := h.cutLine_eq
    rw [h'.cutLine_eq] at hcut
    obtain ⟨rfl, hrest⟩ := Prod.mk.inj hcut
    exact ⟨others', rfl, hrest ▸ h'.tail⟩

theorem RawLines.unique {others : List Bytes} (h : RawLines input lines) (h' : RawLines input others) :
    others = lines := by
  induction lines generalizing input others with
  | nil =>
    obtain rfl : [] = input := h.joined
    exact h'.eq_nil
  | cons line lines ih =>
    obtain ⟨others', rfl, hothers⟩ := h.eq_of_cons h'
    rw [ih h.tail hothers]

theorem RawLines.length_le (h : RawLines input lines) : lines.length ≤ input.length := by
  induction lines generalizing input with
  | nil => exact Nat.zero_le _
  | cons line lines ih =>
    have hpos := List.length_pos_iff.mpr (h.each [] line lines rfl).ne_nil
    have hlater := ih h.tail
    rw [← h.joined, List.flatten_cons, List.length_append, List.length_cons]
    omega

theorem exists_rawLines (input : Bytes) : ∃ lines, RawLines input lines := by
  induction hn : input.length using Nat.strong_induction_on generalizing input with
  | _ n ih =>
    by_cases hnil : input = []
    · exact ⟨[], hnil ▸ rawLines_nil⟩
    · obtain ⟨line, rest, rfl, hline⟩ := exists_lineBefore hnil
      have hpos := List.length_pos_iff.mpr hline.ne_nil
      rw [List.length_append] at hn
      obtain ⟨lines, hlines⟩ := ih rest.length (by omega) rest rfl
      exact ⟨line :: lines, hlines.cons hline⟩

/-! ### Lines that are sent -/

/-- No text stands at the head. -/
def NoText (lines : List Bytes) : Prop := ∀ line, lines.head? = some line → ∀ text, Utf8.encode text ≠ line

/-- The texts of the lines before the first that is no text. -/
def SentLines (input : Bytes) (texts : List String) : Prop :=
  ∃ after, RawLines input (texts.map Utf8.encode ++ after) ∧ NoText after

theorem exists_texts (lines : List Bytes) :
    ∃ texts after, lines = List.map Utf8.encode texts ++ after ∧ NoText after := by
  induction lines with
  | nil => exact ⟨[], [], rfl, fun line h => nomatch h⟩
  | cons line lines ih =>
    by_cases htext : ∃ text, Utf8.encode text = line
    · obtain ⟨text, rfl⟩ := htext
      obtain ⟨texts, after, rfl, hafter⟩ := ih
      exact ⟨text :: texts, after, rfl, hafter⟩
    · refine ⟨[], line :: lines, rfl, fun line' h text hencode => htext ⟨text, ?_⟩⟩
      rw [hencode]
      exact (Option.some.inj h).symm

theorem texts_unique {texts others : List String} {after after' : List Bytes} (hafter : NoText after)
    (hafter' : NoText after') (h : List.map Utf8.encode texts ++ after = List.map Utf8.encode others ++ after') :
    texts = others := by
  induction texts generalizing others with
  | nil =>
    cases others with
    | nil => rfl
    | cons other others => exact absurd rfl (hafter _ (congrArg List.head? h) other)
  | cons text texts ih =>
    cases others with
    | nil => exact absurd rfl (hafter' _ (congrArg List.head? h.symm) text)
    | cons other others =>
      obtain ⟨hsame, hlater⟩ := List.cons.inj h
      obtain rfl : text = other := by
        have hdecode := Utf8.decode?_eq_some_iff.mpr hsame
        rw [Utf8.decode?_eq_some_iff.mpr rfl] at hdecode
        exact (Option.some.inj hdecode).symm
      rw [ih hlater]

theorem existsUnique_sentLines (input : Bytes) : ∃! texts, SentLines input texts := by
  obtain ⟨lines, hlines⟩ := exists_rawLines input
  obtain ⟨texts, after, rfl, hafter⟩ := exists_texts lines
  refine ⟨texts, ⟨after, hlines, hafter⟩, ?_⟩
  rintro others ⟨after', hothers, hafter'⟩
  exact texts_unique hafter' hafter (hlines.unique hothers)

theorem SentLines.length_le {texts : List String} (h : SentLines input texts) : texts.length ≤ input.length := by
  obtain ⟨after, hlines, -⟩ := h
  have hlength := hlines.length_le
  rw [List.length_append, List.length_map] at hlength
  omega

/-! ### Reading -/

section
variable {r : Reader} {text : String} {texts : List String}

theorem readLine_of_text {rest : Bytes} (h : cutLine r.input = (Utf8.encode text, rest)) :
    r.readLine = (some (Utf8.encode text).length, ⟨rest, r.buffer ++ text⟩) := by
  unfold Reader.readLine
  rw [h]
  dsimp only
  rw [Utf8.decode?_eq_some_iff.mpr rfl]

theorem readLine_of_no_text {line rest : Bytes} (h : cutLine r.input = (line, rest))
    (hline : ∀ text, Utf8.encode text ≠ line) : r.readLine = (none, { r with input := rest }) := by
  have hnone : Utf8.decode? line = none :=
    Option.eq_none_iff_forall_ne_some.mpr fun text h => hline text (Utf8.decode?_eq_some_iff.mp h)
  unfold Reader.readLine
  rw [h]
  dsimp only
  rw [hnone]

/-- Where a line is to be sent, it is read whole, and the lines after it are still to be sent. -/
theorem SentLines.readLine_cons (h : SentLines r.input (text :: texts)) :
    ∃ size rest, r.readLine = (some (size + 1), ⟨rest, r.buffer ++ text⟩) ∧ SentLines rest texts := by
  obtain ⟨after, hlines, hafter⟩ := h
  have hne : Utf8.encode text ≠ [] := (hlines.each [] _ _ rfl).ne_nil
  obtain ⟨size, hsize⟩ := Nat.exists_eq_succ_of_ne_zero (List.length_pos_iff.mpr hne).ne'
  exact ⟨size, _, by rw [readLine_of_text hlines.cutLine_eq, hsize], after, hlines.tail, hafter⟩

/-- Where no line is to be sent, the input is at its end or its next line is no text. -/
theorem SentLines.readLine_nil (h : SentLines r.input []) : r.readLine.1 = none ∨ r.readLine.1 = some 0 := by
  obtain ⟨after, hlines, hafter⟩ := h
  cases after with
  | nil =>
    have hend : cutLine r.input = (Utf8.encode "", []) := by
      obtain hnil : [] = r.input := hlines.joined
      rw [← hnil]
      rfl
    rw [readLine_of_text hend]
    exact .inr rfl
  | cons line after =>
    rw [readLine_of_no_text hlines.cutLine_eq (hafter line rfl)]
    exact .inl rfl

end

end Serial
end FieldLogger
