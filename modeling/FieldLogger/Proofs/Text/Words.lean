import FieldLogger.Proofs.Text.Trimming

/-! The words of a text. A text is spaced out of its words (`Spaced`): blanks stand before each word and after
    the last, and at least one blank stands between two of them. The words of a text are those that it is
    spaced out of, and no others (`words_eq_iff`). -/

namespace FieldLogger.Text

/-- Blanks alone, or nothing. -/
def AllBlank (cs : List Char) : Prop := ∀ c ∈ cs, isBlank c = true

/-- A word: at least one character, and no blank. -/
def IsWord (cs : List Char) : Prop := cs ≠ [] ∧ ∀ c ∈ cs, isBlank c = false

/-- A word may end before this text: it is empty or begins with a blank. -/
def EndsWord (rest : List Char) : Prop := ∀ c, rest.head? = some c → isBlank c = true

/-- The text is made of the words, in order, with blanks before, between and after them. -/
inductive Spaced : List (List Char) → List Char → Prop where
  | blanks {gap : List Char} (hgap : AllBlank gap) : Spaced [] gap
  | word {gap w rest : List Char} {ws : List (List Char)} (hgap : AllBlank gap) (hw : IsWord w)
      (hend : EndsWord rest) (h : Spaced ws rest) : Spaced (w :: ws) (gap ++ w ++ rest)

theorem allBlank_nil : AllBlank [] := fun _ hc => nomatch hc

theorem endsWord_nil : EndsWord [] := fun _ hc => nomatch hc

theorem Spaced.cons {ws : List (List Char)} {cs : List Char} (h : Spaced ws cs) {c : Char} (hc : isBlank c = true) :
    Spaced ws (c :: cs) := by
  have more : ∀ {gap : List Char}, AllBlank gap → AllBlank (c :: gap) := fun hgap d hd => by
    rcases List.mem_cons.mp hd with rfl | hd
    · exact hc
    · exact hgap d hd
  cases h with
  | blanks hgap => exact .blanks (more hgap)
  | word hgap hw hend h => exact .word (more hgap) hw hend h

/-! ### Words that are found -/

theorem words_cons_of_blank {c : Char} (hc : isBlank c = true) (cs : List Char) : words (c :: cs) = words cs := by
  rw [words, words, splitWhere, if_pos hc]
  rfl

theorem words_append_of_blank {gap : List Char} (h : AllBlank gap) (cs : List Char) :
    words (gap ++ cs) = words cs := by
  induction gap with
  | nil => rfl
  | cons c gap ih =>
    rw [List.cons_append, words_cons_of_blank (h c List.mem_cons_self),
      ih fun d hd => h d (List.mem_cons_of_mem _ hd)]

theorem words_append_of_word {w rest : List Char} (hw : IsWord w) (hend : EndsWord rest) :
    words (w ++ rest) = w :: words rest := by
  have hkept : ¬w.isEmpty := by simpa using hw.1
  cases rest with
  | nil =>
    rw [List.append_nil, words, splitWhere_of_forall hw.2]
    exact List.filter_cons_of_pos (by simpa using hkept)
  | cons c rest =>
    have hc : isBlank c = true := hend c rfl
    rw [words_cons_of_blank hc, words, splitWhere_append_cons hw.2 hc]
    exact List.filter_cons_of_pos (by simpa using hkept)

theorem words_of_spaced {ws : List (List Char)} {cs : List Char} (h : Spaced ws cs) : words cs = ws := by
  induction h with
  | @blanks gap hgap =>
    rw [← List.append_nil gap, words_append_of_blank hgap]
    rfl
  | word hgap hw hend _ ih => rw [List.append_assoc, words_append_of_blank hgap, words_append_of_word hw hend, ih]

/-- The pieces between the blanks of a text, the empty ones left out, are what it is spaced out of. -/
theorem spaced_of_pieces {pieces : List (List Char)} {cs : List Char} (h : splitWhere isBlank cs = pieces) :
    Spaced (pieces.filter (!·.isEmpty)) cs := by
  induction pieces generalizing cs with
  | nil => exact absurd h (splitWhere_ne_nil _ cs)
  | cons piece pieces ih =>
    have hpiece : ∀ c ∈ piece, isBlank c = false := fun c hc => (of_mem_splitWhere (h ▸ List.mem_cons_self) c hc).1
    rcases splitWhere_eq_cons h with ⟨rfl, rfl⟩ | ⟨sep, rest, hsep, rfl, hrest⟩
    · cases cs with
      | nil => exact .blanks allBlank_nil
      | cons c cs =>
        have hlast : Spaced [c :: cs] ([] ++ (c :: cs) ++ []) :=
          .word allBlank_nil ⟨List.cons_ne_nil c cs, hpiece⟩ endsWord_nil (.blanks allBlank_nil)
        simpa using hlast
    · have hafter := (ih hrest).cons hsep
      cases piece with
      | nil => exact hafter
      | cons c piece =>
        have hend : EndsWord (sep :: rest) := fun d hd => Option.some.inj hd ▸ hsep
        exact .word allBlank_nil ⟨List.cons_ne_nil c piece, hpiece⟩ hend hafter

theorem words_eq_iff {ws : List (List Char)} {cs : List Char} : words cs = ws ↔ Spaced ws cs :=
  ⟨fun h => h ▸ spaced_of_pieces rfl, words_of_spaced⟩

/-! ### Few words -/

theorem words_eq_nil_iff {cs : List Char} : words cs = [] ↔ AllBlank cs := by
  rw [words_eq_iff]
  refine ⟨fun h => ?_, .blanks⟩
  cases h with
  | blanks hgap => exact hgap

/-- Two words stand in a text with at least one blank between them. -/
theorem words_eq_two_iff {cs a b : List Char} :
    words cs = [a, b] ↔ ∃ before gap after, cs = before ++ a ++ (gap ++ b ++ after) ∧
      AllBlank before ∧ AllBlank gap ∧ AllBlank after ∧ gap ≠ [] ∧ IsWord a ∧ IsWord b := by
  rw [words_eq_iff]
  constructor
  · intro h
    cases h with
    | @word before _ _ _ hbefore ha hend h =>
      cases h with
      | @word gap _ _ _ hgap hb _ h =>
        cases h with
        | blanks hafter =>
          refine ⟨before, gap, _, rfl, hbefore, hgap, hafter, ?_, ha, hb⟩
          rintro rfl
          obtain ⟨c, b, rfl⟩ := List.exists_cons_of_ne_nil hb.1
          have hblank := hend c rfl
          rw [hb.2 c List.mem_cons_self] at hblank
          cases hblank
  · rintro ⟨before, gap, after, rfl, hbefore, hgap, hafter, hne, ha, hb⟩
    obtain ⟨c, gap, rfl⟩ := List.exists_cons_of_ne_nil hne
    refine .word hbefore ha (fun d hd => Option.some.inj hd ▸ hgap c List.mem_cons_self) ?_
    exact .word hgap hb (fun d hd => hafter d (List.mem_of_head? hd)) (.blanks hafter)

end FieldLogger.Text
