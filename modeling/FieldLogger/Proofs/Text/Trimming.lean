import FieldLogger.Text.Blank

/-! What is left of a text when it is trimmed or split: a trimmed text begins and ends with characters that are not
    blank (`trimmed_iff`), and the pieces between separators are those that the text is put together from
    (`pieces_iff`). -/

namespace FieldLogger.Text

/-! ### Ends of a text -/

theorem dropWhile_eq_self {p : Char → Bool} {cs : List Char} (h : ∀ c, cs.head? = some c → p c = false) :
    cs.dropWhile p = cs := by
  cases cs with
  | nil => rfl
  | cons c cs => rw [List.dropWhile_cons_of_neg (by simp [h c rfl])]

theorem head?_dropWhile {p : Char → Bool} {cs : List Char} {c : Char} (h : (cs.dropWhile p).head? = some c) :
    p c = false := by
  have := List.head?_dropWhile_not p cs
  rw [h] at this
  simpa using this

theorem head?_of_isPrefix {cs ds : List Char} (hp : cs <+: ds) {c : Char} (h : cs.head? = some c) :
    ds.head? = some c := by
  obtain ⟨rest, rfl⟩ := hp
  rw [List.head?_append, h, Option.some_or]

theorem dropWhileEnd_eq_self {p : Char → Bool} {cs : List Char} (h : ∀ c, cs.getLast? = some c → p c = false) :
    dropWhileEnd p cs = cs := by
  unfold dropWhileEnd
  rw [dropWhile_eq_self (fun c hc => h c (List.head?_reverse ▸ hc)), List.reverse_reverse]

theorem getLast?_dropWhileEnd {p : Char → Bool} {cs : List Char} {c : Char}
    (h : (dropWhileEnd p cs).getLast? = some c) : p c = false := by
  unfold dropWhileEnd at h
  rw [List.getLast?_reverse] at h
  exact head?_dropWhile h

theorem dropWhileEnd_isPrefix (p : Char → Bool) (cs : List Char) : dropWhileEnd p cs <+: cs := by
  have := List.reverse_prefix.mpr (List.dropWhile_suffix (l := cs.reverse) p)
  rwa [List.reverse_reverse] at this

theorem dropWhile_eq_iff {p : Char → Bool} {cs kept : List Char} :
    cs.dropWhile p = kept ↔
      ∃ start, cs = start ++ kept ∧ (∀ c ∈ start, p c = true) ∧ ∀ c, kept.head? = some c → p c = false := by
  constructor
  · rintro rfl
    exact ⟨cs.takeWhile p, List.takeWhile_append_dropWhile.symm, List.all_eq_true.mp List.all_takeWhile,
      fun _ => head?_dropWhile⟩
  · rintro ⟨start, rfl, hstart, hkept⟩
    rw [List.dropWhile_append_of_pos hstart, dropWhile_eq_self hkept]

theorem dropWhileEnd_eq_iff {p : Char → Bool} {cs kept : List Char} :
    dropWhileEnd p cs = kept ↔
      ∃ tail, cs = kept ++ tail ∧ (∀ c ∈ tail, p c = true) ∧ ∀ c, kept.getLast? = some c → p c = false := by
  rw [dropWhileEnd, List.reverse_eq_iff, dropWhile_eq_iff]
  constructor
  · rintro ⟨start, hcs, hstart, hkept⟩
    refine ⟨start.reverse, ?_, fun c hc => hstart c (List.mem_reverse.mp hc), fun c hc => hkept c ?_⟩
    · rw [List.reverse_eq_iff, List.reverse_append, List.reverse_reverse] at hcs
      exact hcs
    · rwa [List.head?_reverse]
  · rintro ⟨tail, rfl, htail, hkept⟩
    refine ⟨tail.reverse, List.reverse_append, fun c hc => htail c (List.mem_reverse.mp hc), fun c hc => hkept c ?_⟩
    rwa [List.head?_reverse] at hc

theorem dropWhileEnd_append_cons {p : Char → Bool} (cs : List Char) {c : Char} (hc : p c = false) (rest : List Char) :
    dropWhileEnd p (cs ++ c :: rest) = cs ++ c :: dropWhileEnd p rest := by
  obtain ⟨tail, hrest, htail, hkept⟩ := dropWhileEnd_eq_iff.mp (rfl : dropWhileEnd p rest = _)
  rw [dropWhileEnd_eq_iff]
  refine ⟨tail, ?_, htail, fun d hd => ?_⟩
  · rw [List.append_assoc, List.cons_append, ← hrest]
  · rw [List.getLast?_append, List.getLast?_cons, Option.some_or, Option.some.injEq, Option.getD_eq_iff] at hd
    rcases hd with hd | ⟨-, rfl⟩
    · exact hkept d hd
    · exact hc

/-- What stands before the first character of a kind does not depend on what follows it. -/
theorem takeWhile_append_cons {α : Type} {p : α → Bool} {a : α} (ha : p a = false) (xs ys : List α) :
    (xs ++ a :: ys).takeWhile p = xs.takeWhile p := by
  induction xs with
  | nil => rw [List.nil_append, List.takeWhile_cons_of_neg (by simp [ha]), List.takeWhile_nil]
  | cons x xs ih =>
    rw [List.cons_append, List.takeWhile_cons, List.takeWhile_cons, ih]

/-! ### Trimming -/

theorem trim_isPrefix (cs : List Char) : trim cs <+: cs.dropWhile isBlank := dropWhileEnd_isPrefix _ _

theorem mem_of_mem_trim {cs : List Char} {c : Char} (h : c ∈ trim cs) : c ∈ cs :=
  List.dropWhile_subset _ ((trim_isPrefix cs).subset h)

theorem head?_trim {cs : List Char} {c : Char} (h : (trim cs).head? = some c) : isBlank c = false :=
  head?_dropWhile (head?_of_isPrefix (trim_isPrefix cs) h)

theorem getLast?_trim {cs : List Char} {c : Char} (h : (trim cs).getLast? = some c) : isBlank c = false :=
  getLast?_dropWhileEnd h

theorem trim_eq_self {cs : List Char} (hs : ∀ c, cs.head? = some c → isBlank c = false)
    (he : ∀ c, cs.getLast? = some c → isBlank c = false) : trim cs = cs := by
  unfold trim
  rw [dropWhile_eq_self hs, dropWhileEnd_eq_self he]

theorem trim_trim (cs : List Char) : trim (trim cs) = trim cs :=
  trim_eq_self (fun _ => head?_trim) fun _ => getLast?_trim

theorem mem_dropWhile {p : Char → Bool} {cs : List Char} {c : Char} (hc : c ∈ cs) (hp : p c = false) :
    c ∈ cs.dropWhile p := by
  induction cs with
  | nil => exact hc
  | cons d cs ih =>
    rw [List.dropWhile_cons]
    split
    · rename_i hd
      rcases List.mem_cons.mp hc with rfl | hc
      · rw [hp] at hd
        cases hd
      · exact ih hc
    · exact hc

theorem mem_trim {cs : List Char} {c : Char} (hc : c ∈ cs) (hb : isBlank c = false) : c ∈ trim cs := by
  unfold trim dropWhileEnd
  exact List.mem_reverse.mpr (mem_dropWhile (List.mem_reverse.mpr (mem_dropWhile hc hb)) hb)

theorem trim_eq_nil_iff {cs : List Char} : trim cs = [] ↔ ∀ c ∈ cs, isBlank c = true := by
  constructor
  · intro h c hc
    cases hb : isBlank c with
    | true => rfl
    | false =>
      have hkept := mem_trim hc hb
      rw [h] at hkept
      cases hkept
  · intro h
    cases hcs : trim cs with
    | nil => rfl
    | cons c rest =>
      have hhead : (trim cs).head? = some c := by rw [hcs, List.head?_cons]
      have hblank := h c (mem_of_mem_trim (List.mem_of_head? hhead))
      rw [head?_trim hhead] at hblank
      cases hblank

/-- What is left of a text without the blanks around it. -/
structure Trimmed (cs kept : List Char) : Prop where
  around : ∃ before after, cs = before ++ kept ++ after ∧ (∀ c ∈ before, isBlank c = true) ∧
    ∀ c ∈ after, isBlank c = true
  head : ∀ c, kept.head? = some c → isBlank c = false
  last : ∀ c, kept.getLast? = some c → isBlank c = false

theorem trimmed_iff {cs kept : List Char} : Trimmed cs kept ↔ trim cs = kept := by
  constructor
  · rintro ⟨⟨before, after, rfl, hbefore, hafter⟩, hhead, hlast⟩
    cases kept with
    | nil =>
      rw [trim_eq_nil_iff]
      intro c hc
      rw [List.append_nil] at hc
      exact (List.mem_append.mp hc).elim (hbefore c) (hafter c)
    | cons d kept =>
      have hkept : (d :: kept ++ after).dropWhile isBlank = d :: kept ++ after := dropWhile_eq_self hhead
      rw [trim, List.append_assoc, List.dropWhile_append_of_pos hbefore, hkept, dropWhileEnd_eq_iff]
      exact ⟨after, rfl, hafter, hlast⟩
  · rintro rfl
    obtain ⟨before, hcs, hbefore, -⟩ := dropWhile_eq_iff.mp (rfl : cs.dropWhile isBlank = _)
    obtain ⟨after, hrest, hafter, -⟩ := dropWhileEnd_eq_iff.mp (rfl : trim cs = _)
    exact ⟨⟨before, after, by rw [List.append_assoc, ← hrest, ← hcs], hbefore, hafter⟩, fun _ => head?_trim,
      fun _ => getLast?_trim⟩

theorem trim_append_of_blank {cs gap : List Char} (hgap : ∀ c ∈ gap, isBlank c = true) :
    trim (cs ++ gap) = trim cs := by
  obtain ⟨⟨before, after, hcs, hbefore, hafter⟩, hhead, hlast⟩ := trimmed_iff.mpr (rfl : trim cs = _)
  refine trimmed_iff.mp ⟨⟨before, after ++ gap, ?_, hbefore, fun c hc => ?_⟩, hhead, hlast⟩
  · rw [← List.append_assoc, ← hcs]
  · exact (List.mem_append.mp hc).elim (hafter c) (hgap c)

theorem trim_dropWhileEnd_eq_nil_iff {p : Char → Bool} (hp : ∀ c, p c = true → isBlank c = true) {cs : List Char} :
    trim (dropWhileEnd p cs) = [] ↔ trim cs = [] := by
  rw [trim_eq_nil_iff, trim_eq_nil_iff]
  constructor
  · intro h c hc
    cases hpc : p c with
    | true => exact hp c hpc
    | false => exact h c (List.mem_reverse.mpr (mem_dropWhile (List.mem_reverse.mpr hc) hpc))
  · intro h c hc
    exact h c ((dropWhileEnd_isPrefix p cs).subset hc)

/-! ### Splitting -/

theorem splitWhere_eq_splitOnP (p : Char → Bool) (cs : List Char) : splitWhere p cs = cs.splitOnP p := by
  induction cs with
  | nil => rfl
  | cons c cs ih =>
    rw [splitWhere, List.splitOnP_cons_eq_if_modifyHead, ← ih]
    split
    · rfl
    · split
      · rename_i hnil
        exact absurd hnil (splitWhere_ne_nil p cs)
      · rename_i hpieces
        rw [hpieces, List.modifyHead_cons]

theorem splitAt_eq_splitOn (sep : Char) (cs : List Char) : splitAt sep cs = cs.splitOn sep :=
  splitWhere_eq_splitOnP _ cs

theorem splitWhere_of_forall {p : Char → Bool} {cs : List Char} (h : ∀ c ∈ cs, p c = false) :
    splitWhere p cs = [cs] := by
  rw [splitWhere_eq_splitOnP, List.splitOnP_eq_singleton h]

theorem splitWhere_append_cons {p : Char → Bool} {cs rest : List Char} {sep : Char} (h : ∀ c ∈ cs, p c = false)
    (hsep : p sep = true) : splitWhere p (cs ++ sep :: rest) = cs :: splitWhere p rest := by
  rw [splitWhere_eq_splitOnP, splitWhere_eq_splitOnP, List.splitOnP_append_cons_of_forall_mem h sep hsep]

theorem of_mem_splitWhere {p : Char → Bool} {cs piece : List Char} (h : piece ∈ splitWhere p cs) :
    ∀ c ∈ piece, p c = false ∧ c ∈ cs := by
  induction cs generalizing piece with
  | nil =>
    rw [splitWhere, List.mem_singleton] at h
    simp [h]
  | cons d cs ih =>
    have later : ∀ {q : List Char}, q ∈ splitWhere p cs → ∀ c ∈ q, p c = false ∧ c ∈ d :: cs :=
      fun hq c hc => ⟨(ih hq c hc).1, List.mem_cons_of_mem _ (ih hq c hc).2⟩
    rw [splitWhere] at h
    split at h
    · rcases List.mem_cons.mp h with rfl | h
      · simp
      · exact later h
    · rename_i hd
      split at h
      · rename_i hnil
        exact absurd hnil (splitWhere_ne_nil p cs)
      · rename_i q qs hq
        rw [hq] at later
        rcases List.mem_cons.mp h with rfl | h
        · intro c hc
          rcases List.mem_cons.mp hc with rfl | hc
          · exact ⟨by simpa using hd, List.mem_cons_self⟩
          · exact later List.mem_cons_self c hc
        · exact later (List.mem_cons_of_mem _ h)

theorem splitWhere_eq_cons {p : Char → Bool} {cs piece : List Char} {pieces : List (List Char)}
    (h : splitWhere p cs = piece :: pieces) :
    (pieces = [] ∧ cs = piece) ∨
      ∃ sep rest, p sep = true ∧ cs = piece ++ sep :: rest ∧ splitWhere p rest = pieces := by
  induction cs generalizing piece with
  | nil =>
    obtain ⟨rfl, rfl⟩ := List.cons.inj h
    exact Or.inl ⟨rfl, rfl⟩
  | cons c cs ih =>
    rw [splitWhere] at h
    split at h
    · rename_i hc
      obtain ⟨rfl, hrest⟩ := List.cons.inj h
      exact Or.inr ⟨c, cs, hc, rfl, hrest⟩
    · split at h
      · rename_i hnil
        exact absurd hnil (splitWhere_ne_nil p cs)
      · rename_i q qs hq
        obtain ⟨rfl, rfl⟩ := List.cons.inj h
        rcases ih hq with ⟨hqs, rfl⟩ | ⟨sep, rest, hsep, rfl, hrest⟩
        · exact Or.inl ⟨hqs, rfl⟩
        · exact Or.inr ⟨sep, rest, hsep, rfl, hrest⟩

theorem mem_of_mem_intercalate {sep c : Char} {pieces : List (List Char)} (h : c ∈ [sep].intercalate pieces) :
    c = sep ∨ ∃ piece ∈ pieces, c ∈ piece := by
  induction pieces with
  | nil => exact absurd h List.not_mem_nil
  | cons piece pieces ih =>
    cases pieces with
    | nil => exact Or.inr ⟨piece, List.mem_cons_self, by rwa [List.intercalate_singleton] at h⟩
    | cons next pieces =>
      rw [List.intercalate_cons_cons, List.mem_append, List.mem_append, List.mem_singleton] at h
      rcases h with (h | h) | h
      · exact Or.inr ⟨piece, List.mem_cons_self, h⟩
      · exact Or.inl h
      · exact (ih h).imp_right fun ⟨p, hp, hc⟩ => ⟨p, List.mem_cons_of_mem _ hp, hc⟩

/-- The pieces of a text: it is put together from them with a separator between each two, and none holds a separator. -/
structure Pieces (sep : Char) (cs : List Char) (pieces : List (List Char)) : Prop where
  joined : [sep].intercalate pieces = cs
  nonempty : pieces ≠ []
  apart : ∀ piece ∈ pieces, sep ∉ piece

theorem pieces_iff {sep : Char} {cs : List Char} {pieces : List (List Char)} :
    Pieces sep cs pieces ↔ splitAt sep cs = pieces := by
  constructor
  · rintro ⟨rfl, hne, hapart⟩
    rw [splitAt_eq_splitOn, List.splitOn_intercalate sep hapart hne]
  · rintro rfl
    refine ⟨?_, splitWhere_ne_nil _ _, fun piece hpiece hmem => ?_⟩
    · rw [splitAt_eq_splitOn, List.intercalate_splitOn]
    · exact absurd (of_mem_splitWhere hpiece sep hmem).1 (by simp)

theorem splitAt_eq_three {sep : Char} {cs a b c : List Char} :
    splitAt sep cs = [a, b, c] ↔ cs = a ++ sep :: (b ++ sep :: c) ∧ sep ∉ a ∧ sep ∉ b ∧ sep ∉ c := by
  rw [← pieces_iff]
  have hjoined : [sep].intercalate [a, b, c] = a ++ sep :: (b ++ sep :: c) := by
    simp only [List.intercalate_cons_cons, List.intercalate_singleton, List.append_assoc, List.singleton_append]
  constructor
  · rintro ⟨hcs, -, hapart⟩
    exact ⟨hcs.symm.trans hjoined, by simpa using hapart⟩
  · rintro ⟨rfl, hapart⟩
    exact ⟨hjoined, List.cons_ne_nil _ _, by simpa using hapart⟩

theorem splitAt_append_cons (sep : Char) (cs rest : List Char) :
    splitAt sep (cs ++ sep :: rest) = splitAt sep cs ++ splitAt sep rest := by
  simp only [splitAt_eq_splitOn, List.splitOn_append_cons_self]

/-- More characters at the end of a text, none of them a separator, are in the last piece. -/
theorem splitAt_append {sep : Char} (cs : List Char) {more : List Char} (h : sep ∉ more) :
    ∃ pieces last, splitAt sep cs = pieces ++ [last] ∧ splitAt sep (cs ++ more) = pieces ++ [last ++ more] := by
  simp only [splitAt_eq_splitOn]
  induction cs with
  | nil => exact ⟨[], [], List.splitOn_nil _, List.splitOn_eq_singleton h⟩
  | cons c cs ih =>
    obtain ⟨pieces, last, hcs, hmore⟩ := ih
    rw [List.cons_append, List.splitOn_cons_eq_if_modifyHead, List.splitOn_cons_eq_if_modifyHead, hcs, hmore]
    split
    · exact ⟨[] :: pieces, last, rfl, rfl⟩
    · cases pieces with
      | nil => exact ⟨[], c :: last, rfl, rfl⟩
      | cons piece pieces => exact ⟨(c :: piece) :: pieces, last, rfl, rfl⟩

theorem map_trim_splitAt_append {sep : Char} (cs : List Char) {gap : List Char} (hsep : sep ∉ gap)
    (hgap : ∀ c ∈ gap, isBlank c = true) : (splitAt sep (cs ++ gap)).map trim = (splitAt sep cs).map trim := by
  obtain ⟨pieces, last, hcs, hmore⟩ := splitAt_append cs hsep
  simp only [hcs, hmore, List.map_append, List.map_cons, trim_append_of_blank hgap]

theorem length_splitAt (sep : Char) (cs : List Char) : (splitAt sep cs).length = cs.count sep + 1 := by
  induction cs with
  | nil => rfl
  | cons c cs ih =>
    rw [splitAt_eq_splitOn] at ih ⊢
    rw [List.splitOn_cons_eq_if_modifyHead, List.count_cons]
    split
    · rw [List.length_cons, ih]
    · rw [List.length_modifyHead, ih, Nat.add_zero]

end FieldLogger.Text
