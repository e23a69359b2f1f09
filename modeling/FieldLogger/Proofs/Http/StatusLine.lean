import FieldLogger.Http.Exchange

/-! The status that a response says does not change when more of it comes (`status?_append`): it is that of the line
    before the first end of line, however much was read when that was complete. -/

namespace FieldLogger.Http

/-! ### The first line -/

theorem firstLine?_of_first {line : Bytes} (h : ¬[13, 10] <:+: line) (rest : Bytes) :
    firstLine? (line ++ 13 :: 10 :: rest) = some line := by
  induction line with
  | nil => rfl
  | cons a line ih =>
    have hrest := ih fun hline => h (hline.trans (List.suffix_cons a line).isInfix)
    have hfirst : ∀ b bs, line ++ 13 :: 10 :: rest = b :: bs → ¬(a = 13 ∧ b = 10) := by
      rintro b bs heq ⟨rfl, rfl⟩
      cases line with
      | nil => cases heq
      | cons b' line =>
        obtain ⟨rfl, -⟩ := List.cons.inj heq
        exact h (List.IsPrefix.isInfix ⟨line, rfl⟩)
    cases hnext : line ++ 13 :: 10 :: rest with
    | nil => cases line <;> cases hnext
    | cons b bs =>
      rw [List.cons_append, hnext, firstLine?, if_neg (hfirst b bs hnext), ← hnext, hrest]
      rfl

theorem firstLine?_of_none {bs : Bytes} (h : ¬[13, 10] <:+: bs) : firstLine? bs = none := by
  induction bs with
  | nil => rfl
  | cons a bs ih =>
    have hrest := ih fun hbs => h (hbs.trans (List.suffix_cons a bs).isInfix)
    cases bs with
    | nil => rfl
    | cons b bs =>
      have hfirst : ¬(a = 13 ∧ b = 10) := by
        rintro ⟨rfl, rfl⟩
        exact h (List.IsPrefix.isInfix ⟨bs, rfl⟩)
      rw [firstLine?, if_neg hfirst, hrest]
      rfl

theorem firstLine?_append {bs line : Bytes} (h : firstLine? bs = some line) (more : Bytes) :
    firstLine? (bs ++ more) = some line := by
  induction bs generalizing line with
  | nil => cases h
  | cons a bs ih =>
    cases bs with
    | nil => cases h
    | cons b bs =>
      rw [firstLine?] at h
      rw [List.cons_append, List.cons_append, firstLine?, ← List.cons_append]
      by_cases hfirst : a = 13 ∧ b = 10
      · rw [if_pos hfirst] at h ⊢
        exact h
      · rw [if_neg hfirst] at h ⊢
        obtain ⟨line, hline, rfl⟩ := Option.map_eq_some_iff.mp h
        rw [ih hline]
        rfl

theorem status?_append {response : Bytes} {answer : PostAnswer} (h : status? response = some answer) (more : Bytes) :
    status? (response ++ more) = some answer := by
  obtain ⟨line, hline, rfl⟩ := Option.map_eq_some_iff.mp h
  rw [status?, firstLine?_append hline]
  rfl

/-- The status that a whole response ends a post with. -/
def verdict (response : Bytes) : PostStatus :=
  PostAnswer.status ((status? response).getD (.failed "Conexão fechada sem resposta"))

theorem verdict_of_status? {response : Bytes} {answer : PostAnswer} (h : status? response = some answer) :
    verdict response = PostAnswer.status answer := by
  rw [verdict, h]
  rfl

theorem verdict_of_first {line : Bytes} (h : ¬[13, 10] <:+: line) (rest : Bytes) :
    verdict (line ++ 13 :: 10 :: rest) = PostAnswer.status (lineStatus line) :=
  verdict_of_status? (by rw [status?, firstLine?_of_first h]; rfl)

theorem verdict_of_none {response : Bytes} (h : ¬[13, 10] <:+: response) :
    verdict response = .failed "Conexão fechada sem resposta" := by
  rw [verdict, status?, firstLine?_of_none h]
  rfl

theorem verdict_ne_inProgress (response : Bytes) : verdict response ≠ .inProgress := by
  unfold verdict
  cases (status? response).getD (.failed "Conexão fechada sem resposta") <;> exact fun h => by cases h

end FieldLogger.Http
