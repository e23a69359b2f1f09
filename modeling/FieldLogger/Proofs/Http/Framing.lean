import FieldLogger.Http.Exchange
import FieldLogger.Proofs.Http.Address
import FieldLogger.Proofs.Text.Decoding
import FieldLogger.Proofs.Text.Sizes

/-! How a request is framed (`start_frames`). Its head is five lines, and what follows its first blank line is the text
    that is posted. The host and the path stand in the head as the address has them: an end of line in the address is one
    in the head, and a blank line in the address ends the head. Nothing of the posted text gets into the head. -/

namespace FieldLogger.Http

variable {l xs ys : Bytes}

/-! ### Ends of lines -/

/-- A byte that is in no end of a line. -/
def Plain (b : UInt8) : Prop := b ≠ 13 ∧ b ≠ 10

/-- Bytes that are ends of lines and nothing else. -/
structure LineEnds (bs : Bytes) : Prop where
  nonempty : bs ≠ []
  not_plain : ∀ b ∈ bs, ¬Plain b

theorem lineEnds_one : LineEnds [13, 10] := ⟨List.cons_ne_nil _ _, by simp [Plain]⟩

theorem lineEnds_two : LineEnds [13, 10, 13, 10] := ⟨List.cons_ne_nil _ _, by simp [Plain]⟩

/-- The first byte is a plain one. -/
def Begins (bs : Bytes) : Prop := ∃ b, bs.head? = some b ∧ Plain b

/-- The last byte is a plain one. -/
def Ends (bs : Bytes) : Prop := ∃ b, bs.getLast? = some b ∧ Plain b

theorem Begins.append (h : Begins xs) (ys : Bytes) : Begins (xs ++ ys) := by
  obtain ⟨b, hb, hplain⟩ := h
  exact ⟨b, by rw [List.head?_append, hb, Option.some_or], hplain⟩

theorem Ends.append (h : Ends ys) (xs : Bytes) : Ends (xs ++ ys) := by
  obtain ⟨b, hb, hplain⟩ := h
  exact ⟨b, by rw [List.getLast?_append, hb, Option.some_or], hplain⟩

/-- No ends of lines arise where bytes are put after a plain one, or before one. -/
theorem infix_append_iff_of_ends (hl : LineEnds l) (h : Ends xs) : l <:+: xs ++ ys ↔ l <:+: xs ∨ l <:+: ys := by
  rw [List.infix_append_iff_ne_nil]
  refine or_congr_right (or_iff_left ?_)
  -- across the seam they would hold the plain byte before it
  rintro ⟨l₁, l₂, hne, -, rfl, ⟨front, rfl⟩, -⟩
  obtain ⟨b, hb, hplain⟩ := h
  rw [List.getLast?_append, List.getLast?_eq_some_getLast hne, Option.some_or, Option.some.injEq] at hb
  refine hl.not_plain b ?_ hplain
  rw [← hb]
  exact List.mem_append_left _ (List.getLast_mem hne)

theorem infix_append_iff_of_begins (hl : LineEnds l) (h : Begins ys) : l <:+: xs ++ ys ↔ l <:+: xs ∨ l <:+: ys := by
  rw [List.infix_append_iff_ne_nil]
  refine or_congr_right (or_iff_left ?_)
  rintro ⟨l₁, l₂, -, hne, rfl, -, rest, rfl⟩
  obtain ⟨b, hb, hplain⟩ := h
  rw [List.head?_append, List.head?_eq_some_head hne, Option.some_or, Option.some.injEq] at hb
  refine hl.not_plain b ?_ hplain
  rw [← hb]
  exact List.mem_append_right _ (List.head_mem hne)

/-- Bytes in which no line ends. -/
structure Unbroken (bs : Bytes) : Prop where
  nonempty : bs ≠ []
  plain : ∀ b ∈ bs, Plain b

theorem Unbroken.begins (h : Unbroken xs) : Begins xs :=
  ⟨_, List.head?_eq_some_head h.nonempty, h.plain _ (List.head_mem h.nonempty)⟩

theorem Unbroken.ends (h : Unbroken xs) : Ends xs :=
  ⟨_, List.getLast?_eq_some_getLast h.nonempty, h.plain _ (List.getLast_mem h.nonempty)⟩

theorem Unbroken.not_isInfix (h : Unbroken xs) (hl : LineEnds l) : ¬l <:+: xs := fun hin =>
  hl.not_plain _ (List.head_mem hl.nonempty) (h.plain _ (hin.subset (List.head_mem hl.nonempty)))

theorem Unbroken.append (hx : Unbroken xs) (hy : Unbroken ys) : Unbroken (xs ++ ys) where
  nonempty := List.append_ne_nil_of_left_ne_nil hx.nonempty _
  plain b hb := (List.mem_append.mp hb).elim (hx.plain b) (hy.plain b)

theorem unbroken_encodeChars {cs : List Char} (hne : cs ≠ []) (h : ∀ c ∈ cs, c ≠ '\r' ∧ c ≠ '\n') :
    Unbroken (Utf8.encodeChars cs) := by
  constructor
  · intro hempty
    have hsize := Utf8.length_encodeChars cs
    obtain ⟨c, rest, rfl⟩ := List.exists_cons_of_ne_nil hne
    rw [hempty, List.length_nil, Utf8.size_cons] at hsize
    have hpos := c.utf8Size_pos
    omega
  · intro b hb
    constructor <;> rintro rfl
    · exact (h '\r' (Utf8.ofNat_mem_of_mem_encodeChars hb (by decide))).1 rfl
    · exact (h '\n' (Utf8.ofNat_mem_of_mem_encodeChars hb (by decide))).2 rfl

theorem unbroken_text {s : String} (hne : s.toList.isEmpty = false)
    (h : (s.toList.all fun c => c != '\r' && c != '\n') = true) : Unbroken (Utf8.encode s) :=
  unbroken_encodeChars (List.isEmpty_eq_false_iff.mp hne) fun c hc => by
    simpa only [Bool.and_eq_true, bne_iff_ne] using List.all_eq_true.mp h c hc

theorem ne_lineEnd_of_isDigit {c : Char} (h : c.isDigit = true) : c ≠ '\r' ∧ c ≠ '\n' :=
  ⟨Text.ne_of_isDigit h (by decide), Text.ne_of_isDigit h (by decide)⟩

theorem unbroken_numeral (n : Nat) : Unbroken (Utf8.encode (toString n)) := by
  have hdigits : (toString n).toList = Text.numeral n := Nat.toList_repr
  rw [Utf8.encode, hdigits]
  exact unbroken_encodeChars Nat.toDigits_ne_nil fun _ hc => ne_lineEnd_of_isDigit (Text.isDigit_of_mem_numeral hc)

/-- The bytes of a line that stand between others in which no line ends. -/
def Encloses (line middle : Bytes) : Prop :=
  ∃ before after, line = before ++ middle ++ after ∧ Unbroken before ∧ Unbroken after

theorem Encloses.begins {line middle : Bytes} (h : Encloses line middle) : Begins line := by
  obtain ⟨before, after, rfl, hbefore, -⟩ := h
  rw [List.append_assoc]
  exact hbefore.begins.append _

theorem Encloses.ends {line middle : Bytes} (h : Encloses line middle) : Ends line := by
  obtain ⟨before, after, rfl, -, hafter⟩ := h
  exact hafter.ends.append _

theorem Encloses.infix_iff {line middle : Bytes} (h : Encloses line middle) (hl : LineEnds l) :
    l <:+: line ↔ l <:+: middle := by
  obtain ⟨before, after, rfl, hbefore, hafter⟩ := h
  rw [infix_append_iff_of_begins hl hafter.begins, infix_append_iff_of_ends hl hbefore.ends,
    or_iff_left (hafter.not_isInfix hl), or_iff_right (hbefore.not_isInfix hl)]

/-! ### Lines and blank lines -/

/-- Bytes that are put together from lines. -/
structure Lines (bs : Bytes) (lines : List Bytes) : Prop where
  joined : [13, 10].intercalate lines = bs
  apart : ∀ line ∈ lines, ¬[13, 10] <:+: line

/-- A message parted at its first blank line. -/
structure Parts (message head content : Bytes) : Prop where
  whole : message = head ++ [13, 10, 13, 10] ++ content
  first : ∀ before after, message = before ++ [13, 10, 13, 10] ++ after → head.length ≤ before.length

theorem parts_iff {head content : Bytes} :
    Parts (head ++ [13, 10, 13, 10] ++ content) head content ↔ ¬[13, 10, 13, 10] <:+: head ++ [13, 10, 13] := by
  constructor
  · rintro h ⟨before, after, hbefore⟩
    have hfirst := h.first before (after ++ 10 :: content) (by
      rw [← List.append_assoc, hbefore, List.append_assoc, List.append_assoc]
      rfl)
    have hlength := congrArg List.length hbefore
    simp only [List.length_append, List.length_cons, List.length_nil] at hlength
    omega
  · -- a blank line that begins inside the head ends within the first three bytes of the one after it
    refine fun h => ⟨rfl, fun before after hbefore => Nat.le_of_not_lt fun hlt => h ?_⟩
    have hhead : head ++ [13, 10, 13] <+: head ++ [13, 10, 13, 10] ++ content := ⟨10 :: content, by simp⟩
    have hprefix : before ++ [13, 10, 13, 10] <+: head ++ [13, 10, 13] :=
      List.prefix_of_prefix_length_le ⟨after, hbefore.symm⟩ hhead (by
        simp only [List.length_append, List.length_cons, List.length_nil]
        omega)
    exact List.infix_append_right.trans hprefix.isInfix

theorem begins_intercalate {line : Bytes} (h : Begins line) (lines : List Bytes) :
    Begins ([13, 10].intercalate (line :: lines)) := by
  cases lines with
  | nil => rwa [List.intercalate_singleton]
  | cons next lines =>
    rw [List.intercalate_cons_cons, List.append_assoc]
    exact h.append _

theorem ends_intercalate {lines : List Bytes} (hne : lines ≠ []) (h : ∀ line ∈ lines, Ends line) :
    Ends ([13, 10].intercalate lines) := by
  induction lines with
  | nil => exact absurd rfl hne
  | cons line lines ih =>
    cases lines with
    | nil =>
      rw [List.intercalate_singleton]
      exact h line List.mem_cons_self
    | cons next lines =>
      rw [List.intercalate_cons_cons]
      exact (ih (List.cons_ne_nil _ _) fun line hline => h line (List.mem_cons_of_mem _ hline)).append _

/-- Between lines that begin and end with plain bytes there is no blank line. -/
theorem infix_intercalate_iff {lines : List Bytes} (hbegins : ∀ line ∈ lines, Begins line)
    (hends : ∀ line ∈ lines, Ends line) :
    [13, 10, 13, 10] <:+: [13, 10].intercalate lines ↔ ∃ line ∈ lines, [13, 10, 13, 10] <:+: line := by
  induction lines with
  | nil => exact iff_of_false (by decide) nofun
  | cons line lines ih =>
    have hlater := ih (fun line hline => hbegins line (List.mem_cons_of_mem _ hline)) fun line hline =>
      hends line (List.mem_cons_of_mem _ hline)
    simp only [List.mem_cons, exists_eq_or_imp]
    rw [← hlater]
    cases lines with
    | nil =>
      rw [List.intercalate_singleton]
      exact (or_iff_left (by decide)).symm
    | cons next lines =>
      have hnext := begins_intercalate (hbegins next (List.mem_cons_of_mem _ List.mem_cons_self)) lines
      have hcrlf : ¬[13, 10, 13, 10] <:+: ([13, 10] : Bytes) := by decide
      rw [List.intercalate_cons_cons, infix_append_iff_of_begins lineEnds_two hnext,
        infix_append_iff_of_ends lineEnds_two (hends line List.mem_cons_self), or_iff_left hcrlf]

/-! ### The request -/

/-- The lines before a text of that many bytes. -/
def headLines (a : Address) (size : Nat) : List Bytes := [
  Utf8.encode ("POST " ++ a.path ++ " HTTP/1.1"),
  Utf8.encode ("Host: " ++ a.host ++ ":" ++ toString a.port.toNat),
  Utf8.encode "Content-Type: text/plain",
  Utf8.encode ("Content-Length: " ++ toString size),
  Utf8.encode "Connection: close"]

theorem encode_request (a : Address) (body : String) :
    Utf8.encode (request a body) =
      [13, 10].intercalate (headLines a (Utf8.encode body).length) ++ [13, 10, 13, 10] ++ Utf8.encode body := by
  have hcrlf : Utf8.encode "\r\n" = [13, 10] := by decide
  have hversion : Utf8.encode " HTTP/1.1\r\n" = Utf8.encode " HTTP/1.1" ++ [13, 10] := by decide
  have htype : Utf8.encode "Content-Type: text/plain\r\n" = Utf8.encode "Content-Type: text/plain" ++ [13, 10] := by
    decide
  have hclose : Utf8.encode "Connection: close\r\n" = Utf8.encode "Connection: close" ++ [13, 10] := by decide
  have hblank : ([13, 10, 13, 10] : Bytes) = [13, 10] ++ [13, 10] := rfl
  unfold request headLines
  simp only [Utf8.length_encode, Utf8.encode_append, hcrlf, hversion, htype, hclose, hblank,
    List.intercalate_cons_cons, List.intercalate_singleton, List.append_assoc]

theorem encloses_path (a : Address) :
    Encloses (Utf8.encode ("POST " ++ a.path ++ " HTTP/1.1")) (Utf8.encode a.path) := by
  refine ⟨Utf8.encode "POST ", Utf8.encode " HTTP/1.1", ?_, ?_, ?_⟩
  · rw [Utf8.encode_append, Utf8.encode_append]
  · exact unbroken_text (by decide) (by decide)
  · exact unbroken_text (by decide) (by decide)

theorem encloses_host (a : Address) :
    Encloses (Utf8.encode ("Host: " ++ a.host ++ ":" ++ toString a.port.toNat)) (Utf8.encode a.host) := by
  refine ⟨Utf8.encode "Host: ", Utf8.encode ":" ++ Utf8.encode (toString a.port.toNat), ?_, ?_, ?_⟩
  · rw [Utf8.encode_append, Utf8.encode_append, Utf8.encode_append, List.append_assoc]
  · exact unbroken_text (by decide) (by decide)
  · exact (unbroken_text (by decide) (by decide)).append (unbroken_numeral _)

theorem unbroken_contentLength (size : Nat) : Unbroken (Utf8.encode ("Content-Length: " ++ toString size)) := by
  rw [Utf8.encode_append]
  exact (unbroken_text (by decide) (by decide)).append (unbroken_numeral _)

/-- A line of the head has the path or the host in it, or no line ends in it. -/
theorem headLines_cases {a : Address} {size : Nat} {line : Bytes} (h : line ∈ headLines a size) :
    Encloses line (Utf8.encode a.path) ∨ Encloses line (Utf8.encode a.host) ∨ Unbroken line := by
  simp only [headLines, List.mem_cons, List.not_mem_nil, or_false] at h
  rcases h with rfl | rfl | rfl | rfl | rfl
  · exact Or.inl (encloses_path a)
  · exact Or.inr (Or.inl (encloses_host a))
  · exact Or.inr (Or.inr (unbroken_text (by decide) (by decide)))
  · exact Or.inr (Or.inr (unbroken_contentLength size))
  · exact Or.inr (Or.inr (unbroken_text (by decide) (by decide)))

theorem begins_of_mem_headLines {a : Address} {size : Nat} {line : Bytes} (h : line ∈ headLines a size) :
    Begins line := by
  rcases headLines_cases h with h | h | h <;> exact h.begins

theorem ends_of_mem_headLines {a : Address} {size : Nat} {line : Bytes} (h : line ∈ headLines a size) :
    Ends line := by
  rcases headLines_cases h with h | h | h <;> exact h.ends

theorem infix_headLines_iff (hl : LineEnds l) (a : Address) (size : Nat) :
    (∃ line ∈ headLines a size, l <:+: line) ↔ l <:+: Utf8.encode a.host ∨ l <:+: Utf8.encode a.path := by
  constructor
  · rintro ⟨line, hline, hin⟩
    rcases headLines_cases hline with h | h | h
    · exact Or.inr ((h.infix_iff hl).mp hin)
    · exact Or.inl ((h.infix_iff hl).mp hin)
    · exact absurd hin (h.not_isInfix hl)
  · rintro (h | h)
    · exact ⟨_, List.mem_cons_of_mem _ List.mem_cons_self, ((encloses_host a).infix_iff hl).mpr h⟩
    · exact ⟨_, List.mem_cons_self, ((encloses_path a).infix_iff hl).mpr h⟩

/-! ### Addresses -/

theorem infix_authority_iff (hl : LineEnds l) {authority host : List Char} {port : UInt16}
    (h : Address.Authority authority host port) :
    l <:+: Utf8.encodeChars authority ↔ l <:+: Utf8.encodeChars host := by
  cases h with
  | bare => exact Iff.rfl
  | @withPort _ digits _ _ hport =>
    have hunbroken : Unbroken (Utf8.encodeChars (':' :: digits)) := by
      obtain ⟨-, ds, hds, -, hdigits, -⟩ := hport
      refine unbroken_encodeChars (List.cons_ne_nil _ _) fun c hc => ?_
      have hcase : c = ':' ∨ c = '+' ∨ c ∈ ds := by
        rcases hds with rfl | rfl
        · exact (List.mem_cons.mp hc).imp_right Or.inr
        · exact (List.mem_cons.mp hc).imp_right List.mem_cons.mp
      rcases hcase with rfl | rfl | hc
      · decide
      · decide
      · exact ne_lineEnd_of_isDigit (hdigits c hc)
    rw [Utf8.encodeChars_append, infix_append_iff_of_begins hl hunbroken.begins, or_iff_left (hunbroken.not_isInfix hl)]

/-- The ends of lines in an address are those of its host and of its path. -/
theorem infix_url_iff (hl : LineEnds l) {url : String} {a : Address} (h : Address.parse url = .ok a) :
    l <:+: Utf8.encode url ↔ l <:+: Utf8.encode a.host ∨ l <:+: Utf8.encode a.path := by
  obtain ⟨authority, rest, hurl, hspells⟩ := Address.parse_eq_ok_iff.mp h
  have hscheme : Unbroken (Utf8.encodeChars "http://".toList) := unbroken_text (by decide) (by decide)
  rw [Utf8.encode, hurl, Utf8.encodeChars_append, Utf8.encodeChars_append, List.append_assoc,
    infix_append_iff_of_ends hl hscheme.ends, or_iff_right (hscheme.not_isInfix hl)]
  have hauthority : l <:+: Utf8.encodeChars authority ↔ l <:+: Utf8.encode a.host :=
    infix_authority_iff hl hspells.parted
  rcases hspells.path with ⟨rfl, hroot⟩ | ⟨hslash, hpath⟩
  · have hempty : ¬l <:+: Utf8.encode a.path := by
      rw [hroot]
      exact (unbroken_text (by decide) (by decide)).not_isInfix hl
    have hnil : Utf8.encodeChars [] = [] := rfl
    rw [hnil, List.append_nil, hauthority, or_iff_left hempty]
  · have hbegins : Begins (Utf8.encodeChars rest) := by
      obtain ⟨more, rfl⟩ := List.head?_eq_some_iff.mp hslash
      have hfirst : Unbroken (Utf8.encode "/") := unbroken_text (by decide) (by decide)
      exact hfirst.begins.append (Utf8.encodeChars more)
    rw [infix_append_iff_of_begins hl hbegins, hauthority, ← hpath]
    rfl

/-! ### Framing -/

theorem lines_headLines_iff {url : String} {a : Address} (h : Address.parse url = .ok a) (size : Nat) :
    Lines ([13, 10].intercalate (headLines a size)) (headLines a size) ↔ ¬[13, 10] <:+: Utf8.encode url := by
  rw [infix_url_iff lineEnds_one h, ← infix_headLines_iff lineEnds_one a size]
  exact ⟨fun hlines ⟨line, hline, hin⟩ => hlines.apart line hline hin,
    fun hnone => ⟨rfl, fun line hline hin => hnone ⟨line, hline, hin⟩⟩⟩

theorem parts_request_iff {url : String} {a : Address} (h : Address.parse url = .ok a) (body : String) :
    Parts (Utf8.encode (request a body)) ([13, 10].intercalate (headLines a (Utf8.encode body).length))
        (Utf8.encode body) ↔ ¬[13, 10, 13, 10] <:+: Utf8.encode url := by
  have hends : Ends ([13, 10].intercalate (headLines a (Utf8.encode body).length)) :=
    ends_intercalate (List.cons_ne_nil _ _) fun _ => ends_of_mem_headLines
  have hshort : ¬[13, 10, 13, 10] <:+: ([13, 10, 13] : Bytes) := by decide
  rw [encode_request, parts_iff, infix_append_iff_of_ends lineEnds_two hends, or_iff_left hshort,
    infix_intercalate_iff (fun _ => begins_of_mem_headLines) (fun _ => ends_of_mem_headLines),
    infix_headLines_iff lineEnds_two, infix_url_iff lineEnds_two h]

/-- The request that posts a text to an accepted address, parted at its first blank line, is five lines (the request
    line and the headers for the host, the type, the size in bytes and the connection) and the text, just if the address
    has no end of line; and what comes after the first blank line is the text just if the address has no blank line. -/
theorem start_frames {url : String} {a : Address} (h : Address.parse url = .ok a) (body : String) :
    ∃ request, Transport.start url body = (.ok (), .connecting request none) ∧
      ((∃ head content, Parts request head content ∧ Lines head (headLines a content.length) ∧
        content = Utf8.encode body) ↔ ¬[13, 10] <:+: Utf8.encode url) ∧
      ((∃ head, Parts request head (Utf8.encode body)) ↔ ¬[13, 10, 13, 10] <:+: Utf8.encode url) := by
  refine ⟨Utf8.encode (request a body), ?_, ⟨?_, fun hnone => ?_⟩, ⟨?_, fun hnone => ?_⟩⟩
  · unfold Transport.start
    rw [h]
  · rintro ⟨head, _, -, hlines, rfl⟩
    rw [← hlines.joined] at hlines
    exact (lines_headLines_iff h _).mp hlines
  · have hblank : ¬[13, 10, 13, 10] <:+: Utf8.encode url := fun hin => hnone (List.infix_append_left.trans hin)
    exact ⟨_, _, (parts_request_iff h body).mpr hblank, (lines_headLines_iff h _).mpr hnone, rfl⟩
  · rintro ⟨head, hparts⟩
    have hhead := hparts.whole
    rw [encode_request] at hhead
    rw [← List.append_cancel_right (List.append_cancel_right hhead)] at hparts
    exact (parts_request_iff h body).mp hparts
  · exact ⟨_, (parts_request_iff h body).mpr hnone⟩

/-- Posting a text that takes a byte more than it has characters. -/
theorem start_frames_accented :
    let url := "http://127.0.0.1:8080/api/hello"
    let a : Address := ⟨"127.0.0.1", 8080, "/api/hello"⟩
    Address.parse url = .ok a ∧
      ∃ request, Transport.start url "Olá" = (.ok (), .connecting request none) ∧
        ∃ head content, Parts request head content ∧ Lines head (headLines a content.length) ∧
          content = Utf8.encode "Olá" := by
  have h : Address.parse "http://127.0.0.1:8080/api/hello" = .ok ⟨"127.0.0.1", 8080, "/api/hello"⟩ := by decide +kernel
  have hline : ¬[13, 10] <:+: Utf8.encode "http://127.0.0.1:8080/api/hello" := by decide +kernel
  obtain ⟨request, hstart, hframed, -⟩ := start_frames h "Olá"
  exact ⟨h, request, hstart, hframed.mpr hline⟩

/-- An end of line in an accepted address adds a header of its own. -/
theorem path_adds_header :
    let url := "http://h/\r\nX-Extra: 1"
    let a : Address := ⟨"h", 80, "/\r\nX-Extra: 1"⟩
    Address.parse url = .ok a ∧
      ∃ request, Transport.start url "x" = (.ok (), .connecting request none) ∧
        (∃ head, Parts request head (Utf8.encode "x") ∧
          Lines head (["POST /", "X-Extra: 1 HTTP/1.1", "Host: h:80", "Content-Type: text/plain", "Content-Length: 1",
            "Connection: close"].map Utf8.encode)) ∧
        ¬∃ head content, Parts request head content ∧ Lines head (headLines a content.length) ∧
          content = Utf8.encode "x" := by
  intro url a
  have h : Address.parse url = .ok a := by decide +kernel
  refine ⟨h, Utf8.encode (request a "x"), ?_, ⟨_, (parts_request_iff h "x").mpr ?_, ⟨?_, ?_⟩⟩, ?_⟩
  · unfold Transport.start
    rw [h]
  · decide +kernel
  · decide +kernel
  · decide +kernel
  · rintro ⟨head, content, -, hlines, -⟩
    have hline : [13, 10] <:+: Utf8.encode ("POST " ++ a.path ++ " HTTP/1.1") := by decide +kernel
    exact hlines.apart _ List.mem_cons_self hline

end FieldLogger.Http
