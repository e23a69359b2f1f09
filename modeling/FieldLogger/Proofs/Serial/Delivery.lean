import FieldLogger.Proofs.Serial.Lines

/-! What comes through the serial line, however the rounds of the reader fall between the receives of the superloop
    (`run_delivers_lines`). Each round sends the next line of the input, whole; the lines that the receives are answered
    with and then those that wait are, in order, the lines that found room. -/

namespace FieldLogger
namespace Serial

/-- The line that an answer hands over. -/
def Answer.line? : Answer → Option String
  | .line text => some text
  | .timeout | .closed => none

namespace Line

variable {l : Line} {text : String} {texts : List String}

/-! ### One event -/

/-- The reader still holds the lines that it is to send, or it has ended and there are none. -/
inductive Expects (l : Line) : List String → Prop
  | reading {texts : List String} (hopen : l.isOpen = true) (h : SentLines l.reader.input texts) : Expects l texts
  | ended (hopen : l.isOpen = false) : Expects l []

theorem round_of_closed (h : l.isOpen = false) : l.round = l := by
  unfold round
  rw [h]
  rfl

theorem round_of_cons (hopen : l.isOpen = true) (h : SentLines l.reader.input (text :: texts)) :
    ∃ reader : Reader, l.round = ({ l with reader } : Line).send text ∧ SentLines reader.input texts := by
  obtain ⟨size, rest, hread, hrest⟩ := SentLines.readLine_cons (r := l.reader.clear) h
  -- the buffer is empty before each line, so what is sent is the line alone
  have hbuffer : l.reader.clear.buffer ++ text = text := String.empty_append
  refine ⟨⟨rest, text⟩, ?_, hrest⟩
  unfold round
  rw [if_pos hopen, hread, hbuffer]
  rfl

theorem round_of_nil (hopen : l.isOpen = true) (h : SentLines l.reader.input []) :
    ∃ reader : Reader, l.round = ({ l with reader } : Line).close := by
  have hread := SentLines.readLine_nil (r := l.reader.clear) h
  refine ⟨l.reader.clear.readLine.2, ?_⟩
  unfold round
  rw [if_pos hopen]
  cases hline : l.reader.clear.readLine with
  | mk size? reader =>
    rw [hline] at hread
    obtain rfl | rfl : size? = none ∨ size? = some 0 := hread
    · rfl
    · rfl

theorem queue_send (l : Line) (text : String) :
    (l.send text).queue = l.queue ++ if l.queue.length < capacity then [text] else [] := by
  unfold send
  split
  · rfl
  · exact (List.append_nil _).symm

theorem reader_send (l : Line) (text : String) : (l.send text).reader = l.reader ∧ (l.send text).isOpen = l.isOpen := by
  unfold send
  split <;> exact ⟨rfl, rfl⟩

theorem reader_receive (l : Line) : l.receive.2.reader = l.reader ∧ l.receive.2.isOpen = l.isOpen := by
  unfold receive
  split <;> exact ⟨rfl, rfl⟩

/-- A receive hands over what it takes from the queue. -/
theorem line?_receive (l : Line) : l.receive.1.line?.toList ++ l.receive.2.queue = l.queue := by
  unfold receive
  split
  · rename_i hqueue
    rw [hqueue]
    rfl
  · split <;> rfl

/-! ### Answers -/

theorem receive_eq_line_iff : l.receive.1 = .line text ↔ l.queue.head? = some text := by
  unfold receive
  cases l.queue with
  | nil => cases l.isOpen <;> simp
  | cons first rest => simp

theorem receive_eq_timeout_iff : l.receive.1 = .timeout ↔ l.isOpen = true ∧ l.queue = [] := by
  unfold receive
  cases l.queue with
  | nil => cases l.isOpen <;> simp
  | cons first rest => simp

theorem receive_eq_closed_iff : l.receive.1 = .closed ↔ l.isOpen = false ∧ l.queue = [] := by
  unfold receive
  cases l.queue with
  | nil => cases l.isOpen <;> simp
  | cons first rest => simp

/-! ### What the reader is to send -/

theorem Expects.receive (h : l.Expects texts) : l.receive.2.Expects texts := by
  obtain ⟨hreader, hsame⟩ := reader_receive l
  cases h with
  | reading hopen h => exact .reading (hsame.trans hopen) (hreader ▸ h)
  | ended hopen => exact .ended (hsame.trans hopen)

/-- A round of the reader sends the next of the lines that are expected. -/
theorem Expects.round_cons (h : l.Expects (text :: texts)) :
    l.round.Expects texts ∧ l.round.isOpen = l.isOpen ∧
      l.round.queue = l.queue ++ if l.queue.length < capacity then [text] else [] := by
  cases h with
  | reading hopen h =>
    obtain ⟨reader, hround, hrest⟩ := round_of_cons hopen h
    obtain ⟨hreader, hsame⟩ := reader_send { l with reader } text
    rw [hround]
    exact ⟨.reading (hsame.trans hopen) (hreader ▸ hrest), hsame, queue_send { l with reader } text⟩

theorem Expects.round_nil (h : l.Expects []) :
    l.round.Expects [] ∧ l.round.isOpen = false ∧ l.round.queue = l.queue := by
  cases h with
  | reading hopen h =>
    obtain ⟨reader, hround⟩ := round_of_nil hopen h
    rw [hround]
    exact ⟨.ended rfl, rfl, rfl⟩
  | ended hopen =>
    rw [round_of_closed hopen]
    exact ⟨.ended hopen, hopen, rfl⟩

/-! ### Runs -/

/-- A text that a round sent, and how many lines waited then. -/
structure Sent where
  text : String
  waiting : Nat
  deriving DecidableEq, Repr

/-- What the rounds of a run send if these texts are to be sent, one in each round until there is no other. -/
def sends : Line → List String → List Event → List Sent
  | _, _, [] => []
  | l, texts, .receive :: events => sends l.receive.2 texts events
  | l, [], .round :: events => sends l.round [] events
  | l, text :: texts, .round :: events => ⟨text, l.queue.length⟩ :: sends l.round texts events

theorem map_text_sends (l : Line) (texts : List String) (events : List Event) :
    (l.sends texts events).map (·.text) = texts.take (events.count .round) := by
  induction events generalizing l texts with
  | nil => rfl
  | cons e events ih =>
    cases e with
    | receive =>
      rw [List.count_cons_of_ne (by decide)]
      cases texts <;> exact ih _ _
    | round =>
      rw [List.count_cons_self]
      cases texts with
      | nil => exact (ih _ _).trans List.take_nil
      | cons text texts => exact congrArg (text :: ·) (ih _ _)

/-- What the receives of a run are answered, in order. -/
def answers : Line → List Event → List Answer
  | _, [] => []
  | l, .receive :: events => l.receive.1 :: answers l.receive.2 events
  | l, .round :: events => answers l.round events

/-- The lines that the superloop gets in a run. -/
def received (l : Line) (events : List Event) : List String := (l.answers events).filterMap Answer.line?

theorem received_receive (l : Line) (events : List Event) :
    l.received (.receive :: events) = l.receive.1.line?.toList ++ l.receive.2.received events := by
  unfold received
  rw [answers, List.filterMap_cons]
  cases l.receive.1.line? <;> rfl

theorem received_append (l : Line) (events later : List Event) :
    l.received (events ++ later) = l.received events ++ (l.run events).received later := by
  induction events generalizing l with
  | nil => rfl
  | cons e events ih =>
    cases e with
    | receive =>
      rw [List.cons_append, received_receive, received_receive, ih, List.append_assoc]
      rfl
    | round => exact ih l.round

/-- What is received in a run and what waits after it is what waited before and, in the order in which it was sent,
    what found room. -/
theorem received_append_queue (h : l.Expects texts) (events : List Event) :
    l.received events ++ (l.run events).queue =
      l.queue ++ ((l.sends texts events).filter (·.waiting < capacity)).map (·.text) := by
  induction events generalizing l texts with
  | nil => exact (List.append_nil _).symm
  | cons e events ih =>
    cases e with
    | receive =>
      have hrun := congrArg (l.receive.1.line?.toList ++ ·) (ih h.receive)
      rw [← List.append_assoc, ← List.append_assoc, ← received_receive, line?_receive] at hrun
      cases texts <;> exact hrun
    | round =>
      cases texts with
      | nil =>
        obtain ⟨hexpects, -, hsame⟩ := h.round_nil
        have hrun := ih hexpects
        rwa [hsame] at hrun
      | cons text texts =>
        obtain ⟨hexpects, -, hround⟩ := h.round_cons
        refine (ih hexpects).trans ?_
        rw [hround, sends, List.filter_cons, List.append_assoc]
        congr 1
        by_cases hroom : l.queue.length < capacity
        · rw [if_pos hroom, if_pos (decide_eq_true hroom)]
          rfl
        · rw [if_neg hroom, if_neg (by simpa using hroom)]
          rfl

/-- A reader that holds so many lines is still there after so many rounds. -/
theorem isOpen_run (h : l.Expects texts) (events : List Event) :
    (l.run events).isOpen = true ↔ l.isOpen = true ∧ events.count .round ≤ texts.length := by
  induction events generalizing l texts with
  | nil => exact (and_iff_left (Nat.zero_le _)).symm
  | cons e events ih =>
    cases e with
    | receive =>
      rw [List.count_cons_of_ne (by decide), ← (reader_receive l).2]
      exact ih h.receive
    | round =>
      rw [List.count_cons_self]
      cases texts with
      | nil =>
        obtain ⟨hexpects, hended, -⟩ := h.round_nil
        refine iff_of_false (fun hopen => ?_) fun hmore => Nat.not_succ_le_zero _ hmore.2
        have hstill := ((ih hexpects).mp hopen).1
        rw [hended] at hstill
        cases hstill
      | cons text texts =>
        obtain ⟨hexpects, hsame, -⟩ := h.round_cons
        rw [List.length_cons, Nat.add_le_add_iff_right, ← hsame]
        exact ih hexpects

theorem length_queue_step {e : Event} (h : l.queue.length ≤ capacity) : (l.step e).queue.length ≤ capacity := by
  have sent : ∀ (l' : Line) (text : String), l'.queue.length ≤ capacity → (l'.send text).queue.length ≤ capacity := by
    intro l' text h'
    unfold send
    split
    · rename_i hroom
      rw [List.length_append]
      exact hroom
    · exact h'
  cases e with
  | round =>
    change l.round.queue.length ≤ capacity
    unfold round
    split
    · split
      · exact h
      · exact h
      · exact sent _ _ h
    · exact h
  | receive =>
    change l.receive.2.queue.length ≤ capacity
    unfold receive
    split
    · rename_i hqueue
      rw [hqueue] at h
      exact Nat.le_of_succ_le h
    · exact h

theorem length_queue_run (h : l.queue.length ≤ capacity) (events : List Event) :
    (l.run events).queue.length ≤ capacity := by
  induction events generalizing l with
  | nil => exact h
  | cons e events ih => exact ih (length_queue_step h)

theorem waiting_le {s : Sent} {events : List Event} (h : l.queue.length ≤ capacity) (hs : s ∈ l.sends texts events) :
    s.waiting ≤ capacity := by
  induction events generalizing l texts with
  | nil => cases hs
  | cons e events ih =>
    have hstep := length_queue_step (e := e) h
    cases e with
    | receive => cases texts <;> exact ih hstep hs
    | round =>
      cases texts with
      | nil => exact ih hstep hs
      | cons text texts =>
        rcases List.mem_cons.mp hs with rfl | hs
        · exact h
        · exact ih hstep hs

/-- Receives alone hand over the lines that wait, oldest first. -/
theorem run_receives (n : Nat) (l : Line) :
    l.received (List.replicate n .receive) = l.queue.take n ∧
      (l.run (List.replicate n .receive)).queue = l.queue.drop n ∧
      (l.run (List.replicate n .receive)).isOpen = l.isOpen := by
  induction n generalizing l with
  | zero => exact ⟨rfl, rfl, rfl⟩
  | succ n ih =>
    obtain ⟨hreceived, hqueue, hopen⟩ := ih l.receive.2
    have hone : l.receive.1.line?.toList = l.queue.take 1 ∧ l.receive.2.queue = l.queue.drop 1 := by
      unfold receive
      cases hlines : l.queue with
      | nil => cases l.isOpen <;> exact ⟨rfl, hlines⟩
      | cons first rest => exact ⟨rfl, rfl⟩
    refine ⟨?_, hqueue.trans ?_, hopen.trans (reader_receive l).2⟩
    · rw [List.replicate_succ, received_receive, hreceived, hone.1, hone.2, ← List.take_add, Nat.add_comm]
    · rw [hone.2, List.drop_drop, Nat.add_comm]

/-! ### Input that comes later -/

theorem input_readLine (r : Reader) : r.readLine.2.input = (cutLine r.input).2 := by
  unfold Reader.readLine
  dsimp only
  split <;> rfl

theorem input_round (hopen : l.isOpen = true) : l.round.reader.input = (cutLine l.reader.input).2 := by
  change _ = (cutLine l.reader.clear.input).2
  rw [← input_readLine]
  unfold round
  rw [if_pos hopen]
  cases l.reader.clear.readLine with
  | mk size? reader =>
    match size? with
    | none | some 0 => rfl
    | some (_ + 1) => exact congrArg Reader.input (reader_send { l with reader } reader.buffer).1

theorem send_feed (l : Line) (text : String) (late : Bytes) : (l.feed late).send text = (l.send text).feed late := by
  unfold send feed
  dsimp only
  split <;> rfl

/-- A round that has a whole line to read leaves what comes after it alone. -/
theorem round_feed (h : 10 ∈ l.reader.input) (late : Bytes) : (l.feed late).round = l.round.feed late := by
  have hread : (l.feed late).reader.clear.readLine =
      (l.reader.clear.readLine.1,
        { l.reader.clear.readLine.2 with input := l.reader.clear.readLine.2.input ++ late }) := by
    unfold Reader.readLine
    dsimp only [feed, Reader.clear]
    rw [cutLine_of_mem h]
    dsimp only
    cases Utf8.decode? (cutLine l.reader.input).1 <;> rfl
  cases hopen : l.isOpen with
  | false => rw [round_of_closed hopen, round_of_closed (l := l.feed late) hopen]
  | true =>
    unfold round
    rw [if_pos hopen, if_pos (c := (l.feed late).isOpen = true) hopen, hread]
    cases l.reader.clear.readLine with
    | mk size? reader =>
      match size? with
      | none | some 0 => rfl
      | some (_ + 1) => exact send_feed { l with reader } reader.buffer late

/-- A run whose rounds all have a whole line to read does not depend on what comes later. -/
theorem run_feed {events : List Event} (h : events.count .round ≤ l.reader.input.count 10) (late : Bytes) :
    (l.feed late).run events = (l.run events).feed late ∧ (l.feed late).answers events = l.answers events := by
  induction events generalizing l with
  | nil => exact ⟨rfl, rfl⟩
  | cons e events ih =>
    cases e with
    | receive =>
      rw [List.count_cons_of_ne (by decide), ← (reader_receive l).1] at h
      obtain ⟨hrun, hanswers⟩ := ih h
      have hreceive : (l.feed late).receive = (l.receive.1, l.receive.2.feed late) := by
        unfold receive feed
        dsimp only
        split <;> rfl
      refine ⟨?_, ?_⟩
      · change (l.feed late).receive.2.run events = _
        rw [hreceive]
        exact hrun
      · rw [answers, answers, hreceive]
        exact congrArg (l.receive.1 :: ·) hanswers
    | round =>
      rw [List.count_cons_self] at h
      have hline : 10 ∈ l.reader.input := List.count_pos_iff.mp (Nat.lt_of_lt_of_le (Nat.succ_pos _) h)
      have hrest : events.count .round ≤ l.round.reader.input.count 10 := by
        cases hopen : l.isOpen with
        | false =>
          rw [round_of_closed hopen]
          exact Nat.le_of_succ_le h
        | true =>
          rw [input_round hopen]
          rw [count_cutLine hline] at h
          exact Nat.le_of_succ_le_succ h
      obtain ⟨hrun, hanswers⟩ := ih hrest
      rw [← round_feed hline] at hrun hanswers
      exact ⟨hrun, hanswers⟩

/-! ### Inputs -/

theorem expects_ofInput {input : Bytes} (h : SentLines input texts) : (ofInput input).Expects texts := .reading rfl h

/-- The reader ends in the round after the last line that it sends. -/
theorem isOpen_run_ofInput {input : Bytes} (h : SentLines input texts) (events : List Event) :
    ((ofInput input).run events).isOpen = false ↔ texts.length < events.count .round := by
  have hopen : (ofInput input).isOpen = true := rfl
  rw [Bool.eq_false_iff, ne_eq, isOpen_run (expects_ofInput h) events, and_iff_right hopen, Nat.not_le]

theorem isOpen_readToEnd (input : Bytes) : (ofInput input).readToEnd.isOpen = false := by
  obtain ⟨texts, htexts, -⟩ := existsUnique_sentLines input
  refine (isOpen_run_ofInput htexts _).mpr ?_
  rw [List.count_replicate_self]
  exact Nat.lt_succ_of_le htexts.length_le

/-- An input has one row of lines to be sent: those before the first that is no text. However the rounds of the reader
    and the receives of the superloop follow each other, each round sends the next of them, and the lines that the
    receives were answered with and then those that wait are, in order, the lines of the row that found fewer than 16
    waiting; 16 is the most that wait, so a line is missing only if 16 lines waited when it was sent. The reader ends in
    the round after the last line. A receive is answered with the line that waited longest; if none waits it times out,
    or is told that the line is closed once the reader has ended. Receives that take what waits bring that about, and if
    no line found 16 waiting, the superloop was handed the row by then. Nothing depends on input that comes after the
    lines that the rounds read. -/
theorem run_delivers_lines (input : Bytes) :
    (∃! texts, SentLines input texts) ∧ ∀ texts, SentLines input texts → ∀ events,
      let l := (ofInput input).run events
      let received := (ofInput input).received events
      let sent := (ofInput input).sends texts events
      sent.map (·.text) = texts.take (events.count .round) ∧
      received ++ l.queue = (sent.filter (·.waiting < 16)).map (·.text) ∧
      (received ++ l.queue).Sublist texts ∧
      (∀ s ∈ sent, s.waiting ≤ 16) ∧ l.queue.length ≤ 16 ∧
      (l.isOpen = false ↔ texts.length < events.count .round) ∧
      (∀ text, l.receive.1 = .line text ↔ l.queue.head? = some text) ∧
      (l.receive.1 = .timeout ↔ l.isOpen = true ∧ l.queue = []) ∧
      (l.receive.1 = .closed ↔ l.isOpen = false ∧ l.queue = []) ∧
      (l.isOpen = false → ∀ n, l.queue.length ≤ n →
        (l.run (List.replicate n .receive)).receive.1 = .closed ∧
        (ofInput input).received (events ++ List.replicate n .receive) = received ++ l.queue) ∧
      ((∀ s ∈ sent, s.waiting < 16) →
        received ++ l.queue = texts.take (events.count .round) ∧
        (l.isOpen = false → received ++ l.queue = texts) ∧ (l.receive.1 = .closed → received = texts)) ∧
      ∀ early late, input = early ++ late → events.count .round ≤ early.count 10 →
        l = ((ofInput early).run events).feed late ∧ received = (ofInput early).received events := by
  refine ⟨existsUnique_sentLines input, fun texts htexts events => ?_⟩
  intro l received sent
  have hexpects := expects_ofInput htexts
  have hsent : sent.map (·.text) = texts.take (events.count .round) := map_text_sends _ texts events
  have hdelivered : received ++ l.queue = (sent.filter (·.waiting < 16)).map (·.text) :=
    received_append_queue hexpects events
  have hended : l.isOpen = false ↔ texts.length < events.count .round := isOpen_run_ofInput htexts events
  refine ⟨hsent, hdelivered, ?_, fun s hs => waiting_le (Nat.zero_le _) hs, length_queue_run (Nat.zero_le _) events,
    hended, fun text => receive_eq_line_iff, receive_eq_timeout_iff, receive_eq_closed_iff, fun hclosed n hn => ?_,
    fun hroom => ?_, fun early late hinput hcount => ?_⟩
  · rw [hdelivered]
    refine (List.filter_sublist.map _).trans ?_
    rw [hsent]
    exact List.take_sublist _ _
  · obtain ⟨hreceived, hqueue, hsame⟩ := run_receives n l
    refine ⟨receive_eq_closed_iff.mpr ⟨hsame.trans hclosed, hqueue.trans (List.drop_eq_nil_of_le hn)⟩, ?_⟩
    rw [received_append, hreceived, List.take_of_length_le hn]
  · have hall : received ++ l.queue = texts.take (events.count .round) := by
      rw [hdelivered, List.filter_eq_self.mpr fun s hs => decide_eq_true (hroom s hs), hsent]
    have hwhole : l.isOpen = false → received ++ l.queue = texts := fun hclosed => by
      rw [hall, List.take_of_length_le (Nat.le_of_lt (hended.mp hclosed))]
    refine ⟨hall, hwhole, fun hclosed => ?_⟩
    obtain ⟨hopen, hempty⟩ := receive_eq_closed_iff.mp hclosed
    have hreceived := hwhole hopen
    rwa [hempty, List.append_nil] at hreceived
  · subst hinput
    obtain ⟨hrun, hanswers⟩ := run_feed (l := ofInput early) hcount late
    exact ⟨hrun, congrArg (List.filterMap Answer.line?) hanswers⟩

/-- Two lines, one that is no text, and one more. -/
theorem run_delivers_lines_broken :
    let input : Bytes := Utf8.encode "C\nN\n" ++ 0xFF :: Utf8.encode "\nS\n"
    let events : List Event := [.round, .receive, .receive, .round, .round, .receive, .receive]
    SentLines input ["C\n", "N\n"] ∧ (ofInput input).received events = ["C\n", "N\n"] ∧
      (ofInput input).answers events = [.line "C\n", .timeout, .line "N\n", .closed] := by
  intro input events
  have hnone : Utf8.decode? [0xFF, 10] = none := by decide +kernel
  have hlines : SentLines input ["C\n", "N\n"] := by
    refine ⟨[[0xFF, 10], Utf8.encode "S\n"], ?_, fun line h text htext => ?_⟩
    · have hC : 10 ∉ Utf8.encode "C" := by decide
      have hN : 10 ∉ Utf8.encode "N" := by decide
      have hbroken : 10 ∉ ([0xFF] : Bytes) := by decide
      have hS : 10 ∉ Utf8.encode "S" := by decide
      exact .cons (.ended hC) (.cons (.ended hN) (.cons (.ended hbroken) (.cons (.ended hS) rawLines_nil)))
    · cases h
      rw [Utf8.decode?_eq_some_iff.mpr htext] at hnone
      cases hnone
  obtain ⟨-, -, -, -, -, hended, -, -, hclosed, -, hall, -⟩ := (run_delivers_lines input).2 _ hlines events
  have hempty : ((ofInput input).run events).queue = [] := by decide +kernel
  have hreceived := (hall (by decide +kernel)).2.2 (hclosed.mpr ⟨hended.mpr (by decide), hempty⟩)
  exact ⟨hlines, hreceived, by decide +kernel⟩

end Line
end Serial
end FieldLogger
