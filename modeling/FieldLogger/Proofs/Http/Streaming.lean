import Mathlib.Data.Nat.Find
import FieldLogger.Proofs.Http.StatusLine

/-! A post does not depend on how its stream behaves (`exchange_law`). However the writes are cut, whatever the reads
    bring at a time and however often either has to wait: the peer has got the start of the request that was written,
    nothing is read before it has got the whole, and the first status that ends the post is said by the bytes of the
    response alone. -/

namespace FieldLogger.Http

/-! ### Streams that neither close nor fail -/

/-- The write takes something, or has to wait. -/
def Acceptance.flows : Acceptance → Bool
  | .taken _ | .blocked => true
  | .closed | .failed _ => false

/-- The read brings something, or has to wait. -/
def Arrival.flows : Arrival → Bool
  | .data _ | .blocked => true
  | .ended | .failed _ => false

/-- All that reads bring, one after the other. -/
def received : List Arrival → Bytes
  | .data bytes :: later => bytes ++ received later
  | _ :: later => received later
  | [] => []

/-- An exchange over a stream that began with those arrivals: how far the request is written is what the peer has got
    of it, and the response is read only once it has got the whole. What was read and what is still to come make the
    response, of which no complete line was read yet. -/
structure Underway (request : Bytes) (arrivals : List Arrival) (response : Bytes) (e : Exchange) (w : Wire) : Prop where
  request_eq : e.request = request
  sent_eq : w.sent = request.take e.written
  written_le : e.written ≤ request.length
  unread : e.written < request.length → e.response = [] ∧ w.arrivals = arrivals
  flowing : ∀ a ∈ w.acceptances, a.flows = true
  coming : ∃ before after, w.arrivals = before ++ .ended :: after ∧ (∀ a ∈ before, a.flows = true) ∧
    e.response ++ received before = response
  unanswered : status? e.response = none

variable {request response : Bytes} {arrivals : List Arrival} {e : Exchange} {w : Wire}

/-! ### Writing -/

theorem Underway.write (h : Underway request arrivals response e w) :
    let written := e.write w.sent w.acceptances
    Underway request arrivals response written.exchange ⟨written.sent, written.acceptances, w.arrivals⟩ := by
  obtain ⟨sent, acceptances, later⟩ := w
  induction acceptances generalizing e sent with
  | nil => exact h
  | cons a acceptances ih =>
    have hflowing : ∀ a ∈ acceptances, a.flows = true := fun a ha => h.flowing a (List.mem_cons_of_mem _ ha)
    unfold Exchange.write
    dsimp only
    split
    · rename_i hleft
      cases a with
      | taken most =>
        refine ih _ { h with flowing := hflowing, sent_eq := ?_, written_le := ?_, unread := ?_ }
        · have hsent : sent = request.take e.written := h.sent_eq
          dsimp only
          rw [hsent, h.request_eq, List.take_add]
        · have hle := h.written_le
          dsimp only
          rw [h.request_eq]
          omega
        · intro hless
          exact h.unread (Nat.lt_of_le_of_lt (Nat.le_add_right _ _) hless)
      | blocked => exact { h with flowing := hflowing }
      | closed => cases h.flowing _ List.mem_cons_self
      | failed reason => cases h.flowing _ List.mem_cons_self
    · exact h

theorem status?_write {acceptances : List Acceptance} (h : ∀ a ∈ acceptances, a.flows = true) (sent : Bytes) :
    (e.write sent acceptances).status? = some .inProgress ∨ (e.write sent acceptances).status? = none ∧
      (e.write sent acceptances).exchange.request.length ≤ (e.write sent acceptances).exchange.written := by
  induction acceptances generalizing e sent with
  | nil =>
    unfold Exchange.write
    split
    · exact .inl rfl
    · rename_i hleft
      exact .inr ⟨rfl, Nat.le_of_not_lt hleft⟩
  | cons a acceptances ih =>
    unfold Exchange.write
    split
    · cases a with
      | taken most => exact ih (fun a ha => h a (List.mem_cons_of_mem _ ha)) _
      | blocked => exact .inl rfl
      | closed => cases h _ List.mem_cons_self
      | failed reason => cases h _ List.mem_cons_self
    · rename_i hleft
      exact .inr ⟨rfl, Nat.le_of_not_lt hleft⟩

/-! ### Reading -/

/-- A read of the whole rest brings the verdict on the whole response. -/
theorem Underway.read (h : Underway request arrivals response e w) (hall : e.request.length ≤ e.written) :
    (e.read w.arrivals).1 = verdict response ∨
      (e.read w.arrivals).1 = .inProgress ∧
        Underway request arrivals response (e.read w.arrivals).2.1 ⟨w.sent, w.acceptances, (e.read w.arrivals).2.2⟩ ∧
        (e.read w.arrivals).2.2.length < w.arrivals.length := by
  obtain ⟨sent, acceptances, later⟩ := w
  obtain ⟨before, after, rfl, hflowing, hresponse⟩ := h.coming
  have hread : ¬e.written < request.length := by
    rw [← h.request_eq]
    exact Nat.not_lt.mpr hall
  induction before generalizing e with
  | nil =>
    rw [received, List.append_nil] at hresponse
    subst hresponse
    exact .inl rfl
  | cons a before ih =>
    have hlater : ∀ a ∈ before, a.flows = true := fun a ha => hflowing a (List.mem_cons_of_mem _ ha)
    cases a with
    | blocked =>
      exact .inr ⟨rfl, { h with
        unread := fun hless => absurd hless hread
        coming := ⟨before, after, rfl, hlater, hresponse⟩ }, Nat.lt_succ_self _⟩
    | ended => cases hflowing _ List.mem_cons_self
    | failed reason => cases hflowing _ List.mem_cons_self
    | data bytes =>
      rw [received, ← List.append_assoc] at hresponse
      rw [List.cons_append, Exchange.read]
      dsimp only
      split
      · rename_i answer hanswer
        refine .inl ?_
        rw [← hresponse]
        exact (verdict_of_status? (status?_append hanswer _)).symm
      · rename_i hnone
        have hunread : Underway request arrivals response { e with response := e.response ++ bytes }
            ⟨sent, acceptances, before ++ .ended :: after⟩ :=
          { h with
            unread := fun hless => absurd hless hread
            coming := ⟨before, after, rfl, hlater, hresponse⟩
            unanswered := hnone }
        have hnext := ih (e := { e with response := e.response ++ bytes }) hall hunread hlater hresponse hread
        exact hnext.imp_right fun ⟨hstatus, hunderway, hlength⟩ => ⟨hstatus, hunderway, Nat.lt_succ_of_lt hlength⟩

/-! ### Polls -/

/-- A poll that ends the post has sent the whole request, and the response alone says its status. -/
theorem Underway.poll (h : Underway request arrivals response e w) :
    (e.poll w).1 = .inProgress ∧ Underway request arrivals response (e.poll w).2.1 (e.poll w).2.2 ∨
      (e.poll w).1 = verdict response ∧ (e.poll w).2.2.sent = request := by
  have hwritten := h.write
  unfold Exchange.poll
  dsimp only at hwritten ⊢
  rcases status?_write (e := e) h.flowing w.sent with hstatus | ⟨hstatus, hall⟩
  · rw [hstatus]
    exact .inl ⟨rfl, hwritten⟩
  · rw [hstatus]
    rcases hwritten.read hall with hverdict | ⟨hprogress, hunderway, -⟩
    · refine .inr ⟨hverdict, ?_⟩
      have hsent := hwritten.sent_eq
      rw [hwritten.request_eq] at hall
      rwa [List.take_of_length_le hall] at hsent
    · exact .inl ⟨hprogress, hunderway⟩

/-! ### Progress -/

/-- The most bytes that writes take. -/
def room : List Acceptance → Nat
  | .taken most :: later => max most 1 + room later
  | _ :: later => room later
  | [] => 0

/-- What later polls can still use up of the stream. -/
def Wire.size (w : Wire) : Nat := w.acceptances.length + w.arrivals.length

/-- With room for what is left of the request, writing stops early only where it uses up a wait. -/
theorem room_write {acceptances : List Acceptance} (h : ∀ a ∈ acceptances, a.flows = true) (sent : Bytes)
    (hroom : e.request.length ≤ e.written + room acceptances) :
    let written := e.write sent acceptances
    written.exchange.request.length ≤ written.exchange.written + room written.acceptances ∧
      written.acceptances.length ≤ acceptances.length ∧
      (written.status? = some .inProgress → written.acceptances.length < acceptances.length) := by
  induction acceptances generalizing e sent with
  | nil =>
    unfold Exchange.write
    have hall : ¬e.written < e.request.length := Nat.not_lt.mpr hroom
    rw [if_neg hall]
    exact ⟨hroom, Nat.le_refl _, fun hstatus => by cases hstatus⟩
  | cons a acceptances ih =>
    have hlater : ∀ a ∈ acceptances, a.flows = true := fun a ha => h a (List.mem_cons_of_mem _ ha)
    unfold Exchange.write
    dsimp only
    split
    · rename_i hleft
      cases a with
      | taken most =>
        have hnext := ih (e := { e with written := e.written + min (max most 1) (e.request.length - e.written) }) hlater
          (sent ++ (e.request.drop e.written).take (min (max most 1) (e.request.length - e.written))) (by
            rw [room] at hroom
            dsimp only
            omega)
        exact ⟨hnext.1, Nat.le_succ_of_le hnext.2.1, fun hstatus => Nat.lt_succ_of_lt (hnext.2.2 hstatus)⟩
      | blocked => exact ⟨hroom, Nat.le_succ _, fun _ => Nat.lt_succ_self _⟩
      | closed => cases h _ List.mem_cons_self
      | failed reason => cases h _ List.mem_cons_self
    · exact ⟨hroom, Nat.le_refl _, fun hstatus => by cases hstatus⟩

theorem read_keeps (e : Exchange) (later : List Arrival) :
    (e.read later).2.1.request = e.request ∧ (e.read later).2.1.written = e.written := by
  induction later generalizing e with
  | nil => exact ⟨rfl, rfl⟩
  | cons a later ih =>
    cases a with
    | data bytes =>
      unfold Exchange.read
      dsimp only
      split
      · exact ⟨rfl, rfl⟩
      · exact ih _
    | _ => exact ⟨rfl, rfl⟩

/-- A poll that does not end the post uses up something of the stream. -/
theorem Underway.size_poll (h : Underway request arrivals response e w)
    (hroom : e.request.length ≤ e.written + room w.acceptances) (hprogress : (e.poll w).1 = .inProgress) :
    (e.poll w).2.1.request.length ≤ (e.poll w).2.1.written + room (e.poll w).2.2.acceptances ∧
      (e.poll w).2.2.size < w.size := by
  have hwritten := h.write
  obtain ⟨hleft, hle, hless⟩ := room_write h.flowing w.sent hroom
  unfold Exchange.poll at hprogress ⊢
  dsimp only at hwritten hprogress ⊢
  rcases status?_write (e := e) h.flowing w.sent with hstatus | ⟨hstatus, hall⟩
  · rw [hstatus]
    exact ⟨hleft, Nat.add_lt_add_right (hless hstatus) _⟩
  · rw [hstatus] at hprogress ⊢
    rcases hwritten.read hall with hverdict | ⟨-, -, hlength⟩
    · exact absurd (hverdict.symm.trans hprogress) (verdict_ne_inProgress response)
    · obtain ⟨hrequest, hcount⟩ := read_keeps (e.write w.sent w.acceptances).exchange w.arrivals
      dsimp only
      rw [hrequest, hcount]
      exact ⟨hleft, Nat.add_lt_add_of_le_of_lt hle hlength⟩

/-! ### Whole posts -/

namespace Transport

/-- A transport and its stream after a number of polls. -/
def polled (t : Transport) (w : Wire) : Nat → Transport × Wire
  | 0 => (t, w)
  | n + 1 => ((polled t w n).1.poll (polled t w n).2).2

/-- The status that the poll after so many others gives. -/
def statusAfter (t : Transport) (w : Wire) (n : Nat) : PostStatus := ((polled t w n).1.poll (polled t w n).2).1

/-- The exchange that the next poll goes on with. -/
def exchange? : Transport → Option Exchange
  | .connecting request (some .established) => some (.ofRequest request)
  | .exchanging e => some e
  | _ => none

theorem poll_of_exchange? {t : Transport} (h : t.exchange? = some e) (w : Wire) : t.poll w = pollExchange e w := by
  unfold exchange? at h
  split at h
  · obtain rfl := Option.some.inj h
    rfl
  · obtain rfl := Option.some.inj h
    rfl
  · cases h

variable {t : Transport}

theorem poll_fst (h : t.exchange? = some e) (w : Wire) : (t.poll w).1 = (e.poll w).1 := by
  rw [poll_of_exchange? h]
  rfl

theorem poll_wire (h : t.exchange? = some e) (w : Wire) : (t.poll w).2.2 = (e.poll w).2.2 := by
  rw [poll_of_exchange? h]
  rfl

theorem exchange?_poll (h : t.exchange? = some e) (hprogress : (e.poll w).1 = .inProgress) :
    (t.poll w).2.1.exchange? = some (e.poll w).2.1 := by
  rw [poll_of_exchange? h]
  unfold pollExchange keepWhile
  dsimp only
  rw [if_pos hprogress]
  rfl

theorem underway_polled (he : t.exchange? = some e) (h : Underway request arrivals response e w) {n : Nat}
    (hprogress : ∀ m < n, t.statusAfter w m = .inProgress) :
    ∃ e', (t.polled w n).1.exchange? = some e' ∧ Underway request arrivals response e' (t.polled w n).2 := by
  induction n with
  | zero => exact ⟨e, he, h⟩
  | succ n ih =>
    obtain ⟨e', he', hunderway⟩ := ih fun m hm => hprogress m (Nat.lt_succ_of_lt hm)
    have hlast := (poll_fst he' _).symm.trans (hprogress n (Nat.lt_succ_self n))
    rcases hunderway.poll with ⟨-, hnext⟩ | ⟨hverdict, -⟩
    · refine ⟨_, exchange?_poll he' hlast, ?_⟩
      rw [polled, poll_wire he']
      exact hnext
    · exact absurd (hverdict.symm.trans hlast) (verdict_ne_inProgress response)

/-- With room for the request, every poll in progress uses up something of the stream. -/
theorem size_polled (he : t.exchange? = some e) (h : Underway request arrivals response e w)
    (hroom : e.request.length ≤ e.written + room w.acceptances) {n : Nat}
    (hprogress : ∀ m < n, t.statusAfter w m = .inProgress) :
    (∀ e', (t.polled w n).1.exchange? = some e' →
      e'.request.length ≤ e'.written + room (t.polled w n).2.acceptances) ∧ (t.polled w n).2.size + n ≤ w.size := by
  induction n with
  | zero =>
    refine ⟨fun e' he' => ?_, Nat.le_refl _⟩
    obtain rfl := Option.some.inj (he.symm.trans he')
    exact hroom
  | succ n ih =>
    have hbefore : ∀ m < n, t.statusAfter w m = .inProgress := fun m hm => hprogress m (Nat.lt_succ_of_lt hm)
    obtain ⟨hroom', hsize⟩ := ih hbefore
    obtain ⟨e', he', hunderway⟩ := underway_polled he h hbefore
    have hlast := (poll_fst he' _).symm.trans (hprogress n (Nat.lt_succ_self n))
    obtain ⟨hnext, hless⟩ := hunderway.size_poll (hroom' e' he') hlast
    rw [polled, poll_wire he']
    refine ⟨fun e'' he'' => ?_, by omega⟩
    obtain rfl := Option.some.inj ((exchange?_poll he' hlast).symm.trans he'')
    exact hnext

theorem exists_answer (he : t.exchange? = some e) (h : Underway request arrivals response e w)
    (hroom : e.request.length ≤ e.written + room w.acceptances) :
    ∃ n, (∀ m < n, t.statusAfter w m = .inProgress) ∧ t.statusAfter w n ≠ .inProgress := by
  have hends : ∃ n, t.statusAfter w n ≠ .inProgress := by
    by_contra hnone
    have hall : ∀ m < w.size + 1, t.statusAfter w m = .inProgress := fun m _ => not_not.mp fun hm => hnone ⟨m, hm⟩
    have hsize := (size_polled he h hroom hall).2
    omega
  exact ⟨Nat.find hends, fun m hm => not_not.mp (Nat.find_min hends hm), Nat.find_spec hends⟩

/-- Over a stream that neither closes nor fails before its end, and whatever each write takes and each read brings:
    as long as no poll ended the post the peer has got what was written of the request, at the start of a poll and after
    each of its writes, and nothing was read before all of it was written. The poll that ends the post has sent all of
    it, and gives the status that the text before the first end of line of the whole response says; without an end of
    line the post fails. There is such a poll if the stream takes enough. -/
theorem exchange_law (request : Bytes) {acceptances : List Acceptance} {before : List Arrival} (after : List Arrival)
    (hwrites : ∀ a ∈ acceptances, a.flows = true) (hreads : ∀ a ∈ before, a.flows = true) :
    let t : Transport := .connecting request (some .established)
    let w : Wire := ⟨[], acceptances, before ++ .ended :: after⟩
    (∀ n, (∀ m < n, t.statusAfter w m = .inProgress) →
      ∃ e, (t.polled w n).1.exchange? = some e ∧ ∀ k,
        let written := e.write (t.polled w n).2.sent ((t.polled w n).2.acceptances.take k)
        written.sent = request.take written.exchange.written ∧ written.exchange.written ≤ request.length ∧
        (written.exchange.written < request.length →
          written.exchange.response = [] ∧ (t.polled w n).2.arrivals = w.arrivals)) ∧
    (∀ n, (∀ m < n, t.statusAfter w m = .inProgress) → t.statusAfter w n ≠ .inProgress →
      (t.polled w (n + 1)).2.sent = request ∧
      (∀ line rest, received before = line ++ 13 :: 10 :: rest → ¬[13, 10] <:+: line →
        t.statusAfter w n = PostAnswer.status (lineStatus line)) ∧
      (¬[13, 10] <:+: received before → t.statusAfter w n = .failed "Conexão fechada sem resposta")) ∧
    (request.length ≤ room acceptances →
      ∃ n, (∀ m < n, t.statusAfter w m = .inProgress) ∧ t.statusAfter w n ≠ .inProgress) := by
  intro t w
  have hstart : t.exchange? = some (.ofRequest request) := rfl
  have hunderway : Underway request w.arrivals (received before) (.ofRequest request) w :=
    { request_eq := rfl
      sent_eq := rfl
      written_le := Nat.zero_le _
      unread := fun _ => ⟨rfl, rfl⟩
      flowing := hwrites
      coming := ⟨before, after, rfl, hreads, rfl⟩
      unanswered := rfl }
  refine ⟨fun n hprogress => ?_, fun n hprogress hended => ?_, fun hroom => ?_⟩
  · obtain ⟨e, he, h⟩ := underway_polled hstart hunderway hprogress
    refine ⟨e, he, fun k => ?_⟩
    -- what the writes do up to some moment is what they do on a stream that takes no more than that
    have hcut : Underway request w.arrivals (received before) e
        ⟨(t.polled w n).2.sent, (t.polled w n).2.acceptances.take k, (t.polled w n).2.arrivals⟩ :=
      { h with flowing := fun a ha => h.flowing a (List.mem_of_mem_take ha) }
    exact ⟨hcut.write.sent_eq, hcut.write.written_le, hcut.write.unread⟩
  · obtain ⟨e, he, h⟩ := underway_polled hstart hunderway hprogress
    have hpoll : t.statusAfter w n = (e.poll (t.polled w n).2).1 := poll_fst he _
    rcases h.poll with ⟨hstatus, -⟩ | ⟨hstatus, hsent⟩
    · exact absurd (hpoll.trans hstatus) hended
    · rw [← poll_wire he] at hsent
      refine ⟨hsent, fun line rest hresponse hline => ?_, fun hnone => ?_⟩
      · rw [hpoll, hstatus, hresponse, verdict_of_first hline]
      · rw [hpoll, hstatus, verdict_of_none hnone]
  · refine exists_answer hstart hunderway ?_
    rw [Exchange.ofRequest, Nat.zero_add]
    exact hroom

/-- A status line that comes in four pieces, cut inside the code and between its last two bytes. -/
theorem exchange_law_in_pieces :
    let request : Bytes := [80, 79, 83, 84]
    let acceptances : List Acceptance := [.blocked, .taken 1, .blocked, .taken 9]
    let before : List Arrival :=
      [.data (Utf8.encode "HTTP/1.1 2"), .blocked, .data (Utf8.encode "04 No Content"), .data [13], .blocked,
        .data [10]]
    let t : Transport := .connecting request (some .established)
    let w : Wire := ⟨[], acceptances, before ++ [.ended]⟩
    (acceptances.all Acceptance.flows && before.all Arrival.flows) = true ∧
      (∃ n, (∀ m < n, t.statusAfter w m = .inProgress) ∧ t.statusAfter w n = .completed 204) := by
  intro request acceptances before t w
  have hwrites : ∀ a ∈ acceptances, a.flows = true := List.all_eq_true.mp (by decide)
  have hreads : ∀ a ∈ before, a.flows = true := List.all_eq_true.mp (by decide)
  obtain ⟨-, hend, hexists⟩ := exchange_law request [] hwrites hreads
  obtain ⟨n, hprogress, hended⟩ := hexists (by decide)
  have hline : ¬[13, 10] <:+: Utf8.encode "HTTP/1.1 204 No Content" := fun h =>
    absurd (h.subset (List.mem_cons_of_mem 13 List.mem_cons_self)) (by decide +kernel)
  have hstatus := (hend n hprogress hended).2.1 (Utf8.encode "HTTP/1.1 204 No Content") [] (by decide +kernel) hline
  exact ⟨by decide, n, hprogress, hstatus.trans (by decide +kernel)⟩

end Transport
end FieldLogger.Http
