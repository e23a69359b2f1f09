import FieldLogger.Uplink

/-! A post that is rehearsed. Waiting goes down the waits of the course (`await`), and a post ends in one of three
    ways (`post_cases`): there was nothing to send, it was refused, or it was started and waited for. -/

namespace FieldLogger

/-- How waiting for an answer ended. -/
structure Waited (σ : Type) where
  result : Except NetworkError Unit
  polls : Nat
  aborted : Bool
  ticks : σ

namespace Uplink

/-- The client after a post of a record. -/
def settled (u : Uplink) (record : String) (result : Except NetworkError Unit) : Uplink :=
  { u with slot := .empty }.conclude record result

theorem slot_settled (u : Uplink) (record : String) (result : Except NetworkError Unit) :
    (u.settled record result).slot = .empty := by
  cases result <;> rfl

theorem timeout_settled (u : Uplink) (record : String) (result : Except NetworkError Unit) :
    (u.settled record result).timeout = u.timeout := by
  cases result <;> rfl

variable {σ : Type} [TickSource σ] {u : Uplink} {record : String}

/-- Waiting on a course, one poll for each of its waits and one for its answer. -/
def await (started deadline : UInt64) (lastWait : Nat) (answer : PostAnswer) : List Nat → σ → Waited σ
  | [], ticks => ⟨answer.result, 1, false, TickSource.elapse lastWait ticks⟩
  | wait :: waits, ticks =>
    let (now, ticks) := TickSource.read (TickSource.elapse wait ticks)
    if deadline ≤ now then ⟨.error (.timeout (now - started)), 1, true, ticks⟩
    else
      let waited := await started deadline lastWait answer waits ticks
      { waited with polls := waited.polls + 1 }

theorem run_awaitOn_link (course : Course) (started deadline : UInt64) (waits : List Nat) (traffic : Traffic)
    (ticks : σ) :
    let waited := await started deadline course.lastWait course.answer waits ticks
    ∃ left, (awaitOn (Attempt.started course).link started deadline (waits.length + 1)).run ⟨waits, traffic, ticks⟩ =
      (some waited.result, ⟨left, { traffic with
        polls := traffic.polls + waited.polls, aborts := traffic.aborts + waited.aborted.toNat }, waited.ticks⟩) := by
  induction waits generalizing traffic ticks with
  | nil =>
    refine ⟨[], ?_⟩
    obtain ⟨_, _, answer⟩ := course
    rw [run_awaitOn]
    cases answer <;> rfl
  | cons wait waits ih =>
    rw [List.length_cons, run_awaitOn]
    unfold await
    dsimp only [Attempt.link, StateT.run]
    split
    · exact ⟨waits, rfl⟩
    · obtain ⟨left, hrun⟩ := ih { traffic with polls := traffic.polls + 1 }
        (TickSource.read (TickSource.elapse wait ticks)).2
      refine ⟨left, hrun.trans ?_⟩
      dsimp only
      rw [Nat.add_assoc, Nat.add_comm 1]

theorem post_of_rehearse {attempt : Attempt} {ticks : σ} {result : Except NetworkError Unit} {v : Uplink}
    {r : Rehearsal σ} (h : u.rehearse attempt ticks = (some (result, v), r)) :
    u.post attempt ticks = ⟨result, v, r.traffic, r.ticks⟩ := by
  simp only [post, h, Option.get_some]

theorem post_of_empty (h : u.slot.pending = none) (attempt : Attempt) (ticks : σ) :
    u.post attempt ticks = ⟨.error .noData, u, .none, ticks⟩ := by
  have hrun : u.rehearse attempt ticks = (some (.error .noData, u), ⟨attempt.waits, .none, ticks⟩) := by
    unfold rehearse
    rw [run_postOn, h]
  exact post_of_rehearse hrun

theorem post_of_refused (h : u.slot.pending = some record) (e : NetworkError) (ticks : σ) :
    u.post (.refused e) ticks =
      ⟨.error e, { u with slot := .empty }, ⟨[⟨u.url, record, false⟩], 0, 0⟩, ticks⟩ := by
  have hrun : u.rehearse (.refused e) ticks =
      (some (.error e, { u with slot := .empty }), ⟨[], ⟨[⟨u.url, record, false⟩], 0, 0⟩, ticks⟩) := by
    unfold rehearse
    rw [run_postOn, h]
    rfl
  exact post_of_rehearse hrun

theorem post_of_started (h : u.slot.pending = some record) (course : Course) (ticks : σ) :
    let started := (TickSource.read ticks).1
    let waited := await started (addSaturating started u.timeout) course.lastWait course.answer course.waits
      (TickSource.read ticks).2
    u.post (.started course) ticks = ⟨waited.result, u.settled record waited.result,
      ⟨[⟨u.url, record, true⟩], waited.polls, waited.aborted.toNat⟩, waited.ticks⟩ := by
  intro started waited
  obtain ⟨left, hwaited⟩ := run_awaitOn_link course started (addSaturating started u.timeout) course.waits
    ⟨[⟨u.url, record, true⟩], 0, 0⟩ (TickSource.read ticks).2
  have hrun : u.rehearse (.started course) ticks = (some (waited.result, u.settled record waited.result),
      ⟨left, ⟨[⟨u.url, record, true⟩], 0 + waited.polls, 0 + waited.aborted.toNat⟩, waited.ticks⟩) := by
    unfold rehearse
    rw [run_postOn, h]
    change Prod.map (Option.map fun result => (result, u.settled record result)) id
      ((awaitOn (Attempt.started course).link started (addSaturating started u.timeout) (course.waits.length + 1)).run
        ⟨course.waits, ⟨[⟨u.url, record, true⟩], 0, 0⟩, (TickSource.read ticks).2⟩) = _
    rw [hwaited]
    rfl
  rw [post_of_rehearse hrun, Nat.zero_add, Nat.zero_add]

/-- How a post ends. -/
theorem post_cases {P : Posted σ → Prop} {attempt : Attempt} {ticks : σ}
    (empty : u.slot.pending = none → P ⟨.error .noData, u, .none, ticks⟩)
    (refused : ∀ record e, u.slot.pending = some record → attempt = .refused e →
      P ⟨.error e, { u with slot := .empty }, ⟨[⟨u.url, record, false⟩], 0, 0⟩, ticks⟩)
    (started : ∀ record course, u.slot.pending = some record → attempt = .started course →
      let started := (TickSource.read ticks).1
      let waited := await started (addSaturating started u.timeout) course.lastWait course.answer course.waits
        (TickSource.read ticks).2
      P ⟨waited.result, u.settled record waited.result,
        ⟨[⟨u.url, record, true⟩], waited.polls, waited.aborted.toNat⟩, waited.ticks⟩) :
    P (u.post attempt ticks) := by
  cases hpending : u.slot.pending with
  | none =>
    rw [post_of_empty hpending]
    exact empty hpending
  | some record =>
    cases attempt with
    | refused e =>
      rw [post_of_refused hpending]
      exact refused record e hpending rfl
    | started course =>
      rw [post_of_started hpending]
      exact started record course hpending rfl

end Uplink
end FieldLogger
