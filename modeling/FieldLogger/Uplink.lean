import FieldLogger.Pipeline
import FieldLogger.Scheduler

/-!
The observer that sends measurements to a server. A post is started once and then polled until it is answered or
the deadline passes, which is counted in ticks. The record is taken from its slot first, so it is sent at most
once. The client is written for any transport and any counter (`Link`). A station rehearses it on an attempt that
is given beforehand: the post is refused, or it is polled so often before its answer.
-/

namespace FieldLogger

/-- Why a record was not sent. -/
inductive NetworkError where
  | noData
  | invalidUrl (url : String)
  | connect (reason : String)
  | io (reason : String)
  | status (code : UInt16)
  | timeout (ticks : UInt64)
  deriving DecidableEq, Repr

def NetworkError.message : NetworkError → String
  | .noData => "Nenhum registro disponível para envio"
  | .invalidUrl url => "URL inválida: " ++ url
  | .connect reason => "Falha de conexão: " ++ reason
  | .io reason => "Erro de E/S: " ++ reason
  | .status code => s!"Servidor respondeu {code.toNat}"
  | .timeout ticks => s!"Timeout após {ticks.toNat} ticks"

/-- Where a post stands. -/
inductive PostStatus where
  | inProgress
  | completed (code : UInt16)
  | failed (reason : String)
  deriving DecidableEq, Repr

/-! ### How a post goes -/

/-- What ends a post. -/
inductive PostAnswer where
  | completed (code : UInt16)
  | failed (reason : String)
  deriving DecidableEq, Repr

/-- What the answer means for the record: codes from 200 to 299 accept it. -/
def PostAnswer.result : PostAnswer → Except NetworkError Unit
  | .completed code => if 200 ≤ code ∧ code < 300 then .ok () else .error (.status code)
  | .failed reason => .error (.connect reason)

/-- The status that an answer gives a post. -/
def PostAnswer.status : PostAnswer → PostStatus
  | .completed code => .completed code
  | .failed reason => .failed reason

/-- A post that was started: the ticks that pass in each poll without an answer, and those in the poll that
brings the answer. -/
structure Course where
  waits : List Nat
  lastWait : Nat
  answer : PostAnswer
  deriving DecidableEq, Repr

/-- How an attempt to post goes. -/
inductive Attempt where
  | refused (e : NetworkError)
  | started (course : Course)
  deriving DecidableEq, Repr

/-- A call that starts a post: where to, what, and whether the transport took it. -/
structure Start where
  url : String
  body : String
  taken : Bool
  deriving DecidableEq, Repr

/-- The address and the body of a post. -/
def Start.post (s : Start) : String × String := (s.url, s.body)

/-- What was asked of the transport. -/
structure Traffic where
  starts : List Start
  polls : Nat
  aborts : Nat
  deriving DecidableEq, Repr

namespace Traffic

def none : Traffic := ⟨[], 0, 0⟩

/-- The traffic of two stretches, one after the other. -/
def append (a b : Traffic) : Traffic := ⟨a.starts ++ b.starts, a.polls + b.polls, a.aborts + b.aborts⟩

/-- Addresses and bodies of the posts that were started. -/
def posts (t : Traffic) : List (String × String) := (t.starts.filter (·.taken)).map Start.post

end Traffic

/-! ### Ticks -/

/-- A tick counter that can be read. -/
class TickSource (σ : Type) where
  /-- The count, and the source after it was read. -/
  read : σ → UInt64 × σ
  /-- The source after a poll in which so many ticks passed. -/
  elapse : Nat → σ → σ

instance : TickSource Scheduler := ⟨fun s => (s.ticks, s), Scheduler.advance⟩

/-- A counter that goes up by the same step whenever it is read, and stops at its end. -/
structure SteppingTicks where
  next : UInt64
  step : UInt64
  deriving DecidableEq, Repr

/-- The sum, or the largest word if that is exceeded. -/
def addSaturating (a b : UInt64) : UInt64 := if a + b < a then 0xFFFFFFFFFFFFFFFF else a + b

instance : TickSource SteppingTicks where
  read s := (s.next, { s with next := addSaturating s.next s.step })
  elapse _ s := s

/-! ### The client -/

/-- A server, the ticks to wait for it, the record that waits and the last one that was accepted. -/
structure Uplink where
  url : String
  timeout : UInt64
  slot : Slot
  lastSent : Option String
  deriving DecidableEq, Repr

/-- What the client works with, as actions of a monad. -/
structure Link (m : Type → Type) where
  start : String → String → m (Except NetworkError Unit)
  poll : m PostStatus
  abort : m Unit
  /-- Reads the counter. -/
  ticks : m UInt64
  /-- Lets a moment pass. -/
  pause : m Unit

namespace Uplink

/-- A client that has sent nothing. -/
def ofUrl (url : String) (timeout : UInt64) : Uplink := ⟨url, timeout, .empty, none⟩

section
variable {m : Type → Type} [Monad m]

/-- Polls until the answer comes or the counter, read after a poll without one, has reached the deadline; without a
result if that takes more polls than these. -/
def awaitOn (link : Link m) (started deadline : UInt64) : Nat → m (Option (Except NetworkError Unit))
  | 0 => return none
  | polls + 1 => do
    match ← link.poll with
    | .completed code => return some (PostAnswer.completed code).result
    | .failed reason => return some (PostAnswer.failed reason).result
    | .inProgress =>
      let now ← link.ticks
      if deadline ≤ now then
        link.abort
        return some (.error (.timeout (now - started)))
      else
        link.pause
        awaitOn link started deadline polls

/-- The client that knows how the post of a record ended. -/
def conclude (u : Uplink) (record : String) : Except NetworkError Unit → Uplink
  | .ok () => { u with lastSent := some record }
  | .error _ => u

/-- Posts the record that waits, with at most so many polls. -/
def postOn (u : Uplink) (link : Link m) (polls : Nat) : m (Option (Except NetworkError Unit × Uplink)) :=
  match u.slot.take with
  | (none, _) => return some (.error .noData, u)
  | (some record, slot) => do
    let u := { u with slot }
    match ← link.start u.url record with
    | .error e => return some (.error e, u)
    | .ok () =>
      let started ← link.ticks
      let result? ← awaitOn link started (addSaturating started u.timeout) polls
      return result?.map fun result => (result, u.conclude record result)

end

section
variable {ρ : Type} (link : Link (StateM ρ))

theorem run_awaitOn (started deadline : UInt64) (polls : Nat) (s : ρ) :
    (awaitOn link started deadline (polls + 1)).run s =
      match link.poll.run s with
      | (.completed code, s) => (some (PostAnswer.completed code).result, s)
      | (.failed reason, s) => (some (PostAnswer.failed reason).result, s)
      | (.inProgress, s) =>
        let (now, s) := link.ticks.run s
        if deadline ≤ now then (some (.error (.timeout (now - started))), (link.abort.run s).2)
        else (awaitOn link started deadline polls).run (link.pause.run s).2 := by
  change StateT.run (link.poll >>= _) s = _
  rw [StateT.run_bind]
  cases link.poll.run s with
  | mk status s =>
    cases status with
    | completed code => rfl
    | failed reason => rfl
    | inProgress =>
      change StateT.run (if deadline ≤ (link.ticks.run s).1 then _ else _) (link.ticks.run s).2 =
        if deadline ≤ (link.ticks.run s).1 then _ else _
      split <;> rfl

theorem run_postOn (u : Uplink) (polls : Nat) (s : ρ) :
    (u.postOn link polls).run s =
      match u.slot.pending with
      | none => (some (.error .noData, u), s)
      | some record =>
        let u := { u with slot := .empty }
        match (link.start u.url record).run s with
        | (.error e, s) => (some (.error e, u), s)
        | (.ok (), s) =>
          let (started, s) := link.ticks.run s
          let (result?, s) := (awaitOn link started (addSaturating started u.timeout) polls).run s
          (result?.map fun result => (result, u.conclude record result), s) := by
  unfold postOn Slot.take
  cases u.slot.pending with
  | none => rfl
  | some record =>
    dsimp only
    rw [StateT.run_bind]
    cases (link.start u.url record).run s with
    | mk started s => cases started <;> rfl

end
end Uplink

/-! ### Rehearsals -/

/-- An attempt under way: the waits that are left, what was asked of the transport, and the counter. -/
structure Rehearsal (σ : Type) where
  waits : List Nat
  traffic : Traffic
  ticks : σ

namespace Attempt
variable {σ : Type} [TickSource σ]

def start : Attempt → Except NetworkError Unit
  | .refused e => .error e
  | .started _ => .ok ()

def waits : Attempt → List Nat
  | .refused _ => []
  | .started course => course.waits

/-- The ticks that pass in the poll after the waits, and its status. -/
def last : Attempt → Nat × PostStatus
  | .refused _ => (0, .failed "Nenhum envio em andamento")
  | .started course => (course.lastWait, course.answer.status)

/-- The transport and the counter on an attempt. -/
def link (a : Attempt) : Link (StateM (Rehearsal σ)) where
  start url body r :=
    (a.start, { r with traffic := { r.traffic with starts := r.traffic.starts ++ [⟨url, body, a.start.isOk⟩] } })
  poll r :=
    let traffic := { r.traffic with polls := r.traffic.polls + 1 }
    match r.waits with
    | [] => (a.last.2, { r with traffic, ticks := TickSource.elapse a.last.1 r.ticks })
    | wait :: waits => (.inProgress, ⟨waits, traffic, TickSource.elapse wait r.ticks⟩)
  abort r := ((), { r with traffic := { r.traffic with aborts := r.traffic.aborts + 1 } })
  ticks r :=
    let (now, ticks) := TickSource.read r.ticks
    (now, { r with ticks })
  pause := pure ()

end Attempt

/-- How posting ended. -/
structure Posted (σ : Type) where
  result : Except NetworkError Unit
  uplink : Uplink
  traffic : Traffic
  ticks : σ

namespace Uplink
variable {σ : Type} [TickSource σ]

/-- The rehearsal of a post. -/
def rehearse (u : Uplink) (attempt : Attempt) (ticks : σ) :
    Option (Except NetworkError Unit × Uplink) × Rehearsal σ :=
  (u.postOn attempt.link (attempt.waits.length + 1)).run ⟨attempt.waits, .none, ticks⟩

/-- The poll after the waits ends the post, if none before it does. -/
theorem isSome_awaitOn (course : Course) (started deadline : UInt64) (r : Rehearsal σ) :
    ((awaitOn (Attempt.started course).link started deadline (r.waits.length + 1)).run r).1.isSome = true := by
  obtain ⟨waits, traffic, ticks⟩ := r
  induction waits generalizing traffic ticks with
  | nil =>
    obtain ⟨_, _, answer⟩ := course
    rw [run_awaitOn]
    cases answer <;> rfl
  | cons wait waits ih =>
    rw [run_awaitOn]
    dsimp only [Attempt.link, StateT.run]
    split
    · rfl
    · exact ih _ _

theorem isSome_rehearse (u : Uplink) (attempt : Attempt) (ticks : σ) :
    (u.rehearse attempt ticks).1.isSome = true := by
  unfold rehearse
  rw [run_postOn]
  cases u.slot.pending with
  | none => rfl
  | some record =>
    cases attempt with
    | refused e => rfl
    | started course =>
      have hsome := isSome_awaitOn course (TickSource.read ticks).1
        (addSaturating (TickSource.read ticks).1 u.timeout)
        ⟨course.waits, ⟨[⟨u.url, record, true⟩], 0, 0⟩, (TickSource.read ticks).2⟩
      exact (Option.isSome_map ..).trans hsome

def post (u : Uplink) (attempt : Attempt) (ticks : σ) : Posted σ :=
  let run := u.rehearse attempt ticks
  let (result, uplink) := run.1.get (isSome_rehearse u attempt ticks)
  ⟨result, uplink, run.2.traffic, run.2.ticks⟩

end Uplink
end FieldLogger
