import FieldLogger.Proofs.Uplink.Course
import FieldLogger.Proofs.Uplink.Waiting

/-! How posting a record ends, whatever the transport answers and whatever the ticks read (`outcome_law`). On a course
    that is given beforehand the client does what `Uplink.post` does (`postIn_ofAttempt`). -/

namespace FieldLogger
namespace Surroundings

variable {s : Surroundings} {started deadline : UInt64} {k : Nat}

/-! ### A course given beforehand -/

variable {σ : Type} [TickSource σ]

/-- What the reading after each poll without an answer gives. -/
def courseReading : List Nat → σ → Nat → UInt64
  | [], _, _ => 0
  | wait :: _, ticks, 0 => (TickSource.read (TickSource.elapse wait ticks)).1
  | wait :: waits, ticks, k + 1 => courseReading waits (TickSource.read (TickSource.elapse wait ticks)).2 k

/-- The transport and the ticks of an attempt. -/
def ofAttempt (attempt : Attempt) (ticks : σ) : Surroundings :=
  match attempt with
  | .refused e => ⟨fun _ _ => .error e, fun _ => .inProgress, fun _ => 0⟩
  | .started course =>
    { start := fun _ _ => .ok ()
      answers := fun k =>
        if k < course.waits.length then .inProgress else PostAnswer.status course.answer
      readings := fun
        | 0 => (TickSource.read ticks).1
        | k + 1 => courseReading course.waits (TickSource.read ticks).2 k }

theorem await_eq_await (started deadline : UInt64) (lastWait : Nat) (ticks : σ) {answer : PostAnswer} {waits : List Nat}
    (hanswers : ∀ j, s.answers (k + j) = if j < waits.length then .inProgress else PostAnswer.status answer)
    (hreadings : ∀ j, s.readings (k + j + 1) = courseReading waits ticks j) :
    let waited := Uplink.await started deadline lastWait answer waits ticks
    s.await started deadline k (waits.length + 1) =
      some (waited.result, List.replicate waited.polls .poll ++ if waited.aborted then [.abort] else []) := by
  induction waits generalizing k ticks with
  | nil =>
    have hanswer : s.answers k = PostAnswer.status answer := hanswers 0
    rw [await, hanswer]
    cases answer <;> rfl
  | cons wait waits ih =>
    have hanswer : s.answers k = .inProgress := hanswers 0
    have hreading : s.readings (k + 1) = (TickSource.read (TickSource.elapse wait ticks)).1 := hreadings 0
    unfold Uplink.await
    dsimp only
    by_cases hlate : deadline ≤ (TickSource.read (TickSource.elapse wait ticks)).1
    · rw [if_pos hlate, await, hanswer]
      dsimp only
      rw [hreading, if_pos hlate]
      rfl
    · have hanswers' : ∀ j, s.answers (k + 1 + j) =
          if j < waits.length then .inProgress else PostAnswer.status answer := by
        intro j
        have hj := hanswers (j + 1)
        rw [List.length_cons, ← Nat.add_assoc, Nat.add_right_comm] at hj
        simpa only [Nat.add_lt_add_iff_right] using hj
      have hreadings' : ∀ j, s.readings (k + 1 + j + 1) =
          courseReading waits (TickSource.read (TickSource.elapse wait ticks)).2 j := by
        intro j
        have hj := hreadings (j + 1)
        rwa [← Nat.add_assoc, Nat.add_right_comm k j 1] at hj
      have hnext := ih (TickSource.read (TickSource.elapse wait ticks)).2 hanswers' hreadings'
      have hwaits : s.Waits deadline k := ⟨hanswer, by rw [hreading]; exact UInt64.not_le.mp hlate⟩
      rw [if_neg hlate, List.length_cons, await_of_waits hwaits, hnext]
      rfl

end Surroundings

namespace Uplink

variable {u : Uplink} {s : Surroundings} {record : String} {polls : Nat}

theorem postIn_of_empty (h : u.slot.pending = none) (s : Surroundings) (polls : Nat) :
    u.postIn s polls = some ⟨.error .noData, u, []⟩ := by
  unfold postIn
  rw [run_postOn, h]
  rfl

theorem postIn_of_refused (h : u.slot.pending = some record) {e : NetworkError}
    (hstart : s.start u.url record = .error e) (polls : Nat) :
    u.postIn s polls = some ⟨.error e, { u with slot := .empty }, [.start u.url record]⟩ := by
  unfold postIn
  rw [run_postOn, h]
  dsimp only [Surroundings.link, StateT.run]
  rw [hstart]
  rfl

theorem postIn_of_started (h : u.slot.pending = some record) (hstart : s.start u.url record = .ok ()) (polls : Nat) :
    u.postIn s polls = (s.await (s.readings 0) (addSaturating (s.readings 0) u.timeout) 0 polls).map fun r =>
      ⟨r.1, u.settled record r.1, .start u.url record :: r.2⟩ := by
  have hwaited := congrArg (Option.map fun r => (⟨r.1, u.settled record r.1, r.2⟩ : Outcome))
    (s.run_awaitOn (s.readings 0) (addSaturating (s.readings 0) u.timeout) 0 polls [.start u.url record])
  rw [Option.map_map, Option.map_map] at hwaited
  refine Eq.trans ?_ hwaited
  unfold postIn
  rw [run_postOn, h]
  dsimp only [Surroundings.link, StateT.run]
  rw [hstart]
  exact Option.map_map ..

theorem calls_of_post (url body : String) (polls : Nat) (aborted : Bool) :
    let calls := Call.start url body :: (List.replicate polls .poll ++ if aborted then [.abort] else [])
    calls.count .poll = polls ∧ calls.count .abort = aborted.toNat ∧ calls.filterMap Call.post? = [(url, body)] := by
  cases aborted <;> simp [List.count_append, List.count_replicate, Call.post?]

/-- A post on a course given beforehand is the post among the transport and the ticks of that course. -/
theorem postIn_ofAttempt {σ : Type} [TickSource σ] (u : Uplink) (attempt : Attempt) (ticks : σ) :
    ∃ polls o, u.postIn (.ofAttempt attempt ticks) polls = some o ∧ o.result = (u.post attempt ticks).result ∧
      o.uplink = (u.post attempt ticks).uplink ∧ o.calls.count .poll = (u.post attempt ticks).traffic.polls ∧
      o.calls.count .abort = (u.post attempt ticks).traffic.aborts ∧
      o.calls.filterMap Call.post? = (u.post attempt ticks).traffic.starts.map Start.post ∧
      ∀ course, attempt = .started course → o.calls.filterMap Call.post? = (u.post attempt ticks).traffic.posts := by
  cases hpending : u.slot.pending with
  | none =>
    rw [post_of_empty hpending]
    exact ⟨0, _, postIn_of_empty hpending _ 0, rfl, rfl, rfl, rfl, rfl, fun _ _ => rfl⟩
  | some record =>
    cases attempt with
    | refused e =>
      rw [post_of_refused hpending]
      exact ⟨0, _, postIn_of_refused hpending rfl 0, rfl, rfl, rfl, rfl, rfl, fun _ h => by cases h⟩
    | started course =>
      have hpost := postIn_of_started (s := .ofAttempt (.started course) ticks) hpending rfl (course.waits.length + 1)
      rw [Surroundings.await_eq_await _ _ course.lastWait (TickSource.read ticks).2
        (fun j => by rw [Nat.zero_add]; rfl) fun j => by rw [Nat.zero_add]; rfl] at hpost
      rw [post_of_started hpending]
      obtain ⟨hpolls, haborts, hposts⟩ := calls_of_post u.url record _ _
      exact ⟨_, _, hpost, rfl, rfl, hpolls, haborts, hposts, fun _ _ => hposts⟩

/-! ### The law of outcomes -/

/-- The tick at which a post that starts now is given up. -/
def deadline (u : Uplink) (s : Surroundings) : Nat := min ((s.readings 0).toNat + u.timeout.toNat) (UInt64.size - 1)

/-- The poll brings no answer, and the deadline has not come after it. -/
def Waits (u : Uplink) (s : Surroundings) (k : Nat) : Prop :=
  s.answers k = .inProgress ∧ (s.readings (k + 1)).toNat < u.deadline s

theorem waits_iff {k : Nat} : u.Waits s k ↔ s.Waits (addSaturating (s.readings 0) u.timeout) k := by
  rw [Waits, Surroundings.Waits, UInt64.lt_iff_toNat_lt, toNat_addSaturating]
  rfl

section
variable (hpending : u.slot.pending = some record)
include hpending

/-- However a post ends, it was started once and its record left the slot. -/
theorem postIn_settled {o : Outcome} (ho : u.postIn s polls = some o) :
    (∃ calls, o.calls = .start u.url record :: calls ∧ calls.filterMap Call.post? = []) ∧
      o.uplink = u.settled record o.result := by
  cases hstart : s.start u.url record with
  | error e =>
    obtain rfl := Option.some.inj ((postIn_of_refused hpending hstart polls).symm.trans ho)
    exact ⟨⟨[], rfl, rfl⟩, rfl⟩
  | ok _ =>
    rw [postIn_of_started hpending hstart] at ho
    obtain ⟨r, hr, rfl⟩ := Option.map_eq_some_iff.mp ho
    obtain ⟨n, hwait, hend⟩ := Surroundings.exists_first (Surroundings.exists_of_await hr)
    rcases Nat.lt_or_ge n polls with hpolls | hpolls
    · obtain ⟨r', hr', -, hposts⟩ := Surroundings.await_ends hwait hend (s.readings 0) hpolls
      obtain rfl := Option.some.inj (hr.symm.trans hr')
      exact ⟨⟨_, rfl, hposts⟩, rfl⟩
    · rw [Surroundings.await_of_few hwait hpolls] at hr
      cases hr

variable (hstart : s.start u.url record = .ok ())
include hstart

theorem postIn_of_few {k : Nat} (hwait : ∀ j < k, u.Waits s j) (hpolls : polls ≤ k) : u.postIn s polls = none := by
  rw [postIn_of_started hpending hstart, Surroundings.await_of_few (fun j hj => waits_iff.mp (hwait j hj)) hpolls]
  rfl

theorem postIn_of_answer {k : Nat} (hwait : ∀ j < k, u.Waits s j) (answer : PostAnswer)
    (hanswer : s.answers k = PostAnswer.status answer) (hpolls : k < polls) :
    ∃ v, u.postIn s polls = some ⟨answer.result, v, .start u.url record :: List.replicate (k + 1) .poll⟩ := by
  rw [postIn_of_started hpending hstart,
    Surroundings.await_of_answer (fun j hj => waits_iff.mp (hwait j hj)) answer hanswer hpolls]
  exact ⟨_, rfl⟩

theorem postIn_of_late {k : Nat} (hwait : ∀ j < k, u.Waits s j) (hanswer : s.answers k = .inProgress)
    (hlate : u.deadline s ≤ (s.readings (k + 1)).toNat) (hpolls : k < polls) :
    ∃ v, u.postIn s polls = some ⟨.error (.timeout (s.readings (k + 1) - s.readings 0)), v,
      .start u.url record :: (List.replicate (k + 1) .poll ++ [.abort])⟩ := by
  have hlate' : addSaturating (s.readings 0) u.timeout ≤ s.readings (k + 1) := by
    rw [UInt64.le_iff_toNat_le, toNat_addSaturating]
    exact hlate
  rw [postIn_of_started hpending hstart,
    Surroundings.await_of_late (fun j hj => waits_iff.mp (hwait j hj)) hanswer hlate' hpolls]
  exact ⟨_, rfl⟩

theorem exists_postIn_iff : (∃ polls o, u.postIn s polls = some o) ↔ ∃ k, ¬u.Waits s k := by
  constructor
  · rintro ⟨polls, o, ho⟩
    rw [postIn_of_started hpending hstart] at ho
    obtain ⟨r, hr, -⟩ := Option.map_eq_some_iff.mp ho
    obtain ⟨k, hend⟩ := Surroundings.exists_of_await hr
    exact ⟨k, fun hk => hend (waits_iff.mp hk)⟩
  · rintro ⟨k, hend⟩
    obtain ⟨n, hwait, hend⟩ := Surroundings.exists_first ⟨k, fun hk => hend (waits_iff.mpr hk)⟩
    obtain ⟨r, hr, -⟩ := Surroundings.await_ends hwait hend (s.readings 0) (Nat.lt_succ_self n)
    have hsome := postIn_of_started hpending hstart (n + 1)
    rw [hr] at hsome
    exact ⟨n + 1, _, hsome⟩

theorem postIn_of_growing (hgrowing : s.Growing) :
    let most := max 1 (u.deadline s - (s.readings 0).toNat)
    ∃ o, u.postIn s most = some o ∧ o.calls.count .poll ≤ most := by
  obtain ⟨n, hwait, hend, hle⟩ := hgrowing.exists_first (addSaturating (s.readings 0) u.timeout)
  rw [toNat_addSaturating] at hle
  obtain ⟨r, hr, hpolls, -⟩ := Surroundings.await_ends hwait hend (s.readings 0) hle
  intro most
  rw [postIn_of_started hpending hstart]
  refine ⟨_, Option.map_eq_some_iff.mpr ⟨r, hr, rfl⟩, ?_⟩
  rw [List.count_cons_of_ne (by simp), hpolls]
  exact hle

end

/-- No deadline lies before the start, so the ticks since then are counted without going below 0. -/
theorem readings_le_of_late {k : Nat} (hlate : u.deadline s ≤ (s.readings (k + 1)).toNat) :
    s.readings 0 ≤ s.readings (k + 1) := by
  have hfirst := (s.readings 0).toNat_lt
  have hsize : UInt64.size = 18446744073709551616 := rfl
  rw [deadline] at hlate
  rw [UInt64.le_iff_toNat_le]
  omega

/-- Among any transport and any ticks: an empty slot makes no call. Otherwise the record is taken and one post of it is
    started, and it is the last one sent exactly if it was accepted. A post that is refused ends there. Else it ends
    with the first poll that is answered, by its answer, or after which the deadline has come, by the ticks since the
    start and with one abort; if there is no such poll it does not end. There is one, within as many polls as the
    deadline is ticks away but at least one, if every reading is greater than the one before or the greatest. The post
    on a course given beforehand is this one, with the same starts, refused ones among them. -/
theorem outcome_law (u : Uplink) (s : Surroundings) :
    (u.slot.pending = none → ∀ polls, u.postIn s polls = some ⟨.error .noData, u, []⟩) ∧
    (∀ record, u.slot.pending = some record →
      (∀ polls o, u.postIn s polls = some o →
        (∃ calls, o.calls = .start u.url record :: calls ∧ calls.filterMap Call.post? = []) ∧
        o.uplink.slot = .empty ∧ (o.result = .ok () → o.uplink.lastSent = some record) ∧
        (o.result ≠ .ok () → o.uplink.lastSent = u.lastSent)) ∧
      (∀ e, s.start u.url record = .error e → ∀ polls,
        ∃ v, u.postIn s polls = some ⟨.error e, v, [.start u.url record]⟩) ∧
      (s.start u.url record = .ok () →
        (∀ k, (∀ j < k, u.Waits s j) → (∀ polls ≤ k, u.postIn s polls = none) ∧ ∀ polls > k,
          (s.answers k = .inProgress → u.deadline s ≤ (s.readings (k + 1)).toNat →
            s.readings 0 ≤ s.readings (k + 1) ∧
            ∃ v, u.postIn s polls = some ⟨.error (.timeout (s.readings (k + 1) - s.readings 0)), v,
              .start u.url record :: (List.replicate (k + 1) .poll ++ [.abort])⟩) ∧
          (∀ code, s.answers k = .completed code → ∃ v, u.postIn s polls =
            some ⟨if 200 ≤ code ∧ code < 300 then .ok () else .error (.status code), v,
              .start u.url record :: List.replicate (k + 1) .poll⟩) ∧
          ∀ reason, s.answers k = .failed reason → ∃ v, u.postIn s polls =
            some ⟨.error (.connect reason), v, .start u.url record :: List.replicate (k + 1) .poll⟩) ∧
        ((∃ polls o, u.postIn s polls = some o) ↔ ∃ k, ¬u.Waits s k) ∧
        (s.Growing → let most := max 1 (u.deadline s - (s.readings 0).toNat)
          ∃ o, u.postIn s most = some o ∧ o.calls.count .poll ≤ most))) ∧
    ∀ {σ : Type} [TickSource σ] (attempt : Attempt) (ticks : σ),
      ∃ polls o, u.postIn (.ofAttempt attempt ticks) polls = some o ∧ o.result = (u.post attempt ticks).result ∧
        o.uplink = (u.post attempt ticks).uplink ∧ o.calls.count .poll = (u.post attempt ticks).traffic.polls ∧
        o.calls.count .abort = (u.post attempt ticks).traffic.aborts ∧
        o.calls.filterMap Call.post? = (u.post attempt ticks).traffic.starts.map Start.post ∧
        ∀ course, attempt = .started course →
          o.calls.filterMap Call.post? = (u.post attempt ticks).traffic.posts := by
  refine ⟨fun hempty => postIn_of_empty hempty s, fun record hpending =>
    ⟨fun polls o ho => ?_, fun e he polls => ⟨_, postIn_of_refused hpending he polls⟩, fun hstart =>
      ⟨fun k hwait => ⟨fun polls => postIn_of_few hpending hstart hwait, fun polls hpolls => ⟨fun hanswer hlate => ?_,
        fun code hcode => ?_, fun reason hreason => ?_⟩⟩,
      exists_postIn_iff hpending hstart, postIn_of_growing hpending hstart⟩⟩,
    fun attempt ticks => postIn_ofAttempt u attempt ticks⟩
  · obtain ⟨hcalls, huplink⟩ := postIn_settled hpending ho
    rw [huplink]
    cases o.result with
    | ok _ => exact ⟨hcalls, rfl, fun _ => rfl, fun hne => absurd rfl hne⟩
    | error e =>
      refine ⟨hcalls, rfl, fun heq => ?_, fun _ => rfl⟩
      cases heq
  · exact ⟨readings_le_of_late hlate, postIn_of_late hpending hstart hwait hanswer hlate hpolls⟩
  · exact postIn_of_answer hpending hstart hwait (.completed code) hcode hpolls
  · exact postIn_of_answer hpending hstart hwait (.failed reason) hreason hpolls

/-- Two ticks before the counter ends, with a deadline past its end and no answer: given up at the last tick. -/
theorem outcome_law_at_last_tick :
    let u : Uplink := ⟨"http://servidor/coleta", 10, ⟨some "25.00;1"⟩, some "24.50;0"⟩
    let s : Surroundings :=
      ⟨fun _ _ => .ok (), fun _ => .inProgress, fun n => addSaturating 0xFFFFFFFFFFFFFFFD (UInt64.ofNat n)⟩
    u.slot.pending = some "25.00;1" ∧ u.Waits s 0 ∧ u.deadline s ≤ (s.readings 2).toNat ∧
      ∃ v, u.postIn s 2 = some ⟨.error (.timeout 2), v,
        [.start "http://servidor/coleta" "25.00;1", .poll, .poll, .abort]⟩ ∧
        v.slot = .empty ∧ v.lastSent = some "24.50;0" := by
  intro u s
  have hwait : u.Waits s 0 := ⟨rfl, by decide⟩
  have hlate : u.deadline s ≤ (s.readings 2).toNat := by decide
  obtain ⟨-, hlaw, -⟩ := outcome_law u s
  obtain ⟨hsettled, -, hstarted⟩ := hlaw "25.00;1" rfl
  have hall : ∀ j < 1, u.Waits s j := fun j hj => by
    obtain rfl := Nat.lt_one_iff.mp hj
    exact hwait
  obtain ⟨-, hends⟩ := (hstarted rfl).1 1 hall
  obtain ⟨-, v, hv⟩ := (hends 2 (Nat.lt_succ_self 1)).1 rfl hlate
  have helapsed : s.readings (1 + 1) - s.readings 0 = 2 := by decide
  rw [helapsed] at hv
  obtain ⟨-, hslot, -, hlast⟩ := hsettled 2 _ hv
  exact ⟨rfl, hwait, hlate, v, hv, hslot, hlast fun heq => by cases heq⟩

end Uplink
end FieldLogger
