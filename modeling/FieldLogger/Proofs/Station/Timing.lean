import FieldLogger.Proofs.Config.Problems
import FieldLogger.Proofs.Scheduler.Conversion
import FieldLogger.Proofs.Scheduler.Firing
import FieldLogger.Proofs.Station.Coherence
import FieldLogger.Proofs.Uplink.Waiting

/-! What the ticks of a configuration without problems amount to (`periods_in_ticks`). Every period of whole minutes
    that is not 0 is some ticks, so its task is alive, and a post is given a tick at least. -/

namespace FieldLogger

theorem Config.Valid.tickMs_le_minute {c : Config} (h : c.Valid) : c.tickMs ≤ msPerMinute :=
  UInt64.le_trans h.tick_le (by decide)

/-- A deadline is after its start, unless no word is. -/
theorem lt_addSaturating {started timeout : UInt64} (h : 1 ≤ timeout) :
    started < addSaturating started timeout ∨ started.toNat = UInt64.size - 1 := by
  have hstarted := started.toNat_lt
  have htimeout : 1 ≤ timeout.toNat := UInt64.le_iff_toNat_le.mp h
  rw [UInt64.lt_iff_toNat_lt, toNat_addSaturating]
  unfold UInt64.size
  omega

namespace Station
variable {ι ε : Type}

/-! ### The ticks that a post is given -/

/-- The ticks that a station gives its posts, if it has a network. -/
def patience (s : Station ι ε) : Option UInt64 := s.uplink.map (·.timeout)

theorem patience_deliveries (ds : List (Listener × String)) (s : Station ι ε) :
    (ds.foldl deliver s).patience = s.patience := by
  induction ds generalizing s with
  | nil => rfl
  | cons d ds ih =>
    refine (ih _).trans ?_
    obtain ⟨listener, record⟩ := d
    cases listener with
    | logger => rfl
    | network => exact Option.map_map _ _ _

theorem patience_configurationTask [ByteStore ι] (s : Station ι ε) (line : Option String) :
    (s.configurationTask line).patience = s.patience := by
  rw [configurationTask_eq, propagate_eq]
  split <;> rfl

theorem patience_measurementTask (s : Station ι ε) : s.measurementTask.patience = s.patience := by
  unfold measurementTask
  dsimp only
  split
  · unfold measure
    split
    · rfl
    · exact patience_deliveries _ _
  · rfl

theorem timeout_post {σ : Type} [TickSource σ] (u : Uplink) (attempt : Attempt) (ticks : σ) :
    (u.post attempt ticks).uplink.timeout = u.timeout := by
  refine Uplink.post_cases (P := fun posted => posted.uplink.timeout = u.timeout) ?_ ?_ ?_
  · intro _
    rfl
  · intro _ _ _ _
    rfl
  · intro record _ _ _
    exact Uplink.timeout_settled u record _

theorem patience_networkTask (s : Station ι ε) : s.networkTask.patience = s.patience := by
  unfold networkTask
  split
  · rfl
  · rename_i u hu
    unfold patience
    rw [hu]
    exact congrArg some (timeout_post u _ _)

theorem patience_iterate [ByteStore ι] [ByteStore ε] (s : Station ι ε) (line : Option String) :
    (s.iterate line).patience = s.patience := by
  refine (patience_networkTask _).trans ?_
  exact (patience_measurementTask _).trans (patience_configurationTask s line)

theorem patience_run (s : InMemory) (events : List Event) : (s.run events).patience = s.patience := by
  induction events generalizing s with
  | nil => rfl
  | cons e events ih =>
    refine (ih _).trans ?_
    cases e with
    | iterate line => exact patience_iterate s line
    | setTime hour minute second =>
      obtain ⟨clock, hstep, -⟩ := step_setTime s hour minute second
      rw [hstep]
      rfl
    | setDate day month year =>
      obtain ⟨clock, hstep, -⟩ := step_setDate s day month year
      rw [hstep]
      rfl
    | _ => rfl

theorem patience_of_boot {c : Config} {equipment : Equipment} {internal : MemoryStore}
    {external : MemoryStore → MemoryStore} {s : InMemory} (h : Station.boot c equipment internal external = .ok s)
    {timeout : UInt64} (hpatience : s.patience = some timeout) : timeout = msToTicks c.timeoutMs c.tickMs := by
  obtain ⟨m, registry, -, hassemble⟩ := boot_ok h
  obtain ⟨store, -, rfl⟩ := assemble_ok hassemble
  change (uplinkOf c equipment.transport).map _ = _ at hpatience
  unfold uplinkOf at hpatience
  split at hpatience
  · exact (Option.some.inj hpatience).symm
  · cases hpatience

/-! ### The measurement task -/

theorem period?_run_of_boot {c : Config} {equipment : Equipment} {internal : MemoryStore}
    {external : MemoryStore → MemoryStore} {s : InMemory} (h : Station.boot c equipment internal external = .ok s)
    (events : List Event) :
    (s.run events).scheduler.period? measurementIndex =
      some (minutesToTicks (s.run events).session.mediator.metadata.measurement c.tickMs) := by
  have hcoherent : (s.run events).configuration.Coherent := coherent_run (coherent_of_boot h) events
  have htick : (s.run events).tickMs = c.tickMs := (tickMs_run s events).trans (tickMs_of_boot h)
  rw [← htick]
  exact congrArg (·.taskPeriod) hcoherent

end Station

/-! ### What the ticks amount to -/

/-- With a configuration that has no problems, any number of minutes of 32 bits is multiplied without overflow and is
    cut to whole ticks, short of it by less than one tick; more minutes are more ticks, and only no minutes are none.
    A task with such a period other than 0 fires in any run of so many ticks, and so does the measurement task of a
    station, whatever it went through. A post is given at least a tick, so that its deadline is after its start unless
    the counter stands at its end. -/
theorem Station.periods_in_ticks {c : Config} (h : c.problems = []) :
    (∀ minutes : UInt32,
      let ticks := minutesToTicks minutes c.tickMs
      (minutes.toUInt64 * msPerMinute).toNat = minutes.toNat * 60000 ∧
      ticks.toNat = minutes.toNat * 60000 / c.tickMs.toNat ∧
      (ticks = 0 ↔ minutes = 0) ∧
      (∀ more, minutes < more → ticks < minutesToTicks more c.tickMs) ∧
      ticks.toNat * c.tickMs.toNat ≤ minutes.toNat * 60000 ∧
      minutes.toNat * 60000 < (ticks.toNat + 1) * c.tickMs.toNat ∧
      (minutes ≠ 0 → ∀ (s : Scheduler) (i : Nat) (events : List Scheduler.Event), s.period? i = some ticks →
        (∀ q, .setPeriod i q ∈ events → q = ticks) → ticks.toNat ≤ events.count .tick →
        ∃ before after, events = before ++ .tick :: after ∧ (s.run before).Fires i)) ∧
    1 ≤ msToTicks c.timeoutMs c.tickMs ∧
    ∀ equipment internal external (s : InMemory), Station.boot c equipment internal external = .ok s →
      ∀ events,
        let t := s.run events
        let minutes := t.session.mediator.metadata.measurement
        (minutes ≠ 0 → ∀ n, (minutesToTicks minutes c.tickMs).toNat ≤ n →
          ((t.ticks n).scheduler.take measurementIndex).1 = true) ∧
        ∀ u started, t.uplink = some u →
          started < addSaturating started u.timeout ∨ started.toNat = UInt64.size - 1 := by
  have hvalid := Config.problems_eq_nil_iff.mp h
  have hle := hvalid.tickMs_le_minute
  have halive : ∀ {minutes : UInt32}, minutes ≠ 0 → minutesToTicks minutes c.tickMs ≠ 0 := fun hminutes hzero =>
    hminutes ((minutesToTicks_eq_zero_iff hvalid.tick hle).mp hzero)
  have hpatient := one_le_msToTicks hvalid.tick hvalid.timeout
  refine ⟨fun minutes => ?_, hpatient, fun equipment internal external s hboot events => ⟨?_, ?_⟩⟩
  · obtain ⟨hshort, hclose⟩ := minutesToTicks_mul minutes hvalid.tick
    exact ⟨toNat_mul_msPerMinute minutes, toNat_minutesToTicks minutes hvalid.tick,
      minutesToTicks_eq_zero_iff hvalid.tick hle, fun more => minutesToTicks_lt hvalid.tick hle, hshort, hclose,
      fun hminutes s i events hperiod hkeeps hticks => Scheduler.exists_fires hperiod (halive hminutes) hkeeps hticks⟩
  · intro hminutes n hn
    exact Scheduler.take_advance (period?_run_of_boot hboot events) (halive hminutes) hn
  · intro u started hu
    have hsame : s.patience = some u.timeout := by
      rw [← patience_run s events]
      exact congrArg (Option.map _) hu
    rw [patience_of_boot hboot hsame]
    exact lt_addSaturating hpatient

/-- A minute in ticks of a millisecond, on a scheduler that has ticked seven times and in a station whose period was
    edited. -/
theorem Station.periods_in_ticks_bench :
    Config.factory.problems = [] ∧ (minutesToTicks 1 Config.factory.tickMs).toNat = 60000 ∧
    minutesToTicks 1 Config.factory.tickMs < minutesToTicks 0xFFFFFFFF Config.factory.tickMs ∧
    (∃ before after, List.replicate 60000 .tick = before ++ .tick :: after ∧
      ((⟨7, [⟨"medição", 60000, false⟩]⟩ : Scheduler).run before).Fires 0) ∧
    1 ≤ msToTicks Config.factory.timeoutMs Config.factory.tickMs ∧
    ∃ s : InMemory, Station.boot .factory bench .empty (fun _ => .empty) = .ok s ∧
      let t := s.run [.iterate (some "c"), .iterate (some "m"), .iterate (some "5"), .iterate (some "s")]
      let minutes := t.session.mediator.metadata.measurement
      (minutes ≠ 0 → ∀ n, (minutesToTicks minutes Config.factory.tickMs).toNat ≤ n →
        ((t.ticks n).scheduler.take measurementIndex).1 = true) ∧
      ∀ u started, t.uplink = some u →
        started < addSaturating started u.timeout ∨ started.toNat = UInt64.size - 1 := by
  have hproblems : Config.factory.problems = [] := by decide
  obtain ⟨hminutes, htimeout, hstation⟩ := periods_in_ticks hproblems
  obtain ⟨-, hexact, -, hmore, -, -, hfires⟩ := hminutes 1
  obtain ⟨s, hboot⟩ := exists_boot_bench
  refine ⟨hproblems, hexact, hmore 0xFFFFFFFF (by decide), ?_, htimeout, s, hboot, hstation _ _ _ s hboot _⟩
  refine hfires (by decide) ⟨7, [⟨"medição", 60000, false⟩]⟩ 0 (List.replicate 60000 .tick) rfl (fun q hq => ?_) ?_
  · cases List.eq_of_mem_replicate hq
  · rw [hexact, List.count_replicate_self]
    exact Nat.le_refl _

end FieldLogger
