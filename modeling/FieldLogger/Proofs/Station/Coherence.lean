import FieldLogger.Proofs.Station.Configuration

/-! The parts of a station follow the record in memory, from its boot on and through every run, whatever is typed
    and whether or not the internal store can be written (`run_coherent`). Every way to change the record
    announces it, and the round that changes it passes it on before it measures. After a round nothing waits in
    a slot. -/

namespace FieldLogger
namespace Station

/-! ### One round -/

section Round
variable {ι ε : Type}

attribute [local irreducible] Session.typeLine

theorem slot_loggerTask [ByteStore ε] (s : Station ι ε) : s.loggerTask.logger.slot = .empty := by
  show (s.logger.flush s.session.clock.date).2.slot = .empty
  unfold FileLogger.flush
  split
  · rename_i h
    exact congrArg Slot.mk (Prod.mk.inj h).1
  · rename_i h
    exact (Prod.mk.inj h).2.symm

variable [ByteStore ι]

theorem coherent_configurationTask {s : Station ι ε} (h : s.configuration.Coherent) (line : Option String) :
    (s.configurationTask line).configuration.Coherent := by
  have htask : s.configuration.taskPeriod.isSome = true := by
    rw [h]
    rfl
  cases line with
  | none => exact coherent_propagate htask (Or.inr h)
  | some line =>
    refine coherent_propagate htask ?_
    have hmediator := s.session.typeLine_mediator line
    cases hrequest : s.session.request (Signal.ofLine line).1 with
    | none =>
      right
      rw [hrequest] at hmediator
      unfold Configuration.Coherent configuration
      dsimp only
      rw [hmediator]
      exact h
    | some notice =>
      rw [hrequest] at hmediator
      rcases (s.session.mediator.served_notify .terminal notice).announces with hchanged | ⟨hsame, -⟩
      · left
        show (s.session.typeLine line).2.mediator.changed = true
        rw [hmediator]
        exact hchanged
      · right
        unfold Configuration.Coherent configuration
        dsimp only
        rw [hmediator]
        change (Session.asked s.session.mediator (some notice)).metadata = _ at hsame
        rw [hsame]
        exact h

theorem slots_iterate [ByteStore ε] (s : Station ι ε) (line : Option String) :
    (s.iterate line).logger.slot = .empty ∧ ∀ u, (s.iterate line).uplink = some u → u.slot = .empty := by
  have hlogger : (s.iterateLocally line).logger.slot = .empty := slot_loggerTask _
  unfold iterate networkTask
  split
  · rename_i hnone
    refine ⟨hlogger, fun u hu => ?_⟩
    rw [hnone] at hu
    cases hu
  · refine ⟨hlogger, fun u hu => ?_⟩
    obtain rfl := Option.some.inj hu
    exact Uplink.slot_post _ _ _

end Round

/-! ### Runs -/

/-- Setting the clock from outside changes only the clock, and that only if it can be set so. -/
theorem orSelf_clock (s : InMemory) (set : Except EntryError Clock) :
    ∃ clock, orSelf s (set.map fun clock => { s with session := { s.session with clock } }) =
        { s with session := { s.session with clock } } ∧
      (clock = s.session.clock ∨ set = .ok clock) := by
  cases set with
  | error e => exact ⟨s.session.clock, rfl, Or.inl rfl⟩
  | ok clock => exact ⟨clock, rfl, Or.inr rfl⟩

theorem step_setTime (s : InMemory) (hour minute second : Nat) :
    ∃ clock, s.step (.setTime hour minute second) = { s with session := { s.session with clock } } ∧
      (clock = s.session.clock ∨ s.session.clock.setTime hour minute second = .ok clock) := orSelf_clock s _

theorem step_setDate (s : InMemory) (day month : Nat) (year : Int) :
    ∃ clock, s.step (.setDate day month year) = { s with session := { s.session with clock } } ∧
      (clock = s.session.clock ∨ s.session.clock.setDate day month year = .ok clock) := orSelf_clock s _

theorem configuration_step {s : InMemory} {e : Event} (h : ¬∃ line, e = .iterate line) :
    (s.step e).configuration = s.configuration := by
  cases e with
  | iterate line => exact absurd ⟨line, rfl⟩ h
  | ticks n =>
    show configuration { s with scheduler := s.scheduler.advance n } = _
    unfold configuration
    rw [Scheduler.period?_advance]
  | trigger =>
    show configuration { s with scheduler := s.scheduler.trigger measurementIndex } = _
    unfold configuration
    rw [Scheduler.period?_trigger]
  | air _ | attempt _ | failInternal _ | failExternal _ => rfl
  | setTime hour minute second =>
    obtain ⟨clock, hstep, -⟩ := step_setTime s hour minute second
    rw [hstep]
    rfl
  | setDate day month year =>
    obtain ⟨clock, hstep, -⟩ := step_setDate s day month year
    rw [hstep]
    rfl

theorem coherent_step {s : InMemory} (h : s.configuration.Coherent) (e : Event) :
    (s.step e).configuration.Coherent := by
  by_cases hround : ∃ line, e = .iterate line
  · obtain ⟨line, rfl⟩ := hround
    show (s.iterate line).configuration.Coherent
    rw [(configuration_iterate s line).1]
    exact coherent_configurationTask h line
  · rw [configuration_step hround]
    exact h

theorem coherent_run {s : InMemory} (h : s.configuration.Coherent) (events : List Event) :
    (s.run events).configuration.Coherent := by
  induction events generalizing s with
  | nil => exact h
  | cons e events ih => exact ih (coherent_step h e)

theorem tickMs_step (s : InMemory) (e : Event) : (s.step e).tickMs = s.tickMs := by
  by_cases hround : ∃ line, e = .iterate line
  · obtain ⟨line, rfl⟩ := hround
    have hiterate := congrArg (·.tickMs) (configuration_iterate s line).1
    exact hiterate.trans (tickMs_configurationTask s line)
  · exact congrArg (·.tickMs) (configuration_step hround)

theorem tickMs_run (s : InMemory) (events : List Event) : (s.run events).tickMs = s.tickMs := by
  induction events generalizing s with
  | nil => rfl
  | cons e events ih => exact (ih _).trans (tickMs_step s e)

/-- Through every run of a station that has booted, the measurement task and the logger follow the record in
    memory, and after each round its change is no longer marked and no record waits in a slot. -/
theorem run_coherent {config : Config} {equipment : Equipment} {internal : MemoryStore}
    {external : MemoryStore → MemoryStore} {s : InMemory}
    (h : Station.boot config equipment internal external = .ok s) (events : List Event) :
    let t := s.run events
    let m := t.session.mediator.metadata
    ((t.scheduler.task? measurementIndex).map (·.period) = some (minutesToTicks m.measurement config.tickMs) ∧
      t.logger.name = m.name ∧ t.logger.period = m.filePeriod) ∧
    ∀ line, (t.iterate line).session.mediator.changed = false ∧ (t.iterate line).logger.slot = .empty ∧
      ∀ u, (t.iterate line).uplink = some u → u.slot = .empty := by
  intro t m
  have hcoherent : t.configuration.Coherent := coherent_run (coherent_of_boot h) events
  have htick : t.tickMs = config.tickMs := (tickMs_run s events).trans (tickMs_of_boot h)
  refine ⟨⟨?_, congrArg (·.loggerName) hcoherent, congrArg (·.filePeriod) hcoherent⟩,
    fun line => ⟨?_, slots_iterate t line⟩⟩
  · rw [← htick]
    exact congrArg (·.taskPeriod) hcoherent
  · rw [(configuration_iterate t line).2, session_configurationTask]

/-- A station whose measurement period is edited and saved, and then edited while nothing can be saved. -/
theorem run_coherent_bench :
    ∃ s : InMemory, Station.boot .factory bench .empty (fun _ => .empty) = .ok s ∧
      let t := s.run [.iterate (some "c"), .iterate (some "m"), .iterate (some "5"), .iterate (some "s"), .ticks 70000,
        .failInternal true, .iterate (some "m"), .iterate (some "6"), .iterate (some "s")]
      let m := t.session.mediator.metadata
      ((t.scheduler.task? measurementIndex).map (·.period) = some (minutesToTicks m.measurement Config.factory.tickMs) ∧
        t.logger.name = m.name ∧ t.logger.period = m.filePeriod) ∧
      ∀ line, (t.iterate line).session.mediator.changed = false ∧ (t.iterate line).logger.slot = .empty ∧
        ∀ u, (t.iterate line).uplink = some u → u.slot = .empty := by
  obtain ⟨s, h⟩ := exists_boot_bench
  exact ⟨s, h, run_coherent h _⟩

end Station
end FieldLogger
