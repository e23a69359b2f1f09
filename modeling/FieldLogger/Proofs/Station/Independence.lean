import FieldLogger.Proofs.Station.Delivery

/-! Files and network do not get into each other's way (`logger_network_independent`). A round makes the same of
    everything else whatever the external store holds and whether or not it can be written (`iterate_withExternal`),
    and what the network answers reaches nothing but the network, as long as no ticks pass while it is waited for
    (`step_withoutNetwork`). -/

namespace FieldLogger

/-! ### Waiting without ticks -/

/-- No tick passes while the attempt is polled. -/
def Attempt.Quiet : Attempt → Prop
  | .refused _ => True
  | .started course => (∀ wait ∈ course.waits, wait = 0) ∧ course.lastWait = 0

instance : DecidablePred Attempt.Quiet
  | .refused _ => .isTrue trivial
  | .started course => inferInstanceAs (Decidable ((∀ wait ∈ course.waits, wait = 0) ∧ course.lastWait = 0))

namespace Uplink

theorem ticks_await_of_quiet (started deadline : UInt64) (answer : PostAnswer) {waits : List Nat}
    (h : ∀ wait ∈ waits, wait = 0) (ticks : Scheduler) : (await started deadline 0 answer waits ticks).ticks = ticks := by
  induction waits with
  | nil => rfl
  | cons wait waits ih =>
    obtain ⟨rfl, hwaits⟩ := List.forall_mem_cons.mp h
    unfold await
    dsimp only
    split
    · rfl
    · exact ih hwaits

theorem ticks_post_of_quiet (u : Uplink) {attempt : Attempt} (h : attempt.Quiet) (ticks : Scheduler) :
    (u.post attempt ticks).ticks = ticks := by
  refine post_cases (P := fun posted => posted.ticks = ticks) ?_ ?_ ?_
  · intro _
    rfl
  · intro _ _ _ _
    rfl
  · rintro _ course _ rfl
    obtain ⟨hwaits, hlast⟩ := h
    rw [hlast]
    exact ticks_await_of_quiet _ _ _ hwaits ticks

end Uplink

namespace Station

section Tasks
variable {ι ε : Type}

/-! ### Changes that the tasks do not see -/

theorem propagate_comm {f : Station ι ε → Station ι ε} {s : Station ι ε}
    (hmediator : (f s).session.mediator = s.session.mediator)
    (happly : ∀ m, (f s).unmarked.applyMetadata m = f (s.unmarked.applyMetadata m))
    (hunmarked : (f s).unmarked = f s.unmarked) : (f s).propagate = f s.propagate := by
  rw [propagate_eq, propagate_eq, hmediator, happly, hunmarked]
  split <;> rfl

/-- The station with the flag of the measurement task down. -/
def unflagged (s : Station ι ε) : Station ι ε := { s with scheduler := (s.scheduler.take measurementIndex).2 }

theorem measurementTask_eq (s : Station ι ε) :
    s.measurementTask = if (s.scheduler.take measurementIndex).1 then s.unflagged.measure else s.unflagged := rfl

theorem measurementTask_comm {f : Station ι ε → Station ι ε} {s : Station ι ε}
    (hscheduler : (f s).scheduler = s.scheduler) (hunflagged : (f s).unflagged = f s.unflagged)
    (hmeasure : (f s.unflagged).measure = f s.unflagged.measure) : (f s).measurementTask = f s.measurementTask := by
  rw [measurementTask_eq, measurementTask_eq, hscheduler, hunflagged, hmeasure]
  split <;> rfl

/-! ### Another external store -/

/-- The station with another external store. -/
def withExternal (s : Station ι ε) (store : ε) : Station ι ε := { s with logger := { s.logger with store } }

theorem configurationTask_withExternal [ByteStore ι] (s : Station ι ε) (store : ε) (line : Option String) :
    (s.withExternal store).configurationTask line = (s.configurationTask line).withExternal store := by
  rw [configurationTask_eq, configurationTask_eq]
  exact propagate_comm (f := (·.withExternal store)) (s := s.typed line) rfl (fun _ => rfl) rfl

theorem foldl_deliver_withExternal (ds : List (Listener × String)) (s : Station ι ε) (store : ε) :
    ds.foldl deliver (s.withExternal store) = (ds.foldl deliver s).withExternal store := by
  induction ds generalizing s with
  | nil => rfl
  | cons d ds ih =>
    have hd : (s.withExternal store).deliver d = (s.deliver d).withExternal store := by
      obtain ⟨listener, record⟩ := d
      cases listener <;> rfl
    rw [List.foldl_cons, List.foldl_cons, hd]
    exact ih (s.deliver d)

theorem measure_withExternal (s : Station ι ε) (store : ε) :
    (s.withExternal store).measure = s.measure.withExternal store := by
  unfold measure
  dsimp only [withExternal]
  generalize s.pipeline.cycle s.session.clock.timestamp s.air = answer
  obtain ⟨result, pipeline⟩ := answer
  cases result with
  | error e => rfl
  | ok ds => exact foldl_deliver_withExternal ds { s with pipeline } store

theorem measurementTask_withExternal (s : Station ι ε) (store : ε) :
    (s.withExternal store).measurementTask = s.measurementTask.withExternal store :=
  measurementTask_comm (f := (·.withExternal store)) rfl rfl (measure_withExternal s.unflagged store)

theorem networkTask_withExternal (s : Station ι ε) (store : ε) :
    (s.withExternal store).networkTask = s.networkTask.withExternal store := by
  obtain ⟨tickMs, session, pipeline, air, logger, uplink, attempt, scheduler, traffic⟩ := s
  cases uplink <;> rfl

theorem loggerTask_withExternal [ByteStore ε] (s : Station ι ε) (store : ε) :
    s.loggerTask.withExternal store = { s with logger := { s.logger with store, slot := .empty } } := by
  obtain ⟨hname, hperiod⟩ := naming_flush s.logger s.session.clock.date
  have hslot : (s.logger.flush s.session.clock.date).2.slot = .empty := slot_loggerTask s
  unfold loggerTask withExternal
  dsimp only
  rw [hname, hperiod, hslot]

/-- Whatever the external store is, a round does the same to everything else. -/
theorem iterate_withExternal [ByteStore ι] [ByteStore ε] (s : Station ι ε) (store store' : ε) (line : Option String) :
    ((s.withExternal store).iterate line).withExternal store' = (s.iterate line).withExternal store' := by
  have hlocal : ((s.withExternal store).iterateLocally line).withExternal store' =
      (s.iterateLocally line).withExternal store' := by
    unfold iterateLocally
    rw [configurationTask_withExternal, measurementTask_withExternal, loggerTask_withExternal,
      loggerTask_withExternal]
    rfl
  unfold iterate
  rw [← networkTask_withExternal, hlocal, networkTask_withExternal]

/-! ### No network -/

/-- The station without its network. -/
def withoutNetwork (s : Station ι ε) : Station ι ε :=
  { s with
    pipeline := { s.pipeline with observers := s.pipeline.observers.filter (· = .logger) }
    uplink := none
    attempt := .refused .noData
    traffic := .none }

theorem configurationTask_withoutNetwork [ByteStore ι] (s : Station ι ε) (line : Option String) :
    s.withoutNetwork.configurationTask line = (s.configurationTask line).withoutNetwork := by
  rw [configurationTask_eq, configurationTask_eq]
  exact propagate_comm (f := withoutNetwork) (s := s.typed line) rfl (fun _ => rfl) rfl

theorem foldl_deliver_withoutNetwork (observers : List Listener) (record : String) (s : Station ι ε) :
    ((observers.map fun o => (o, record)).foldl deliver s).withoutNetwork =
      ((observers.filter (· = .logger)).map fun o => (o, record)).foldl deliver s.withoutNetwork := by
  induction observers generalizing s with
  | nil => rfl
  | cons o observers ih =>
    cases o with
    | logger =>
      rw [List.filter_cons_of_pos (by decide), List.map_cons, List.map_cons, List.foldl_cons, List.foldl_cons]
      exact ih _
    | network =>
      rw [List.filter_cons_of_neg (by decide), List.map_cons, List.foldl_cons]
      exact ih _

theorem measure_withoutNetwork (s : Station ι ε) : s.measure.withoutNetwork = s.withoutNetwork.measure := by
  unfold measure
  rw [Pipeline.cycle_eq, Pipeline.cycle_eq]
  dsimp only [withoutNetwork]
  by_cases h : Pipeline.maxRecordBytes <
      ((s.pipeline.bank.read s.air).record s.session.clock.timestamp).utf8ByteSize
  · rw [if_pos h, if_pos h]
    rfl
  · rw [if_neg h, if_neg h]
    exact foldl_deliver_withoutNetwork _ _ _

theorem measurementTask_withoutNetwork (s : Station ι ε) :
    s.withoutNetwork.measurementTask = s.measurementTask.withoutNetwork :=
  measurementTask_comm (f := withoutNetwork) rfl rfl (measure_withoutNetwork s.unflagged).symm

theorem networkTask_withoutNetwork {s : Station ι ε} (h : s.attempt.Quiet) :
    s.networkTask.withoutNetwork = s.withoutNetwork := by
  unfold networkTask
  cases s.uplink with
  | none => rfl
  | some u =>
    dsimp only [withoutNetwork]
    rw [u.ticks_post_of_quiet h]

theorem attempt_foldl_deliver (ds : List (Listener × String)) (s : Station ι ε) :
    (ds.foldl deliver s).attempt = s.attempt := by
  induction ds generalizing s with
  | nil => rfl
  | cons d ds ih =>
    have hd : (s.deliver d).attempt = s.attempt := by
      obtain ⟨listener, record⟩ := d
      cases listener <;> rfl
    exact (ih (s.deliver d)).trans hd

theorem attempt_iterateLocally [ByteStore ι] [ByteStore ε] (s : Station ι ε) (line : Option String) :
    (s.iterateLocally line).attempt = s.attempt := by
  have hconfiguration : (s.configurationTask line).attempt = s.attempt := by
    rw [configurationTask_eq, propagate_eq]
    split <;> rfl
  have hmeasure : ∀ t : Station ι ε, t.measure.attempt = t.attempt := by
    intro t
    unfold measure
    split
    · rfl
    · exact attempt_foldl_deliver _ _
  refine Eq.trans ?_ hconfiguration
  show (s.configurationTask line).measurementTask.attempt = _
  rw [measurementTask_eq]
  split
  · exact hmeasure _
  · rfl

/-- Without the network a round does the same to everything else, as long as no ticks pass in a post. -/
theorem iterate_withoutNetwork [ByteStore ι] [ByteStore ε] {s : Station ι ε} (h : s.attempt.Quiet)
    (line : Option String) : (s.iterate line).withoutNetwork = s.withoutNetwork.iterate line := by
  have hquiet : (s.iterateLocally line).attempt.Quiet := by
    rw [attempt_iterateLocally]
    exact h
  unfold iterate
  rw [networkTask_withoutNetwork hquiet]
  unfold iterateLocally
  rw [configurationTask_withoutNetwork, measurementTask_withoutNetwork]
  rfl

end Tasks

/-! ### Runs that differ in the external store -/

/-- The external store begins to fail or recovers. -/
def Event.isFailExternal : Event → Bool
  | .failExternal _ => true
  | _ => false

/-- The stations differ in their external stores at most. -/
def SameInside (s t : InMemory) : Prop := ∃ store, t = s.withExternal store

variable {s t : InMemory}

theorem SameInside.refl (s : InMemory) : SameInside s s := ⟨s.logger.store, rfl⟩

theorem SameInside.symm (h : SameInside s t) : SameInside t s := by
  obtain ⟨store, rfl⟩ := h
  exact ⟨s.logger.store, rfl⟩

theorem SameInside.trans {u : InMemory} (h : SameInside s t) (h' : SameInside t u) : SameInside s u := by
  obtain ⟨store, rfl⟩ := h
  obtain ⟨store', rfl⟩ := h'
  exact ⟨store', rfl⟩

theorem orSelf_withExternal (s : InMemory) (store : MemoryStore) (set : Except EntryError Clock) :
    orSelf (s.withExternal store)
        (set.map fun clock => { s.withExternal store with session := { s.session with clock } }) =
      (orSelf s (set.map fun clock => { s with session := { s.session with clock } })).withExternal store := by
  cases set <;> rfl

theorem SameInside.step (h : SameInside s t) (e : Event) : SameInside (s.step e) (t.step e) := by
  obtain ⟨store, rfl⟩ := h
  cases e with
  | iterate line => exact ⟨_, iterate_withExternal s store ((s.withExternal store).iterate line).logger.store line⟩
  | ticks _ | trigger | air _ | attempt _ | failInternal _ => exact ⟨store, rfl⟩
  | failExternal fails => exact ⟨{ store with failWrites := fails }, rfl⟩
  | setTime hour minute second => exact ⟨store, orSelf_withExternal s store _⟩
  | setDate day month year => exact ⟨store, orSelf_withExternal s store _⟩

theorem SameInside.run (h : SameInside s t) (events : List Event) :
    SameInside (s.run events) (t.run (events.filter (!·.isFailExternal))) := by
  induction events generalizing s t with
  | nil => exact h
  | cons e events ih =>
    cases e with
    | failExternal fails =>
      have hfailed : SameInside (s.failExternal fails) s := ⟨s.logger.store, rfl⟩
      exact ih (hfailed.trans h)
    | _ => exact ih (h.step _)

theorem sameInside_of_boot {config : Config} {equipment : Equipment} {internal : MemoryStore}
    {external external' : MemoryStore → MemoryStore}
    (h : Station.boot config equipment internal external = .ok s)
    (h' : Station.boot config equipment internal external' = .ok t) : SameInside s t := by
  obtain ⟨m, registry, hstart, hassemble⟩ := boot_ok h
  obtain ⟨m', registry', hstart', hassemble'⟩ := boot_ok h'
  obtain ⟨hm, rfl⟩ := Prod.mk.inj (hstart.symm.trans hstart')
  obtain rfl := Except.ok.inj hm
  obtain ⟨store, -, rfl⟩ := assemble_ok hassemble
  obtain ⟨store', -, rfl⟩ := assemble_ok hassemble'
  exact ⟨store', rfl⟩

/-! ### Runs that differ in the network -/

/-- Posts go differently from now on. -/
def Event.isAttempt : Event → Bool
  | .attempt _ => true
  | _ => false

/-- If posts go differently from now on, it is without ticks. -/
def Event.Quiet : Event → Prop
  | .attempt a => a.Quiet
  | _ => True

instance : DecidablePred Event.Quiet
  | .attempt a => inferInstanceAs (Decidable a.Quiet)
  | .iterate _ | .ticks _ | .trigger | .air _ | .failInternal _ | .failExternal _ | .setTime .. | .setDate .. =>
    .isTrue trivial

theorem orSelf_withoutNetwork (s : InMemory) (set : Except EntryError Clock) :
    (orSelf s (set.map fun clock => { s with session := { s.session with clock } })).withoutNetwork =
      orSelf s.withoutNetwork
        (set.map fun clock => { s.withoutNetwork with session := { s.session with clock } }) := by
  cases set <;> rfl

/-- What happens to a station happens to it without its network, too. -/
theorem step_withoutNetwork (h : s.attempt.Quiet) {e : Event} (he : e.isAttempt = false) :
    (s.step e).withoutNetwork = s.withoutNetwork.step e := by
  cases e with
  | iterate line => exact iterate_withoutNetwork h line
  | attempt a => cases he
  | ticks _ | trigger | air _ | failInternal _ | failExternal _ => rfl
  | setTime hour minute second => exact orSelf_withoutNetwork s _
  | setDate day month year => exact orSelf_withoutNetwork s _

theorem quiet_step (h : s.attempt.Quiet) {e : Event} (he : e.Quiet) : (s.step e).attempt.Quiet := by
  cases e with
  | iterate line =>
    have hiterate : (s.iterate line).attempt = s.attempt := by
      refine Eq.trans ?_ (attempt_iterateLocally s line)
      unfold iterate networkTask
      split <;> rfl
    show (s.iterate line).attempt.Quiet
    rw [hiterate]
    exact h
  | attempt a => exact he
  | ticks _ | trigger | air _ | failInternal _ | failExternal _ => exact h
  | setTime hour minute second =>
    obtain ⟨clock, hstep, -⟩ := step_setTime s hour minute second
    rw [hstep]
    exact h
  | setDate day month year =>
    obtain ⟨clock, hstep, -⟩ := step_setDate s day month year
    rw [hstep]
    exact h

theorem run_withoutNetwork (h : s.attempt.Quiet) {events : List Event} (hevents : ∀ e ∈ events, e.Quiet) :
    (s.run events).withoutNetwork = s.withoutNetwork.run (events.filter (!·.isAttempt)) := by
  induction events generalizing s with
  | nil => rfl
  | cons e events ih =>
    obtain ⟨he, hevents⟩ := List.forall_mem_cons.mp hevents
    have hrest := ih (quiet_step h he) hevents
    cases e with
    | attempt a => exact hrest
    | _ =>
      refine hrest.trans ?_
      rw [step_withoutNetwork h rfl]
      rfl

theorem filter_observersOf (uplink : Option Uplink) : (observersOf uplink).filter (· = .logger) = [.logger] := by
  cases uplink <;> rfl

theorem withoutNetwork_of_boot {config : Config} {equipment : Equipment} {internal : MemoryStore}
    {external : MemoryStore → MemoryStore} {enabled enabled' : Bool} {transport transport' : Option Attempt}
    (h : Station.boot { config with enabled } { equipment with transport } internal external = .ok s)
    (h' : Station.boot { config with enabled := enabled' } { equipment with transport := transport' } internal
      external = .ok t) : s.withoutNetwork = t.withoutNetwork := by
  obtain ⟨m, registry, hstart, hassemble⟩ := boot_ok h
  obtain ⟨m', registry', hstart', hassemble'⟩ := boot_ok h'
  obtain ⟨hm, rfl⟩ := Prod.mk.inj (hstart.symm.trans hstart')
  obtain rfl := Except.ok.inj hm
  obtain ⟨store, hmount, rfl⟩ := assemble_ok hassemble
  obtain ⟨store', hmount', rfl⟩ := assemble_ok hassemble'
  obtain ⟨-, rfl⟩ := Prod.mk.inj (hmount.symm.trans hmount')
  unfold withoutNetwork
  dsimp only
  rw [filter_observersOf, filter_observersOf]

theorem quiet_of_boot {config : Config} {equipment : Equipment} {internal : MemoryStore}
    {external : MemoryStore → MemoryStore} (h : Station.boot config equipment internal external = .ok s)
    (hquiet : ∀ a, equipment.transport = some a → a.Quiet) : s.attempt.Quiet := by
  obtain ⟨m, registry, -, hassemble⟩ := boot_ok h
  obtain ⟨store, -, rfl⟩ := assemble_ok hassemble
  dsimp only
  cases htransport : equipment.transport with
  | none => trivial
  | some a => exact hquiet a htransport

/-- The logger and the network do not interfere. Of two runs in which the same things happen, those that differ only
    in the external store, its contents and its failures, post the same and have the same sent, shown and stored
    inside; those that differ only in the network, whether there is one and how each post ends, keep the same files
    and show the same. -/
theorem logger_network_independent (config : Config) (equipment : Equipment) (internal : MemoryStore) :
    (∀ (external external' : MemoryStore → MemoryStore) (s s' : InMemory) (events events' : List Event),
      Station.boot config equipment internal external = .ok s →
      Station.boot config equipment internal external' = .ok s' →
      events.filter (!·.isFailExternal) = events'.filter (!·.isFailExternal) →
      let t := s.run events
      let t' := s'.run events'
      t'.traffic.posts = t.traffic.posts ∧ t'.uplink.map (·.lastSent) = t.uplink.map (·.lastSent) ∧
        t'.session.terminal.console = t.session.terminal.console ∧
        t'.session.mediator.store.files = t.session.mediator.store.files) ∧
    ∀ (external : MemoryStore → MemoryStore) (enabled enabled' : Bool) (transport transport' : Option Attempt)
      (s s' : InMemory) (events events' : List Event),
      Station.boot { config with enabled } { equipment with transport } internal external = .ok s →
      Station.boot { config with enabled := enabled' } { equipment with transport := transport' } internal external =
        .ok s' →
      (∀ a, transport = some a → a.Quiet) → (∀ a, transport' = some a → a.Quiet) →
      (∀ e ∈ events, e.Quiet) → (∀ e ∈ events', e.Quiet) →
      events.filter (!·.isAttempt) = events'.filter (!·.isAttempt) →
      let t := s.run events
      let t' := s'.run events'
      t'.logger.store.files = t.logger.store.files ∧
        t'.session.terminal.console = t.session.terminal.console ∧
        t'.session.mediator.store.files = t.session.mediator.store.files := by
  refine ⟨fun external external' s s' events events' h h' hsame => ?_,
    fun external enabled enabled' transport transport' s s' events events' h h' hq hq' hquiet hquiet' hsame => ?_⟩
  · intro t t'
    have ht := (SameInside.refl s').run events'
    rw [← hsame] at ht
    obtain ⟨store, hstore⟩ : SameInside t t' := ((sameInside_of_boot h h').run events).trans ht.symm
    rw [hstore]
    exact ⟨rfl, rfl, rfl, rfl⟩
  · intro t t'
    have ht : t.withoutNetwork = _ := run_withoutNetwork (quiet_of_boot h hq) hquiet
    have ht' : t'.withoutNetwork = _ := run_withoutNetwork (quiet_of_boot h' hq') hquiet'
    rw [← hsame, ← withoutNetwork_of_boot h h', ← ht] at ht'
    exact ⟨congrArg (·.logger.store.files) ht', congrArg (·.session.terminal.console) ht',
      congrArg (·.session.mediator.store.files) ht'⟩

/-- Two measurements with and without an external store that fails, and with a server that refuses them and without
    any. -/
theorem logger_network_independent_bench :
    (∃ s s' : InMemory, Station.boot .factory bench .empty (fun _ => .empty) = .ok s ∧
      Station.boot .factory bench .empty (fun _ => .withFile "a" [0]) = .ok s' ∧
      let t := s.run [.iterate none, .trigger, .iterate none]
      let t' := s'.run [.failExternal true, .iterate none, .trigger, .iterate none]
      t.traffic.posts.length = 2 ∧ t'.traffic.posts = t.traffic.posts ∧
        t'.uplink.map (·.lastSent) = t.uplink.map (·.lastSent) ∧
        t'.session.terminal.console = t.session.terminal.console ∧
        t'.session.mediator.store.files = t.session.mediator.store.files) ∧
    ∃ s s' : InMemory,
      Station.boot { Config.factory with enabled := true }
        { bench with transport := some (.started ⟨[0], 0, .completed 500⟩) } .empty (fun _ => .empty) = .ok s ∧
      Station.boot { Config.factory with enabled := false } { bench with transport := none } .empty
        (fun _ => .empty) = .ok s' ∧
      let t := s.run [.iterate none, .attempt (.refused (.connect "")), .ticks 60000, .iterate none]
      let t' := s'.run [.iterate none, .ticks 60000, .iterate none]
      t'.logger.store.files = t.logger.store.files ∧
        t'.session.terminal.console = t.session.terminal.console ∧
        t'.session.mediator.store.files = t.session.mediator.store.files := by
  obtain ⟨hstore, hnetwork⟩ := logger_network_independent .factory bench .empty
  refine ⟨?_, ?_⟩
  · obtain ⟨s, h⟩ := exists_boot_bench
    obtain ⟨s', h'⟩ := exists_boot .factory bench .empty (fun _ => .withFile "a" [0]) (by decide +kernel)
    refine ⟨s, s', h, h', ?_, hstore _ _ s s' _ _ h h' rfl⟩
    have hposts : (Station.boot .factory bench .empty (fun _ => .empty) : Except _ InMemory).toOption.map
        (fun s => (s.run [.iterate none, .trigger, .iterate none]).traffic.posts.length) = some 2 := by
      decide +kernel
    rw [h] at hposts
    exact Option.some.inj hposts
  · obtain ⟨s, h⟩ := exists_boot { Config.factory with enabled := true }
      { bench with transport := some (.started ⟨[0], 0, .completed 500⟩) } .empty (fun _ => .empty) (by decide +kernel)
    obtain ⟨s', h'⟩ := exists_boot { Config.factory with enabled := false } { bench with transport := none } .empty
      (fun _ => .empty) (by decide +kernel)
    exact ⟨s, s', h, h', hnetwork _ true false _ none s s' _ _ h h' (by decide) nofun (by decide) (by decide) rfl⟩

end Station
end FieldLogger
