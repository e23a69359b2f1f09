import FieldLogger.Proofs.Station.Coherence
import FieldLogger.Proofs.Terminal.InMemory

/-! Only saving changes what a station measures by (`run_configured_by_save`). The screens that show the record
    read its file over the record in memory; that changes nothing since memory and file agree (`Sound`), from
    the boot on and after every save, whether it succeeds or fails. -/

namespace FieldLogger

namespace Station

/-- Memory and file agree, what is edited can be stored, and the parts follow the record. -/
structure Sound (s : InMemory) : Prop where
  settled : s.session.mediator.Settled
  storable : Storable s.session.terminal.staged.name
  coherent : s.configuration.Coherent

/-! ### Every station that runs is sound -/

attribute [local irreducible] Session.typeLine

theorem sound_of_boot {config : Config} {equipment : Equipment} {internal : MemoryStore}
    {external : MemoryStore → MemoryStore} {s : InMemory}
    (h : Station.boot config equipment internal external = .ok s) : s.Sound := by
  obtain ⟨m, registry, hstart, hassemble⟩ := boot_ok h
  obtain ⟨hsettled, rfl⟩ := Registry.settled_of_start hstart
  have hcoherent := coherent_of_boot h
  obtain ⟨store, -, rfl⟩ := assemble_ok hassemble
  exact ⟨hsettled, hsettled.storable, hcoherent⟩

theorem sound_configurationTask {s : InMemory} (h : s.Sound) (line : Option String) :
    (s.configurationTask line).Sound := by
  refine ⟨?_, ?_, coherent_configurationTask h.coherent line⟩ <;> rw [session_configurationTask]
  · have hsettled : (s.session.typed line).mediator.Settled := by
      cases line with
      | none => exact h.settled
      | some line => exact Session.settled_typeLine h.settled h.storable line
    exact hsettled.of_same rfl rfl rfl rfl
  · cases line with
    | none => exact h.storable
    | some line => exact Session.storable_typeLine h.settled h.storable line

theorem sound_step {s : InMemory} (h : s.Sound) (e : Event) : (s.step e).Sound := by
  have hcoherent := coherent_step h.coherent e
  cases e with
  | iterate line =>
    have hsession := (configuration_iterate s line).2
    obtain ⟨hsettled, hstorable, -⟩ := sound_configurationTask h line
    rw [← hsession] at hsettled hstorable
    exact ⟨hsettled, hstorable, hcoherent⟩
  | ticks _ | trigger | air _ | attempt _ | failExternal _ => exact ⟨h.settled, h.storable, hcoherent⟩
  | failInternal fails => exact ⟨h.settled.of_same rfl rfl rfl rfl, h.storable, hcoherent⟩
  | setTime hour minute second =>
    obtain ⟨clock, hstep, -⟩ := step_setTime s hour minute second
    rw [hstep] at hcoherent ⊢
    exact ⟨h.settled, h.storable, hcoherent⟩
  | setDate day month year =>
    obtain ⟨clock, hstep, -⟩ := step_setDate s day month year
    rw [hstep] at hcoherent ⊢
    exact ⟨h.settled, h.storable, hcoherent⟩

theorem sound_run {s : InMemory} (h : s.Sound) (events : List Event) : (s.run events).Sound := by
  induction events generalizing s with
  | nil => exact h
  | cons e events ih => exact ih (sound_step h e)

/-! ### What does not save -/

theorem configuration_of_metadata {s t : InMemory} (hs : s.configuration.Coherent) (ht : t.configuration.Coherent)
    (hmeta : t.session.mediator.metadata = s.session.mediator.metadata) (htick : t.tickMs = s.tickMs) :
    t.configuration = s.configuration := by
  rw [ht, hs]
  show Configuration.following t.session.mediator.metadata t.tickMs = .following s.session.mediator.metadata s.tickMs
  rw [hmeta, htick]

/-- A round with no line, or with one that saves nothing or fails to, changes no configuration. -/
theorem configuration_iterate_of_not_saved {s : InMemory} (h : s.Sound) {line : Option String}
    (hline : ∀ typed, line = some typed → ¬s.session.SavesWell typed) :
    (s.iterate line).configuration = s.configuration := by
  refine configuration_of_metadata h.coherent (sound_step h (.iterate line)).coherent ?_ (tickMs_step s (.iterate line))
  have htyped : (s.session.typed line).mediator.metadata = s.session.mediator.metadata := by
    cases line with
    | none => rfl
    | some typed =>
      rw [Session.typed]
      exact Session.metadata_typeLine h.settled (hline typed rfl)
  show (s.iterate line).session.mediator.metadata = _
  rw [(configuration_iterate s line).2, session_configurationTask]
  exact htyped

theorem files_iterate_of_not_saves {s : InMemory} (h : s.Sound) {line : Option String}
    (hline : ∀ typed, line = some typed → ¬s.session.Saves typed) :
    (s.iterate line).session.mediator.store.files = s.session.mediator.store.files := by
  rw [(configuration_iterate s line).2, session_configurationTask]
  cases line with
  | none => rfl
  | some typed => exact (Session.typeLine_of_not_saves h.settled (hline typed rfl)).1

/-- No round of a run saves the edited copy with success. -/
def Unsaved (s : InMemory) (events : List Event) : Prop :=
  ∀ before typed after, events = before ++ .iterate (some typed) :: after →
    ¬(s.run before).session.SavesWell typed

theorem configuration_run_of_unsaved {s : InMemory} (h : s.Sound) {events : List Event} (hun : s.Unsaved events) :
    (s.run events).configuration = s.configuration := by
  induction events generalizing s with
  | nil => rfl
  | cons e events ih =>
    -- Soundness is what makes reading the file again harmless, so it goes along with the induction.
    have hrest : (s.step e).Unsaved events := fun before typed after hsplit =>
      hun (e :: before) typed after (congrArg (e :: ·) hsplit)
    refine (ih (sound_step h e) hrest).trans ?_
    by_cases hround : ∃ line, e = .iterate line
    · obtain ⟨line, rfl⟩ := hround
      refine configuration_iterate_of_not_saved h fun typed htyped => ?_
      obtain rfl := htyped
      exact hun [] typed events rfl
    · exact configuration_step hround

/-- Only saving changes the configuration. Wherever a run of a station that has booted has led to, a round that
    does not save changes neither a file of the internal store nor the record in memory nor what the logger and
    the measurement task took from it, and nothing of that changes in any later run before a save succeeds. -/
theorem run_configured_by_save {config : Config} {equipment : Equipment} {internal : MemoryStore}
    {external : MemoryStore → MemoryStore} {s : InMemory}
    (h : Station.boot config equipment internal external = .ok s) (events : List Event) :
    let t := s.run events
    (∀ line, (∀ typed, line = some typed → ¬t.session.Saves typed) →
      (t.iterate line).session.mediator.store.files = t.session.mediator.store.files ∧
        (t.iterate line).configuration = t.configuration) ∧
    ∀ later, t.Unsaved later → (t.run later).configuration = t.configuration := by
  intro t
  have hsound : t.Sound := sound_run (sound_of_boot h) events
  refine ⟨fun line hline => ⟨files_iterate_of_not_saves hsound hline, ?_⟩,
    fun later hun => configuration_run_of_unsaved hsound hun⟩
  exact configuration_iterate_of_not_saved hsound fun typed htyped hsaved => hline typed htyped hsaved.1

/-- A station that saved a name: looking at the record changes nothing, nor does a name that is not saved. -/
theorem run_configured_by_save_bench :
    ∃ s : InMemory, Station.boot .factory bench .empty (fun _ => .empty) = .ok s ∧
      let t := s.run [.iterate (some "c"), .iterate (some "n"), .iterate (some "st 1"), .iterate (some "s"),
        .iterate (some "b")]
      let later : List Event := [.iterate (some "c"), .iterate (some "n"), .iterate (some "st 2"), .ticks 60000,
        .iterate none]
      ((t.iterate (some "i")).session.mediator.store.files = t.session.mediator.store.files ∧
        (t.iterate (some "i")).configuration = t.configuration) ∧
      (t.run later).configuration = t.configuration := by
  obtain ⟨s, h⟩ := exists_boot_bench
  obtain ⟨hround, hlater⟩ := run_configured_by_save h
    [.iterate (some "c"), .iterate (some "n"), .iterate (some "st 1"), .iterate (some "s"), .iterate (some "b")]
  refine ⟨s, h, hround (some "i") ?_, hlater _ ?_⟩
  · rintro typed htyped ⟨-, hsave⟩
    obtain rfl := Option.some.inj htyped
    exact absurd hsave (by decide +kernel)
  · rintro before typed after hsplit ⟨⟨-, hsave⟩, -⟩
    have hmem : Event.iterate (some typed) ∈ before ++ .iterate (some typed) :: after :=
      List.mem_append_right _ List.mem_cons_self
    rw [← hsplit] at hmem
    simp only [List.mem_cons, Event.iterate.injEq, Option.some.injEq, reduceCtorEq, List.not_mem_nil,
      or_false] at hmem
    rcases hmem with rfl | rfl | rfl <;> exact absurd hsave (by decide +kernel)

end Station
end FieldLogger
