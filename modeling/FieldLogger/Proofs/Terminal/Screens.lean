import FieldLogger.Proofs.Terminal.Effects
import FieldLogger.Storage.MemoryStore

/-! The terminal as a state machine (`screens_follow_edges`), whoever sends it signals and whatever its mediator
    answers. Apart from starting over, only a transition changes the screen, along one of four edges. A field waits
    for a value on the configuration screen only, and a signal that is ignored changes what is shown at most. -/

namespace FieldLogger

/-- A mediator with the notices that it was given, and by whom. -/
structure Overheard (μ : Type) where
  mediator : μ
  heard : List (Component × Notice)
  deriving DecidableEq, Repr

instance {μ : Type} [Mediator μ] : Mediator (Overheard μ) where
  notify m c notice :=
    let (reply, mediator) := Mediator.notify m.mediator c notice
    (reply, ⟨mediator, m.heard ++ [(c, notice)]⟩)

namespace Session

/-- The ways from one screen to another. -/
inductive Edge : ScreenName → Signal → ScreenName → Prop where
  | info : Edge .start (.key .info) .deviceInfo
  | config : Edge .start (.key .config) .deviceConfig
  | backFromInfo : Edge .deviceInfo (.key .back) .start
  | backFromConfig : Edge .deviceConfig (.key .back) .start

theorem Edge.ne {here next : ScreenName} {signal : Signal} (h : Edge here signal next) : next ≠ here := by
  cases h <;> decide

variable {μ : Type}

/-- A field waits for a value on the configuration screen only. -/
def WaitsWhereEdited (s : Session μ) : Prop := s.terminal.pending ≠ none → s.terminal.screen = .deviceConfig

/-- The screen and the field that waits are the same. -/
def SamePlace (t s : Session μ) : Prop :=
  t.terminal.screen = s.terminal.screen ∧ t.terminal.pending = s.terminal.pending

/-- What a session becomes when it is given a signal, by the outcome. -/
inductive Answered (s : Session μ) (signal : Signal) : Outcome → Session μ → Prop where
  | ignored (console : String) :
      Answered s signal .ignored { s with terminal := { s.terminal with console } }
  | handled {s' : Session μ} (screen : s'.terminal.screen = s.terminal.screen)
      (waits : s'.terminal.pending ≠ none → s.terminal.pending ≠ none ∨ s.terminal.screen = .deviceConfig) :
      Answered s signal .handled s'
  | transition {s' : Session μ} (edge : Edge s.terminal.screen signal s'.terminal.screen)
      (pending : s'.terminal.pending = none) : Answered s signal .transition s'

namespace Answered

variable {s s' : Session μ} {signal : Signal} {outcome : Outcome}

theorem of_samePlace (signal : Signal) (h : SamePlace s' s) : Answered s signal .handled s' := by
  refine .handled h.1 fun hwaits => ?_
  rw [h.2] at hwaits
  exact Or.inl hwaits

/-- A screen that was come to along an edge shows itself and stays. -/
theorem of_entered {t : Session μ} (h : SamePlace s' t) (edge : Edge s.terminal.screen signal t.terminal.screen)
    (pending : t.terminal.pending = none) : Answered s signal .transition s' := by
  refine .transition ?_ (h.2.trans pending)
  rw [h.1]
  exact edge

theorem waitsWhereEdited (h : Answered s signal outcome s') (hs : s.WaitsWhereEdited) : s'.WaitsWhereEdited := by
  intro hwaits
  cases h with
  | ignored console => exact hs hwaits
  | handled screen waits => exact screen.trans ((waits hwaits).elim hs id)
  | transition edge pending => exact absurd pending hwaits

theorem moves_iff (h : Answered s signal outcome s') :
    s'.terminal.screen ≠ s.terminal.screen ↔ outcome = .transition := by
  cases h with
  | ignored console => simp
  | handled screen waits => simp [screen]
  | transition edge pending => simp [edge.ne]

theorem of_transition (h : Answered s signal .transition s') :
    Edge s.terminal.screen signal s'.terminal.screen ∧ s'.terminal.pending = none := by
  cases h with
  | transition edge pending => exact ⟨edge, pending⟩

theorem of_ignored (h : Answered s signal .ignored s') :
    ∃ console, s' = { s with terminal := { s.terminal with console } } := by
  cases h with
  | ignored console => exact ⟨console, rfl⟩

end Answered

/-! ### One signal -/

theorem answered_enter {s : Session μ} (hscreen : s.terminal.screen = .deviceConfig) (payload : Option String) :
    Answered s .enter (s.enter payload).1 (s.enter payload).2 := by
  unfold enter
  cases s.terminal.pending with
  | none => exact .ignored _
  | some field =>
    refine .handled ?_ fun _ => Or.inr hscreen
    dsimp only
    rcases enterField_effect s field payload with ⟨-, console, h⟩ | ⟨e, clock, console, -, -, h⟩ <;> rw [h]

variable [Mediator μ]

theorem samePlace_showInfo (s : Session μ) : SamePlace s.showInfo s := by
  obtain ⟨console, h⟩ := showInfo_eq s
  rw [h]
  exact ⟨rfl, rfl⟩

theorem samePlace_showConfig (s : Session μ) : SamePlace s.showConfig s := by
  obtain ⟨console, h⟩ := showConfig_eq s
  rw [h]
  exact ⟨rfl, rfl⟩

theorem handle_answered (s : Session μ) (signal : Signal) (payload : Option String) :
    Answered s signal (s.handle signal payload).1 (s.handle signal payload).2 := by
  obtain ⟨⟨screen, pending, staged, console⟩, clock, mediator⟩ := s
  cases screen with
  | start =>
    cases signal with
    | entry => exact .of_samePlace _ ⟨rfl, rfl⟩
    | leave => exact .handled rfl fun h => absurd rfl h
    | enter => exact .ignored console
    | key k =>
      cases k with
      | info => exact .of_entered (samePlace_showInfo _) .info rfl
      | config => exact .of_entered (samePlace_showConfig _) .config rfl
      | back | edit _ | save => exact .ignored console
  | deviceInfo =>
    cases signal with
    | entry => exact .of_samePlace _ (samePlace_showInfo _)
    | leave => exact .handled rfl fun h => absurd rfl h
    | enter => exact .ignored console
    | key k =>
      cases k with
      | back => exact .transition .backFromInfo rfl
      | info | config | edit _ | save => exact .ignored console
  | deviceConfig =>
    cases signal with
    | entry => exact .of_samePlace _ (samePlace_showConfig _)
    | leave => exact .handled rfl fun h => absurd rfl h
    | enter =>
      have hanswered := answered_enter (s := ⟨⟨.deviceConfig, pending, staged, console⟩, clock, mediator⟩) rfl payload
      cases pending <;> exact hanswered
    | key k =>
      cases k with
      | back => exact .transition .backFromConfig rfl
      | edit field => exact .handled rfl fun _ => Or.inr rfl
      | save => exact .of_samePlace _ ⟨rfl, rfl⟩
      | info | config => exact .ignored console

/-! ### Runs -/

/-- What can happen to a session. -/
inductive Call (μ : Type) where
  | init (screen : ScreenName)
  | handle (signal : Signal) (payload : Option String)
  /-- Others set the clock and deal with the mediator. -/
  | outside (clock : Clock) (mediator : μ)
  deriving DecidableEq, Repr

def call (s : Session μ) : Call μ → Session μ
  | .init screen => s.init screen
  | .handle signal payload => (s.handle signal payload).2
  | .outside clock mediator => { s with clock, mediator }

/-- The session after a run of calls. -/
def run (s : Session μ) (calls : List (Call μ)) : Session μ := calls.foldl call s

theorem waitsWhereEdited_call {s : Session μ} (h : s.WaitsWhereEdited) (c : Call μ) :
    (s.call c).WaitsWhereEdited := by
  cases c with
  | init screen => exact fun hwaits => absurd rfl hwaits
  | outside clock mediator => exact h
  | handle signal payload => exact (handle_answered s signal payload).waitsWhereEdited h

theorem waitsWhereEdited_run {s : Session μ} (h : s.WaitsWhereEdited) (calls : List (Call μ)) :
    (s.run calls).WaitsWhereEdited := by
  induction calls generalizing s with
  | nil => exact h
  | cons c calls ih => exact ih (waitsWhereEdited_call h c)

/-- Whatever a terminal has been through, a field waits on the configuration screen only; the screen changes just by
    a transition, along an edge and with no field waiting afterwards; and a signal that is ignored reaches no
    mediator and leaves the screen, the field that waits, the edited copy and the clock. -/
theorem screens_follow_edges (m : Metadata) (clock : Clock) (mediator : Overheard μ)
    (calls : List (Call (Overheard μ))) :
    let s : Session (Overheard μ) := run ⟨.ofMetadata m, clock, mediator⟩ calls
    (s.terminal.pending ≠ none → s.terminal.screen = .deviceConfig) ∧
    ∀ signal payload,
      let outcome := (s.handle signal payload).1
      let s' := (s.handle signal payload).2
      (s'.terminal.screen ≠ s.terminal.screen ↔ outcome = .transition) ∧
      (outcome = .transition →
        Edge s.terminal.screen signal s'.terminal.screen ∧ s'.terminal.pending = none) ∧
      (outcome = .ignored → s'.mediator.heard = s.mediator.heard ∧ s'.mediator = s.mediator ∧
        s'.terminal.screen = s.terminal.screen ∧ s'.terminal.pending = s.terminal.pending ∧
        s'.terminal.staged = s.terminal.staged ∧ s'.clock = s.clock) := by
  intro s
  refine ⟨waitsWhereEdited_run (fun hwaits => absurd rfl hwaits) calls, fun signal payload => ?_⟩
  intro outcome s'
  have hanswered : Answered s signal outcome s' := handle_answered s signal payload
  refine ⟨hanswered.moves_iff, fun htransition => ?_, fun hignored => ?_⟩
  · rw [htransition] at hanswered
    exact hanswered.of_transition
  · rw [hignored] at hanswered
    obtain ⟨console, h⟩ := hanswered.of_ignored
    rw [h]
    exact ⟨rfl, rfl, rfl, rfl, rfl, rfl⟩

/-- A name waits to be typed: a key of another screen is ignored, and leaving asks the mediator for nothing more. -/
example :
    let s : Session (Overheard (Registry MemoryStore)) :=
      run ⟨.ofMetadata .factory, ⟨⟨2022, 2, 28, by decide⟩, ⟨6, 15, 0, by decide⟩⟩, .ofStore .empty "metadata.txt", []⟩
        [.handle (.key .config) none, .handle (.key (.edit .name)) none]
    s.terminal.pending = some .name ∧ (s.handle (.key .info) none).1 = .ignored ∧
      (s.handle (.key .back) none).1 = .transition ∧ (s.handle (.key .back) none).2.terminal.pending = none ∧
      (s.handle (.key .back) none).2.mediator.heard = [(.terminal, .refresh)] := by decide +kernel

end Session
end FieldLogger
