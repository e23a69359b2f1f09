import FieldLogger.Proofs.Terminal.Edits

/-! What a signal does to a session (`handle_effect`). It asks the mediator for one thing at most: to read the
    record when a screen that shows it is entered, or to save the edited copy. Otherwise it changes what is
    shown, or makes an edit. -/

namespace FieldLogger
namespace Session
variable {μ : Type}

/-! ### Requests -/

/-- What a session asks of its mediator when it gets a signal. -/
def request (s : Session μ) (signal : Signal) : Option Notice :=
  match s.terminal.screen, signal with
  | .start, .key .info => some .refresh
  | .start, .key .config => some .refresh
  | .deviceInfo, .entry => some .refresh
  | .deviceConfig, .entry => some .refresh
  | .deviceConfig, .key .save => some (.commit s.terminal.staged.toRecord)
  | _, _ => none

theorem request_cases (s : Session μ) (signal : Signal) :
    s.request signal = none ∨ s.request signal = some .refresh ∨
      (s.request signal = some (.commit s.terminal.staged.toRecord) ∧ s.terminal.screen = .deviceConfig ∧
        signal = .key .save) := by
  unfold request
  split
  · exact Or.inr (Or.inl rfl)
  · exact Or.inr (Or.inl rfl)
  · exact Or.inr (Or.inl rfl)
  · exact Or.inr (Or.inl rfl)
  · rename_i hscreen
    exact Or.inr (Or.inr ⟨rfl, hscreen, rfl⟩)
  · exact Or.inl rfl

variable [Mediator μ]

/-- A mediator after it was asked, if it was. -/
def asked (m : μ) : Option Notice → μ
  | none => m
  | some notice => (Mediator.notify m .terminal notice).2

theorem ask_eq (s : Session μ) (notice : Notice) :
    s.ask notice =
      ((Mediator.notify s.mediator .terminal notice).1, { s with mediator := asked s.mediator (some notice) }) := rfl

/-- The record that a mediator answers with when it is asked to read it again. -/
def reread? (m : μ) : Option Metadata :=
  match (Mediator.notify m .terminal .refresh).1 with
  | .refreshed record => some record
  | _ => none

theorem reread?_eq_some {m : μ} {record : Metadata} :
    reread? m = some record ↔ (Mediator.notify m .terminal .refresh).1 = .refreshed record := by
  unfold reread?
  cases (Mediator.notify m .terminal .refresh).1 <;> simp

theorem refresh_eq (s : Session μ) :
    s.refresh = (reread? s.mediator, { s with mediator := asked s.mediator (some .refresh) }) := by
  show _ = (_, { s with mediator := (Mediator.notify s.mediator .terminal .refresh).2 })
  unfold refresh ask reread?
  cases Mediator.notify s.mediator .terminal .refresh with
  | mk reply mediator => cases reply <;> rfl

theorem showInfo_eq (s : Session μ) :
    ∃ console, s.showInfo =
      { s with mediator := asked s.mediator (some .refresh), terminal := { s.terminal with console } } := by
  unfold showInfo
  rw [refresh_eq]
  cases reread? s.mediator with
  | none => exact ⟨_, rfl⟩
  | some m => exact ⟨_, rfl⟩

theorem showConfig_eq (s : Session μ) :
    ∃ console, s.showConfig =
      { s with
        mediator := asked s.mediator (some .refresh)
        terminal := { s.terminal with staged := (reread? s.mediator).getD s.terminal.staged, console } } := by
  unfold showConfig
  rw [refresh_eq]
  cases reread? s.mediator with
  | none => exact ⟨_, rfl⟩
  | some m => exact ⟨_, rfl⟩

/-- What is reported once the edited copy was handed over. -/
def saveReport (reply : Reply) : String :=
  if reply.isSuccess then "Configuração salva!" else "Erro ao gravar na memória"

theorem save_eq (s : Session μ) :
    s.save =
      { s with
        mediator := asked s.mediator (some (.commit s.terminal.staged.toRecord))
        terminal := (s.terminal.say "Gravando configuração na memória...").say
          (saveReport (Mediator.notify s.mediator .terminal (.commit s.terminal.staged.toRecord)).1) } := rfl

/-! ### Effects -/

/-- What a signal does to the record being edited, to the clock and to the mediator. -/
inductive Effect (s : Session μ) (signal : Signal) (payload : Option String) (s' : Session μ) : Prop where
  /-- Only what is shown changes. -/
  | shown (nothing : s.request signal = none) (staged : s'.terminal.staged = s.terminal.staged)
      (clock : s'.clock = s.clock) (mediator : s'.mediator = s.mediator)
  /-- A screen that shows the record is entered; the one for editing starts from what was read. -/
  | refreshed (reads : s.request signal = some .refresh)
      (staged : s'.terminal.staged = s.terminal.staged ∨
        s'.terminal.staged = (reread? s.mediator).getD s.terminal.staged)
      (clock : s'.clock = s.clock) (mediator : s'.mediator = asked s.mediator (some .refresh))
  /-- The edited copy is handed over. -/
  | saved (saves : s.request signal = some (.commit s.terminal.staged.toRecord))
      (staged : s'.terminal.staged = s.terminal.staged) (clock : s'.clock = s.clock)
      (mediator : s'.mediator = asked s.mediator (some (.commit s.terminal.staged.toRecord)))
  /-- A value is taken. -/
  | edited (nothing : s.request signal = none) {field : Field} {input : String} {e : Edit}
      (accepted : Edit.of? field input = some e) (staged : s'.terminal.staged = e.apply s.terminal.staged)
      (clock : s'.clock = s.clock ∨ ∃ dt, setClock s.clock dt = (.ok (), s'.clock)) (mediator : s'.mediator = s.mediator)

/-- Two sessions that differ at most in what they show. -/
def Alike (t s : Session μ) : Prop :=
  t.terminal.staged = s.terminal.staged ∧ t.clock = s.clock ∧ t.mediator = s.mediator

theorem effect_showInfo {s t : Session μ} {signal : Signal} {payload : Option String}
    (reads : s.request signal = some .refresh) (ht : Alike t s) : Effect s signal payload t.showInfo := by
  obtain ⟨hstaged, hclock, hmediator⟩ := ht
  obtain ⟨console, h⟩ := showInfo_eq t
  rw [h]
  exact .refreshed reads (Or.inl hstaged) hclock (hmediator ▸ rfl)

theorem effect_showConfig {s t : Session μ} {signal : Signal} {payload : Option String}
    (reads : s.request signal = some .refresh) (ht : Alike t s) : Effect s signal payload t.showConfig := by
  obtain ⟨hstaged, hclock, hmediator⟩ := ht
  obtain ⟨console, h⟩ := showConfig_eq t
  rw [h]
  exact .refreshed reads (Or.inr (hmediator ▸ hstaged ▸ rfl)) hclock (hmediator ▸ rfl)

theorem effect_enter {s : Session μ} (payload : Option String) (nothing : s.request .enter = none) :
    Effect s .enter payload (s.enter payload).2 := by
  unfold enter
  cases s.terminal.pending with
  | none => exact .shown nothing rfl rfl rfl
  | some field =>
    dsimp only
    rcases enterField_effect s field payload with ⟨-, console, h⟩ | ⟨e, clock, console, he, hclock, h⟩ <;> rw [h]
    · exact .shown nothing rfl rfl rfl
    · obtain ⟨input, -, he⟩ := Option.bind_eq_some_iff.mp he
      exact .edited nothing he rfl hclock rfl

/-- A signal has one of four effects. -/
theorem handle_effect (s : Session μ) (signal : Signal) (payload : Option String) :
    Effect s signal payload (s.handle signal payload).2 := by
  obtain ⟨⟨screen, pending, staged, console⟩, clock, mediator⟩ := s
  cases screen with
  | start =>
    cases signal with
    | entry | leave | enter => exact .shown rfl rfl rfl rfl
    | key k =>
      cases k with
      | info => exact effect_showInfo rfl ⟨rfl, rfl, rfl⟩
      | config => exact effect_showConfig rfl ⟨rfl, rfl, rfl⟩
      | back | edit _ | save => exact .shown rfl rfl rfl rfl
  | deviceInfo =>
    cases signal with
    | entry => exact effect_showInfo rfl ⟨rfl, rfl, rfl⟩
    | leave | enter => exact .shown rfl rfl rfl rfl
    | key k => cases k <;> exact .shown rfl rfl rfl rfl
  | deviceConfig =>
    cases signal with
    | entry => exact effect_showConfig rfl ⟨rfl, rfl, rfl⟩
    | leave => exact .shown rfl rfl rfl rfl
    | enter =>
      have heffect := effect_enter (s := ⟨⟨.deviceConfig, pending, staged, console⟩, clock, mediator⟩) payload rfl
      cases pending <;> exact heffect
    | key k =>
      cases k with
      | save => exact .saved rfl rfl rfl rfl
      | info | config | back | edit _ => exact .shown rfl rfl rfl rfl

/-! ### What every signal keeps -/

/-- A signal does to the mediator what the terminal asks of it, and nothing else. -/
theorem handle_mediator (s : Session μ) (signal : Signal) (payload : Option String) :
    (s.handle signal payload).2.mediator = asked s.mediator (s.request signal) := by
  cases handle_effect s signal payload with
  | shown nothing _ _ mediator => rw [nothing, mediator, asked]
  | refreshed reads _ _ mediator => rw [reads, mediator]
  | saved saves _ _ mediator => rw [saves, mediator]
  | edited nothing _ _ _ mediator => rw [nothing, mediator, asked]

theorem handle_clock (s : Session μ) (signal : Signal) (payload : Option String) :
    (s.handle signal payload).2.clock = s.clock ∨
      ∃ dt, setClock s.clock dt = (.ok (), (s.handle signal payload).2.clock) := by
  cases handle_effect s signal payload with
  | shown _ _ clock _ => exact Or.inl clock
  | refreshed _ _ clock _ => exact Or.inl clock
  | saved _ _ clock _ => exact Or.inl clock
  | edited _ _ _ clock _ => exact clock

theorem typeLine_eq (s : Session μ) (line : String) :
    s.typeLine line = s.handle (Signal.ofLine line).1 (Signal.ofLine line).2 := by rw [typeLine]

theorem typeLine_mediator (s : Session μ) (line : String) :
    (s.typeLine line).2.mediator = asked s.mediator (s.request (Signal.ofLine line).1) := by
  rw [typeLine_eq, handle_mediator]

theorem typeLine_clock (s : Session μ) (line : String) :
    (s.typeLine line).2.clock = s.clock ∨ ∃ dt, setClock s.clock dt = (.ok (), (s.typeLine line).2.clock) := by
  rw [typeLine_eq]
  exact handle_clock s (Signal.ofLine line).1 (Signal.ofLine line).2

theorem storable_handle {s : Session μ} (signal : Signal) (payload : Option String)
    (hs : Storable s.terminal.staged.name) (hr : ∀ m, reread? s.mediator = some m → Storable m.name) :
    Storable (s.handle signal payload).2.terminal.staged.name := by
  cases handle_effect s signal payload with
  | shown _ staged _ _ => exact staged ▸ hs
  | refreshed _ staged _ _ =>
    rcases staged with staged | staged <;> rw [staged]
    · exact hs
    · cases hm : reread? s.mediator with
      | none => exact hs
      | some m => exact hr m hm
  | saved _ staged _ _ => exact staged ▸ hs
  | edited _ accepted staged _ _ => exact staged ▸ Edit.storable_apply accepted hs

end Session
end FieldLogger
