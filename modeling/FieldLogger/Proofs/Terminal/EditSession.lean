import FieldLogger.Proofs.Terminal.InMemory

/-! A whole visit to the configuration screen (`edit_session`): from the record that was read when the screen was
    entered to the one that is saved, each field has the last value that was accepted for it. What was asked for
    and not answered, refused, or typed while nothing was asked for changes nothing. -/

namespace FieldLogger

/-! ### What a visit accepts -/

/-- The edits that a list of lines makes, where `pending` is the field that waits at their start. A key that asks
    for a field makes it the one that waits; a value that is accepted ends the wait, and one that is refused
    does not. -/
def Edit.accepted : Option Field → List (Signal × Option String) → List Edit
  | _, [] => []
  | pending, (signal, payload) :: rest =>
    match signal, pending with
    | .key (.edit field), _ => accepted (some field) rest
    | .enter, some field =>
      match payload.bind (of? field) with
      | some e => e :: accepted none rest
      | none => accepted (some field) rest
    | _, _ => accepted pending rest

namespace Metadata

/-- The record with each field replaced by the last value that an edit gave it. -/
def withLast (m : Metadata) (edits : List Edit) : Metadata where
  name := (edits.filterMap fun | .name v => some v | _ => none).getLast?.getD m.name
  filePeriod := (edits.filterMap fun | .filePeriod v => some v | _ => none).getLast?.getD m.filePeriod
  transmission := (edits.filterMap fun | .transmission v => some v | _ => none).getLast?.getD m.transmission
  measurement := (edits.filterMap fun | .measurement v => some v | _ => none).getLast?.getD m.measurement
  report := (edits.filterMap fun | .report v => some v | _ => none).getLast?.getD m.report

theorem foldl_apply_eq_withLast (m : Metadata) (edits : List Edit) :
    edits.foldl (fun m e => e.apply m) m = m.withLast edits := by
  induction edits generalizing m with
  | nil => rfl
  | cons e edits ih =>
    rw [List.foldl_cons, ih]
    cases e <;> simp [withLast, Edit.apply, List.getLast?_cons]

end Metadata

namespace Session
variable {μ : Type} [Mediator μ]

/-- The session after lines were typed. -/
def typeLines (s : Session μ) (lines : List String) : Session μ := lines.foldl (fun s line => (s.typeLine line).2) s

@[simp] theorem typeLines_nil (s : Session μ) : s.typeLines [] = s := rfl

@[simp] theorem typeLines_cons (s : Session μ) (line : String) (lines : List String) :
    s.typeLines (line :: lines) = (s.typeLine line).2.typeLines lines := rfl

theorem typeLines_append (s : Session μ) (lines more : List String) :
    s.typeLines (lines ++ more) = (s.typeLines lines).typeLines more := List.foldl_append

/-- The session made these edits and stayed on the configuration screen. -/
structure Edits (s t : Session μ) (made : List Edit) : Prop where
  screen : t.terminal.screen = .deviceConfig
  mediator : t.mediator = s.mediator
  staged : t.terminal.staged = made.foldl (fun m e => e.apply m) s.terminal.staged
  accepted : ∀ e ∈ made, ∃ field input, Edit.of? field input = some e

theorem ofLine_cases (line : String) :
    (∃ k, Signal.ofLine line = (.key k, none)) ∨ ∃ payload, Signal.ofLine line = (.enter, payload) := by
  unfold Signal.ofLine
  dsimp only
  split
  · exact Or.inl ⟨_, rfl⟩
  · exact Or.inr ⟨_, rfl⟩

/-- A line on the configuration screen that neither leaves it nor saves makes at most one edit, the first that is
    accepted of it and of any lines after it. -/
theorem edits_typeLine {s : Session μ} (hscreen : s.terminal.screen = .deviceConfig) {line : String}
    (hback : (Signal.ofLine line).1 ≠ .key .back) (hsave : (Signal.ofLine line).1 ≠ .key .save) :
    ∃ made, Edits s (s.typeLine line).2 made ∧ ∀ rest, Edit.accepted s.terminal.pending (Signal.ofLine line :: rest) =
      made ++ Edit.accepted (s.typeLine line).2.terminal.pending rest := by
  obtain ⟨⟨screen, pending, staged, console⟩, clock, mediator⟩ := s
  obtain rfl : screen = .deviceConfig := hscreen
  unfold typeLine
  rcases ofLine_cases line with ⟨k, hline⟩ | ⟨payload, hline⟩ <;> rw [hline] at hback hsave ⊢
  · cases k with
    | info => exact ⟨[], ⟨rfl, rfl, rfl, nofun⟩, fun rest => by cases pending <;> rfl⟩
    | config => exact ⟨[], ⟨rfl, rfl, rfl, nofun⟩, fun rest => by cases pending <;> rfl⟩
    | back => exact absurd rfl hback
    | edit field => exact ⟨[], ⟨rfl, rfl, rfl, nofun⟩, fun rest => by cases pending <;> rfl⟩
    | save => exact absurd rfl hsave
  · cases pending with
    | none => exact ⟨[], ⟨rfl, rfl, rfl, nofun⟩, fun rest => rfl⟩
    | some field =>
      show ∃ made, Edits _ (enterField _ field payload) made ∧ ∀ rest, _ = made ++ Edit.accepted
        (enterField _ field payload).terminal.pending rest
      rcases enterField_effect ⟨⟨.deviceConfig, some field, staged, console⟩, clock, mediator⟩ field payload with
        ⟨hrefused, text, h⟩ | ⟨e, clock', text, haccepted, -, h⟩ <;> rw [h]
      · -- The field still waits, so the next value is taken for the same one.
        refine ⟨[], ⟨rfl, rfl, rfl, nofun⟩, fun rest => ?_⟩
        rw [Edit.accepted]
        dsimp only
        rw [hrefused]
        rfl
      · refine ⟨[e], ⟨rfl, rfl, rfl, ?_⟩, fun rest => ?_⟩
        · intro e' he'
          obtain rfl := List.mem_singleton.mp he'
          obtain ⟨input, -, hinput⟩ := Option.bind_eq_some_iff.mp haccepted
          exact ⟨field, input, hinput⟩
        · rw [Edit.accepted]
          dsimp only
          rw [haccepted]
          rfl

theorem edits_typeLines {s : Session μ} (hscreen : s.terminal.screen = .deviceConfig) {lines : List String}
    (hlines : ∀ line ∈ lines, (Signal.ofLine line).1 ≠ .key .back ∧ (Signal.ofLine line).1 ≠ .key .save) :
    Edits s (s.typeLines lines) (Edit.accepted s.terminal.pending (lines.map Signal.ofLine)) := by
  induction lines generalizing s with
  | nil =>
    rw [List.map_nil, Edit.accepted, typeLines_nil]
    exact ⟨hscreen, rfl, rfl, nofun⟩
  | cons line lines ih =>
    obtain ⟨hback, hsave⟩ := hlines line List.mem_cons_self
    obtain ⟨made, hmade, hrest⟩ := edits_typeLine hscreen hback hsave
    have hlater := ih hmade.screen fun l hl => hlines l (List.mem_cons_of_mem _ hl)
    rw [List.map_cons, hrest, typeLines_cons]
    refine ⟨hlater.screen, hlater.mediator.trans hmade.mediator, ?_, ?_⟩
    · rw [List.foldl_append, ← hmade.staged]
      exact hlater.staged
    · intro e he
      exact (List.mem_append.mp he).elim (hmade.accepted e) (hlater.accepted e)

/-- Entering the configuration screen starts from the record that is read. -/
theorem typeLine_config {s : Session μ} (hscreen : s.terminal.screen = .start) {line : String}
    (hline : (Signal.ofLine line).1 = .key .config) :
    (s.typeLine line).2.terminal.screen = .deviceConfig ∧ (s.typeLine line).2.terminal.pending = none ∧
      (s.typeLine line).2.terminal.staged = (reread? s.mediator).getD s.terminal.staged ∧
      (s.typeLine line).2.mediator = asked s.mediator (some .refresh) := by
  obtain ⟨⟨screen, pending, staged, console⟩, clock, mediator⟩ := s
  obtain rfl : screen = .start := hscreen
  unfold typeLine
  dsimp only
  rw [hline]
  obtain ⟨text, h⟩ := showConfig_eq ⟨⟨.deviceConfig, none, staged, console ++ Screen.clear⟩, clock, mediator⟩
  refine ⟨?_, ?_, ?_, ?_⟩
  · exact congrArg (·.terminal.screen) h
  · exact congrArg (·.terminal.pending) h
  · exact congrArg (·.terminal.staged) h
  · exact congrArg (·.mediator) h

/-! ### Saving what was edited -/

theorem typeLine_save {s : Session μ} (hscreen : s.terminal.screen = .deviceConfig) {line : String}
    (hline : (Signal.ofLine line).1 = .key .save) : (s.typeLine line).2 = s.save := by
  obtain ⟨⟨screen, pending, staged, console⟩, clock, mediator⟩ := s
  obtain rfl : screen = .deviceConfig := hscreen
  unfold typeLine
  dsimp only
  rw [hline]
  rfl

theorem isSuccess_of_report {s : Session μ}
    (h : s.save.terminal.console =
      s.terminal.console ++ Screen.lines ["Gravando configuração na memória...", "Configuração salva!"]) :
    (Mediator.notify s.mediator .terminal (.commit s.terminal.staged.toRecord)).1.isSuccess = true := by
  rw [save_eq] at h
  generalize (Mediator.notify s.mediator .terminal (.commit s.terminal.staged.toRecord)).1 = reply at h ⊢
  change s.terminal.console ++ ("Gravando configuração na memória..." ++ "\r\n") ++ (saveReport reply ++ "\r\n") = _
    at h
  rw [String.append_assoc, String.append_right_inj] at h
  unfold saveReport at h
  split at h
  · assumption
  · exact absurd h (by decide +kernel)

/-- Edits that were accepted leave a name that a save keeps as it is. -/
theorem name_foldl_apply {edits : List Edit} (h : ∀ e ∈ edits, ∃ field input, Edit.of? field input = some e)
    {m : Metadata} (hm : Storable m.name) (htrim : Text.trim m.name.toList = m.name.toList) :
    Storable (edits.foldl (fun m e => e.apply m) m).name ∧
      Text.trim (edits.foldl (fun m e => e.apply m) m).name.toList =
        (edits.foldl (fun m e => e.apply m) m).name.toList := by
  induction edits generalizing m with
  | nil => exact ⟨hm, htrim⟩
  | cons e edits ih =>
    obtain ⟨field, input, he⟩ := h e List.mem_cons_self
    exact ih (fun e' he' => h e' (List.mem_cons_of_mem _ he')) (Edit.storable_apply he hm)
      (Edit.trim_name_apply he htrim)

section Memory
variable {s : Session (Registry MemoryStore)}

-- A line is a long case split; what follows knows it by its effects only.
attribute [local irreducible] typeLine

/-- Until something is saved again, what was saved stays in memory and in the file. -/
theorem holds_typeLines {m : Metadata} (h : s.mediator.Holds m) (hs : Storable s.terminal.staged.name)
    {lines : List String}
    (hlines : ∀ before line after, lines = before ++ line :: after → ¬(s.typeLines before).Saves line) :
    (s.typeLines lines).mediator.Holds m := by
  induction lines generalizing s with
  | nil => exact h
  | cons line lines ih =>
    obtain ⟨hfiles, hmeta, hname⟩ := typeLine_of_not_saves h.settled (hlines [] line lines rfl)
    have hnext : (s.typeLine line).2.mediator.Holds m := by
      refine ⟨settled_typeLine h.settled hs line, hmeta.trans h.metadata, ?_⟩
      rw [hfiles, hname]
      exact h.file
    exact ih hnext (storable_typeLine h.settled hs line) fun before typed after hsplit =>
      hlines (line :: before) typed after (congrArg (line :: ·) hsplit)

/-- Entering the configuration screen of a registry in memory leaves it ready to store the record that was read. -/
theorem typeLine_config_memory {e : Metadata} {enter : String} (hreached : s.mediator.Reached)
    (hmounted : s.mediator.store.mounted = true) (hscreen : s.terminal.screen = .start)
    (henter : (Signal.ofLine enter).1 = .key .config) (hread : s.refresh.1 = some e) :
    (s.typeLine enter).2.terminal.staged = e ∧ Storable e.name ∧
      (s.typeLine enter).2.mediator.store.mounted = true ∧
      Storable (s.typeLine enter).2.mediator.metadata.name := by
  obtain ⟨-, -, hstaged, hmediator⟩ := typeLine_config hscreen henter
  rw [refresh_eq] at hread
  change reread? s.mediator = some e at hread
  rw [hread, Option.getD_some] at hstaged
  rw [asked_some, Registry.notify_refresh] at hmediator
  have hretrieve : s.mediator.retrieve = (.ok e, s.mediator.retrieve.2) :=
    Prod.ext (Registry.refreshed_iff.mp (reread?_eq_some.mp hread)) rfl
  obtain ⟨_, _, -, -, hr⟩ := Registry.retrieve_ok hretrieve
  obtain ⟨handle, hstore⟩ := Registry.retrieve_store hmounted
  have hname : Storable s.mediator.retrieve.2.metadata.name := hreached.retrieve.storable
  refine ⟨hstaged, ?_, ?_, ?_⟩
  · rw [hr] at hname
    exact hname
  · rw [hmediator, hstore]
    exact hmounted
  · rw [hmediator]
    exact hname

/-- The session is about to save a record that a save keeps as it is. -/
structure AboutToSave (s : Session (Registry MemoryStore)) (m : Metadata) : Prop where
  screen : s.terminal.screen = .deviceConfig
  staged : s.terminal.staged = m
  mounted : s.mediator.store.mounted = true
  inMemory : Storable s.mediator.metadata.name
  storable : Storable m.name
  trimmed : Text.trim m.name.toList = m.name.toList

/-- A visit to the configuration screen prepares the record that was read with the edits that were accepted. -/
theorem aboutToSave_of_visit {e : Metadata} {enter : String} {lines : List String} (hreached : s.mediator.Reached)
    (hmounted : s.mediator.store.mounted = true) (hscreen : s.terminal.screen = .start)
    (henter : (Signal.ofLine enter).1 = .key .config) (hread : s.refresh.1 = some e)
    (htrim : Text.trim e.name.toList = e.name.toList)
    (hlines : ∀ line ∈ lines, (Signal.ofLine line).1 ≠ .key .back ∧ (Signal.ofLine line).1 ≠ .key .save) :
    AboutToSave (s.typeLines (enter :: lines)) (e.withLast (Edit.accepted none (lines.map Signal.ofLine))) := by
  obtain ⟨hconfig, hpending, -, -⟩ := typeLine_config hscreen henter
  obtain ⟨hstaged, hname, hmounted', hmeta⟩ := typeLine_config_memory hreached hmounted hscreen henter hread
  have hedits := edits_typeLines hconfig hlines
  rw [hpending] at hedits
  obtain ⟨hs, htrim'⟩ := name_foldl_apply hedits.accepted hname htrim
  rw [Metadata.foldl_apply_eq_withLast] at hs htrim'
  have hmediator : (s.typeLines (enter :: lines)).mediator = (s.typeLine enter).2.mediator := hedits.mediator
  refine ⟨hedits.screen, ?_, ?_, ?_, hs, htrim'⟩
  · have hfold := hedits.staged
    rw [hstaged, Metadata.foldl_apply_eq_withLast] at hfold
    exact hfold
  · rw [hmediator]
    exact hmounted'
  · rw [hmediator]
    exact hmeta

/-- A save that is reported as one leaves the record in memory and in the file. -/
theorem holds_typeLine_save {m : Metadata} {save : String} (h : s.AboutToSave m)
    (hsave : (Signal.ofLine save).1 = .key .save)
    (hreport : (s.typeLine save).2.terminal.console =
      s.terminal.console ++ Screen.lines ["Gravando configuração na memória...", "Configuração salva!"]) :
    (s.typeLine save).2.mediator.Holds m ∧ (s.typeLine save).2.terminal.staged = m := by
  rw [typeLine_save h.screen hsave] at hreport ⊢
  have hok := isSuccess_of_report hreport
  rw [mediator_notify, h.staged] at hok
  have hholds := Registry.holds_of_success h.mounted h.inMemory h.storable h.trimmed hok
  rw [save_eq, asked_some, h.staged]
  dsimp only
  exact ⟨hholds, h.staged⟩

/-- A visit to the configuration screen that ends in a save stores the record that was read with each field
    replaced by the last value accepted for it, and that is what is read until something is saved again. -/
theorem edit_session {e : Metadata} {enter save : String} {lines : List String} (hreached : s.mediator.Reached)
    (hmounted : s.mediator.store.mounted = true) (hscreen : s.terminal.screen = .start)
    (henter : (Signal.ofLine enter).1 = .key .config) (hread : s.refresh.1 = some e)
    (htrim : Text.trim e.name.toList = e.name.toList)
    (hlines : ∀ line ∈ lines, (Signal.ofLine line).1 ≠ .key .back ∧ (Signal.ofLine line).1 ≠ .key .save)
    (hsave : (Signal.ofLine save).1 = .key .save)
    (hreport : (s.typeLines (enter :: lines ++ [save])).terminal.console =
      (s.typeLines (enter :: lines)).terminal.console ++
        Screen.lines ["Gravando configuração na memória...", "Configuração salva!"]) :
    let m := e.withLast (Edit.accepted none (lines.map Signal.ofLine))
    let t := s.typeLines (enter :: lines ++ [save])
    t.mediator.metadata = m ∧
      t.mediator.store.files.get? t.mediator.fileName = some (Utf8.encode (m.toRecord ++ "\n")) ∧
      ∀ later, (∀ before line after, later = before ++ line :: after → ¬(t.typeLines before).Saves line) →
        (t.typeLines later).refresh.1 = some m := by
  intro m
  have hvisit : AboutToSave (s.typeLines (enter :: lines)) m :=
    aboutToSave_of_visit hreached hmounted hscreen henter hread htrim hlines
  have hlast : s.typeLines (enter :: lines ++ [save]) = ((s.typeLines (enter :: lines)).typeLine save).2 :=
    typeLines_append s (enter :: lines) [save]
  rw [hlast] at hreport ⊢
  obtain ⟨hholds, hstaged⟩ := holds_typeLine_save hvisit hsave hreport
  intro t
  refine ⟨hholds.metadata, hholds.file, fun later hlater => ?_⟩
  have hstorable : Storable t.terminal.staged.name := by
    rw [hstaged]
    exact hvisit.storable
  have hkept : (t.typeLines later).mediator.Holds m := holds_typeLines hholds hstorable hlater
  rw [refresh_eq]
  exact reread?_eq_some.mpr (Registry.refreshed_iff.mpr hkept.retrieve)

end Memory

/-- A session that has not read its record yet. -/
def visitor : Session (Registry MemoryStore) where
  terminal := .ofMetadata .factory
  clock := ⟨⟨2023, 11, 4, by decide⟩, ⟨8, 15, 0, by decide⟩⟩
  mediator := .ofStore { MemoryStore.withFile "m" (Utf8.encode "st 1;0;5;6\n") with mounted := true } "m"

/-- What is typed in a visit: two names, a period that is too long and another one, and the time. -/
def visit : List String := ["7", "n", "st 2", "p", "99999", "", "20", "t", "12:00:00 1/2/2024", "n", " st 3 "]

theorem edit_session_visitor :
    let m : Metadata := ⟨"st 3", .daily, 20, 6, 1⟩
    let t := visitor.typeLines ("c" :: visit ++ ["s"])
    t.mediator.metadata = m ∧
      t.mediator.store.files.get? t.mediator.fileName = some (Utf8.encode (m.toRecord ++ "\n")) ∧
      (t.typeLines ["n", "st 4", "b", "i"]).refresh.1 = some m := by
  have hread : visitor.refresh.1 = some ⟨"st 1", .daily, 5, 6, 1⟩ := by decide +kernel
  have hlines : ∀ line ∈ visit, (Signal.ofLine line).1 ≠ .key .back ∧ (Signal.ofLine line).1 ≠ .key .save := by
    decide +kernel
  have hreport : (visitor.typeLines ("c" :: visit ++ ["s"])).terminal.console =
      (visitor.typeLines ("c" :: visit)).terminal.console ++
        Screen.lines ["Gravando configuração na memória...", "Configuração salva!"] := by decide +kernel
  have hresult : Metadata.withLast ⟨"st 1", .daily, 5, 6, 1⟩ (Edit.accepted none (visit.map Signal.ofLine)) =
      ⟨"st 3", .daily, 20, 6, 1⟩ := by decide +kernel
  obtain ⟨hmeta, hfile, hlater⟩ := edit_session (Registry.Reached.ofStore _ _) rfl rfl
    (by decide +kernel : (Signal.ofLine "c").1 = .key .config) hread (by decide +kernel) hlines
    (by decide +kernel : (Signal.ofLine "s").1 = .key .save) hreport
  rw [hresult] at hmeta hfile hlater
  refine ⟨hmeta, hfile, hlater _ ?_⟩
  rintro before line after hsplit ⟨-, hsaves⟩
  have hunsaved : ∀ line ∈ ["n", "st 4", "b", "i"], (Signal.ofLine line).1 ≠ .key .save := by decide +kernel
  refine hunsaved line ?_ hsaves
  rw [hsplit]
  exact List.mem_append_right _ List.mem_cons_self

end Session
end FieldLogger
