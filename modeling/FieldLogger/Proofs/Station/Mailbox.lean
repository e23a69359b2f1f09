import FieldLogger.Proofs.Calendar.ClockTexts
import FieldLogger.Proofs.Pipeline.FanOut
import FieldLogger.Proofs.Station.Configuration

/-! No record of a station is too long for the mailbox (`records_fit`). The longest readings leave room for any time
    stamp that a clock can show, so a cycle always makes its record and tells it. How long a record becomes is a matter
    of the year alone: with a year in four digits it takes at most 82 bytes, and every other year makes a longer one. The
    clock of a station is at any time the one that it booted with, set some number of times. -/

namespace FieldLogger

/-! ### Records by the clock -/

namespace Clock

theorem size_timestamp (c : Clock) : Utf8.size c.timestamp.toList = c.timestamp.length :=
  Utf8.size_of_ascii fun _ => toNat_lt_of_mem_timestamp

/-- The years in four digits are those whose records never take more than 82 bytes. -/
theorem size_record_le_iff (c : Clock) :
    (∀ s : Sample, (s.record c.timestamp).utf8ByteSize ≤ 82) ↔ c.date.InFourDigits := by
  have hleast : 19 ≤ c.timestamp.length := by
    rw [timestamp, String.length_ofList, List.length_append, List.length_cons, length_dateChars, length_timeChars]
    have := le_length_yearChars c.date.year
    omega
  rw [← length_timestamp_eq_iff]
  constructor
  · intro h
    have hlongest := h Sample.longest
    rw [Sample.size_record_longest, size_timestamp] at hlongest
    omega
  · intro h s
    have hrecord := s.size_record_le_add c.timestamp
    rw [size_timestamp, h] at hrecord
    exact hrecord

theorem cycle_eq_ok {ι : Type} (p : Pipeline ι) {c : Clock} (h : c.InRange) (air : Sample) :
    (p.cycle c.timestamp air).1 = .ok (p.observers.map fun o => (o, (p.bank.read air).record c.timestamp)) := by
  rw [Pipeline.cycle_ok p (Nat.le_trans (Sample.size_record_le _ h) (by decide))]

theorem run_append (c : Clock) (settings more : List Setting) :
    c.run (settings ++ more) = (c.run settings).run more := List.foldl_append

theorem run_of_setClock {c c' : Clock} {dt : TimeAndDate} (h : Session.setClock c dt = (.ok (), c')) :
    c' = c.run [.date dt.day dt.month dt.year, .time dt.hour dt.minute dt.second] := by
  obtain ⟨dated, hdate, htime⟩ := Session.setClock_ok h
  simp only [run, List.foldl_cons, List.foldl_nil, Clock.set, attempt, hdate, htime, Except.toOption, Option.getD_some]

end Clock

/-! ### The clock of a station -/

namespace Station
variable {ι ε : Type} [ByteStore ι]

attribute [local irreducible] Session.typeLine

/-- A line sets the clock or leaves it as it is. -/
theorem clock_configurationTask (s : Station ι ε) (line : Option String) :
    ∃ settings, (s.configurationTask line).session.clock = s.session.clock.run settings := by
  rw [session_configurationTask]
  cases line with
  | none => exact ⟨[], rfl⟩
  | some line =>
    rcases s.session.typeLine_clock line with hsame | ⟨dt, hset⟩
    · exact ⟨[], hsame⟩
    · exact ⟨_, Clock.run_of_setClock hset⟩

variable [ByteStore ε]

/-- A station that was booted with a clock and went round any number of times. Between the rounds anything may have
    happened to it, except that the clock was never changed but by setting it. -/
inductive Reached (start : Clock) : Station ι ε → Prop where
  | booted {config : Config} {equipment : Equipment} {internal : ι} {external : ι → ε} {s : Station ι ε}
      (hclock : equipment.clock = start) (h : Station.boot config equipment internal external = .ok s) : Reached start s
  | round {s : Station ι ε} (h : Reached start s) (line : Option String) : Reached start (s.iterate line)
  | between {s t : Station ι ε} (h : Reached start s) (settings : List Clock.Setting)
      (hclock : t.session.clock = s.session.clock.run settings) : Reached start t

theorem clock_of_boot {config : Config} {equipment : Equipment} {internal : ι} {external : ι → ε} {s : Station ι ε}
    (h : Station.boot config equipment internal external = .ok s) : s.session.clock = equipment.clock := by
  obtain ⟨m, registry, -, hassemble⟩ := boot_ok h
  obtain ⟨store, -, rfl⟩ := assemble_ok hassemble
  rfl

theorem Reached.clock {start : Clock} {s : Station ι ε} (h : Reached start s) :
    ∃ settings, s.session.clock = start.run settings := by
  induction h with
  | booted hclock h => exact ⟨[], (clock_of_boot h).trans hclock⟩
  | @round s h line ih =>
    obtain ⟨settings, hs⟩ := ih
    obtain ⟨more, hmore⟩ := clock_configurationTask s line
    refine ⟨settings ++ more, ?_⟩
    rw [(configuration_iterate s line).2, hmore, hs, Clock.run_append]
  | between h more hclock ih =>
    obtain ⟨settings, hs⟩ := ih
    exact ⟨settings ++ more, by rw [hclock, hs, Clock.run_append]⟩

/-- A clock that was read from a text and then set in any way never makes a record of more than 85 bytes, so every
    cycle makes its record and tells it to every observer. None is longer than 82 bytes just if the year is in four
    digits, which it is if the text has no sign and from the first date that is set. The clock of a station that booted
    with the one that was read is such a clock in every round. -/
theorem records_fit {text : String} {start : Clock} (hstart : Clock.read? text = some start) :
    (∀ settings : List Clock.Setting,
      let c := start.run settings
      (∀ s : Sample, (s.record c.timestamp).utf8ByteSize ≤ 85) ∧
        ((∀ s : Sample, (s.record c.timestamp).utf8ByteSize ≤ 82) ↔ c.date.InFourDigits) ∧
        (c.date.InFourDigits ↔ start.date.InFourDigits ∨ ∃ s ∈ settings, s.SetsDate) ∧
        ∀ {κ : Type} (p : Pipeline κ) (air : Sample),
          (p.cycle c.timestamp air).1 = .ok (p.observers.map fun o => (o, (p.bank.read air).record c.timestamp))) ∧
      ('+' ∉ text.toList → '-' ∉ text.toList → start.date.InFourDigits) ∧
      ∀ {s : Station ι ε}, Reached start s → ∀ line,
        let t := s.configurationTask line
        ∃ settings, t.session.clock = start.run settings ∧
          (t.pipeline.cycle t.session.clock.timestamp t.air).1 =
            .ok (t.pipeline.observers.map fun o => (o, (t.pipeline.bank.read t.air).record t.session.clock.timestamp)) := by
  have hrange : ∀ settings, (start.run settings).InRange := Clock.inRange_run (Clock.inRange_of_read? hstart)
  refine ⟨fun settings => ⟨fun s => s.size_record_le (hrange settings), Clock.size_record_le_iff _,
    Clock.inFourDigits_run_iff start settings, fun p air => Clock.cycle_eq_ok p (hrange settings) air⟩,
    Clock.inFourDigits_of_no_sign hstart, fun {s} hs line => ?_⟩
  intro t
  obtain ⟨before, hbefore⟩ := hs.clock
  obtain ⟨now, hnow⟩ := clock_configurationTask s line
  have hclock : t.session.clock = start.run (before ++ now) := by rw [Clock.run_append, ← hbefore]; exact hnow
  refine ⟨before ++ now, hclock, Clock.cycle_eq_ok t.pipeline ?_ t.air⟩
  rw [hclock]
  exact hrange _

/-- In the farthest year that a text can name the longest record takes 85 bytes, and 82 once a date is set. -/
theorem records_fit_farthest_year :
    ∃ start, Clock.read? "31/12/+262142 23:59:60" = some start ∧
      (Sample.longest.record start.timestamp).utf8ByteSize = 85 ∧
      (∀ s : Sample, (s.record (start.run [.time 0 0 0, .date 29 2 2024]).timestamp).utf8ByteSize ≤ 82) ∧
      ∃ s : InMemory, Reached start s ∧ ∀ line, let t := s.configurationTask line
        ∃ calls, (t.pipeline.cycle t.session.clock.timestamp t.air).1 = .ok calls := by
  have hstart : Clock.read? "31/12/+262142 23:59:60" =
      some ⟨⟨262142, 12, 31, by decide⟩, ⟨23, 59, 60, by decide⟩⟩ := by decide +kernel
  obtain ⟨hclocks, -, hstations⟩ := records_fit hstart (ι := MemoryStore) (ε := MemoryStore)
  obtain ⟨-, hfits, hfour, -⟩ := hclocks [.time 0 0 0, .date 29 2 2024]
  have hset : (Clock.Setting.date 29 2 2024).SetsDate := ⟨by decide, by decide⟩
  obtain ⟨s, hboot⟩ := exists_boot .factory
    { bench with clock := ⟨⟨262142, 12, 31, by decide⟩, ⟨23, 59, 60, by decide⟩⟩ } .empty (fun _ => .empty)
    (by decide +kernel)
  have hreached := (Reached.booted rfl hboot).round none
  refine ⟨_, hstart, ?_, hfits.mpr (hfour.mpr (Or.inr ⟨_, by decide, hset⟩)), _, hreached, fun line => ?_⟩
  · rw [Sample.size_record_longest]
    decide +kernel
  · obtain ⟨-, -, hcycle⟩ := hstations hreached line
    exact ⟨_, hcycle⟩

/-- A text can start the clock in a year that makes a record of more than 82 bytes. -/
theorem signed_year_record_too_long :
    ∃ start, Clock.read? "01/01/+10000 00:00:00" = some start ∧
      (Sample.longest.record start.timestamp).utf8ByteSize = 84 := by
  refine ⟨⟨⟨10000, 1, 1, by decide⟩, ⟨0, 0, 0, by decide⟩⟩, by decide +kernel, ?_⟩
  rw [Sample.size_record_longest]
  decide +kernel

end Station
end FieldLogger
