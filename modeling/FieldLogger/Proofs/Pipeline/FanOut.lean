import Mathlib.Data.List.Induction
import FieldLogger.Pipeline

/-! What the observers of a pipeline are told in a run of registrations, measurements, notifications and takes
    (`fan_out`). The observers are the first ten that were registered. Each notification tells every one of them once, in
    that order, of the record in the mailbox, and a record that is too long is told to nobody. A slot among the observers
    holds the last record that it was told of since it was last taken. -/

namespace FieldLogger

/-! ### Cycles -/

namespace Pipeline

/-- A measurement makes one record, of which every observer is told unless it is too long. -/
theorem cycle_eq {ι : Type} (p : Pipeline ι) (timestamp : String) (air : Sample) :
    p.cycle timestamp air =
      let record := (p.bank.read air).record timestamp
      if maxRecordBytes < record.utf8ByteSize then
        (.error (.recordTooLong record.utf8ByteSize), p.measure timestamp air)
      else (.ok (p.observers.map fun o => (o, record)), { p.measure timestamp air with mailbox := some record }) := by
  unfold cycle format
  dsimp only [measure]
  by_cases h : maxRecordBytes < ((p.bank.read air).record timestamp).utf8ByteSize
  · rw [if_pos h, if_pos h]
  · rw [if_neg h, if_neg h]
    rfl

theorem cycle_ok {ι : Type} (p : Pipeline ι) {timestamp : String} {air : Sample}
    (h : ((p.bank.read air).record timestamp).utf8ByteSize ≤ maxRecordBytes) :
    p.cycle timestamp air =
      (.ok (p.observers.map fun o => (o, (p.bank.read air).record timestamp)),
        { p with
          timestamp
          sample := p.bank.read air
          mailbox := some ((p.bank.read air).record timestamp) }) := by
  rw [cycle_eq]
  dsimp only
  rw [if_neg (by omega)]
  rfl

end Pipeline

/-! ### Slots in a row -/

namespace SlotRow

def toldTo (i : Nat) (calls : List (Nat × String)) : List String :=
  calls.filterMap fun call => if call.1 = i then some call.2 else none

theorem toldTo_append (i : Nat) (calls more : List (Nat × String)) :
    toldTo i (calls ++ more) = toldTo i calls ++ toldTo i more := List.filterMap_append

theorem slot_modify {r : SlotRow} {i : Nat} (hi : i < r.slots.length) (j : Nat) (f : Slot → Slot) :
    slot ⟨r.slots.modify j f⟩ i = if j = i then f (r.slot i) else r.slot i := by
  unfold slot
  rw [List.getD_eq_getElem?_getD, List.getD_eq_getElem?_getD, List.getElem?_modify, List.getElem?_eq_getElem hi]
  rfl

theorem deliver_concat (r : SlotRow) (calls : List (Nat × String)) (call : Nat × String) :
    r.deliver (calls ++ [call]) = ⟨(r.deliver calls).slots.modify call.1 (·.put call.2)⟩ := by
  rw [deliver, List.foldl_append]
  rfl

theorem length_deliver (r : SlotRow) (calls : List (Nat × String)) :
    (r.deliver calls).slots.length = r.slots.length := by
  induction calls using List.reverseRecOn with
  | nil => rfl
  | append_singleton calls call ih => rw [deliver_concat, List.length_modify, ih]

theorem pending_deliver {r : SlotRow} {i : Nat} (hi : i < r.slots.length) (calls : List (Nat × String)) :
    ((r.deliver calls).slot i).pending = (toldTo i calls).getLast?.or (r.slot i).pending := by
  induction calls using List.reverseRecOn with
  | nil => rfl
  | append_singleton calls call ih =>
    rw [deliver_concat, slot_modify (by rwa [length_deliver]), toldTo_append]
    by_cases hcall : call.1 = i
    · have hlast : toldTo i [call] = [call.2] := by simp [toldTo, hcall]
      rw [if_pos hcall, hlast, List.getLast?_concat, Option.some_or]
      rfl
    · have hnone : toldTo i [call] = [] := by simp [toldTo, hcall]
      rw [if_neg hcall, ih, hnone, List.append_nil]

end SlotRow

/-! ### A board of slots -/

/-- A pipeline whose observers are numbered. Those whose number is a position in the row are the slots there; the others
    keep nothing. -/
structure Board where
  pipeline : Pipeline Nat
  slots : SlotRow
  deriving DecidableEq, Repr

namespace Board

inductive Event where
  | observe (i : Nat)
  | measure (timestamp : String) (air : Sample)
  | format
  | notify
  | cycle (timestamp : String) (air : Sample)
  | take (i : Nat)
  deriving DecidableEq, Repr

inductive Answer where
  | done
  | refused (e : PipelineError)
  | formatted (record : String)
  | told (count : Nat)
  | taken (record : Option String)
  deriving DecidableEq, Repr

/-- The answer to an event, the observers that it called, each with its record, and what is left. -/
structure Outcome where
  answer : Answer
  calls : List (Nat × String)
  board : Board
  deriving DecidableEq, Repr

def act (b : Board) : Event → Outcome
  | .observe i =>
    match b.pipeline.observe i with
    | .error e => ⟨.refused e, [], b⟩
    | .ok pipeline => ⟨.done, [], { b with pipeline }⟩
  | .measure timestamp air => ⟨.done, [], { b with pipeline := b.pipeline.measure timestamp air }⟩
  | .format =>
    match b.pipeline.format with
    | .error e => ⟨.refused e, [], b⟩
    | .ok (record, pipeline) => ⟨.formatted record, [], { b with pipeline }⟩
  | .notify =>
    let calls := b.pipeline.deliveries
    ⟨.told calls.length, calls, { b with slots := b.slots.deliver calls }⟩
  | .cycle timestamp air =>
    match b.pipeline.cycle timestamp air with
    | (.error e, pipeline) => ⟨.refused e, [], { b with pipeline }⟩
    | (.ok calls, pipeline) => ⟨.told calls.length, calls, ⟨pipeline, b.slots.deliver calls⟩⟩
  | .take i =>
    let (record, slots) := b.slots.take i
    ⟨.taken record, [], { b with slots }⟩

def step (b : Board) (e : Event) : Board := (b.act e).board

def run (b : Board) (events : List Event) : Board := events.foldl step b

def calls : Board → List Event → List (Nat × String)
  | _, [] => []
  | b, e :: events => (b.act e).calls ++ (b.step e).calls events

/-- A pipeline that has not measured, and so many empty slots of which none is registered. -/
def start (bank : SensorBank) (slots : Nat) : Board := ⟨.ofBank bank, ⟨List.replicate slots .empty⟩⟩

def registrations (events : List Event) : List Nat :=
  events.filterMap fun | .observe i => some i | _ => none

/-- In a run of `before` and then `after`, the latter is what follows the last take of a slot, or the whole run if there
    is none. -/
def SinceTaken (i : Nat) (before after : List Event) : Prop :=
  (before = [] ∨ ∃ earlier, before = earlier ++ [.take i]) ∧ .take i ∉ after

theorem run_concat (b : Board) (events : List Event) (e : Event) : b.run (events ++ [e]) = (b.run events).step e := by
  rw [run, List.foldl_append]
  rfl

theorem calls_concat (b : Board) (events : List Event) (e : Event) :
    b.calls (events ++ [e]) = b.calls events ++ ((b.run events).act e).calls := by
  induction events generalizing b with
  | nil => simp [calls, run]
  | cons e' events ih =>
    rw [List.cons_append, calls, calls, ih, List.append_assoc]
    rfl

/-! ### What one event does -/

/-- How an event ends. The slots after calls are left open here: what they hold is a matter of the whole run. -/
inductive Acted (b : Board) : Event → Outcome → Prop where
  | registered {i : Nat} (h : b.pipeline.observers.length < Pipeline.maxObservers) :
    Acted b (.observe i) ⟨.done, [], { b with pipeline := { b.pipeline with observers := b.pipeline.observers ++ [i] } }⟩
  | full {i : Nat} (h : Pipeline.maxObservers ≤ b.pipeline.observers.length) :
    Acted b (.observe i) ⟨.refused .observerCapacity, [], b⟩
  | measured {timestamp : String} {air : Sample} :
    Acted b (.measure timestamp air)
      ⟨.done, [], { b with pipeline := { b.pipeline with timestamp, sample := b.pipeline.bank.read air } }⟩
  | formatted {record : String} (hrecord : b.pipeline.sample.record b.pipeline.timestamp = record)
      (h : record.utf8ByteSize ≤ Pipeline.maxRecordBytes) :
    Acted b .format ⟨.formatted record, [], { b with pipeline := { b.pipeline with mailbox := some record } }⟩
  | formatTooLong {record : String} (hrecord : b.pipeline.sample.record b.pipeline.timestamp = record)
      (h : Pipeline.maxRecordBytes < record.utf8ByteSize) :
    Acted b .format ⟨.refused (.recordTooLong record.utf8ByteSize), [], b⟩
  | told {record : String} {slots : SlotRow} (h : b.pipeline.mailbox = some record) :
    Acted b .notify
      ⟨.told b.pipeline.observers.length, b.pipeline.observers.map fun i => (i, record), { b with slots }⟩
  | nobody (h : b.pipeline.mailbox = none) : Acted b .notify ⟨.told 0, [], b⟩
  | cycled {timestamp : String} {air : Sample} {record : String} {slots : SlotRow}
      (hrecord : (b.pipeline.bank.read air).record timestamp = record)
      (h : record.utf8ByteSize ≤ Pipeline.maxRecordBytes) :
    Acted b (.cycle timestamp air)
      ⟨.told b.pipeline.observers.length, b.pipeline.observers.map fun i => (i, record),
        ⟨{ b.pipeline with timestamp, sample := b.pipeline.bank.read air, mailbox := some record }, slots⟩⟩
  | cycleTooLong {timestamp : String} {air : Sample} {record : String}
      (hrecord : (b.pipeline.bank.read air).record timestamp = record)
      (h : Pipeline.maxRecordBytes < record.utf8ByteSize) :
    Acted b (.cycle timestamp air)
      ⟨.refused (.recordTooLong record.utf8ByteSize), [],
        { b with pipeline := { b.pipeline with timestamp, sample := b.pipeline.bank.read air } }⟩
  | taken {i : Nat} {slots : SlotRow} : Acted b (.take i) ⟨.taken (b.slots.slot i).pending, [], { b with slots }⟩

theorem acted_act (b : Board) (e : Event) : Acted b e (b.act e) := by
  cases e with
  | observe i =>
    rw [act, Pipeline.observe]
    by_cases h : Pipeline.maxObservers ≤ b.pipeline.observers.length
    · rw [if_pos h]
      exact .full h
    · rw [if_neg h]
      exact .registered (Nat.lt_of_not_le h)
  | measure timestamp air => exact .measured
  | format =>
    rw [act, Pipeline.format]
    by_cases h : Pipeline.maxRecordBytes < (b.pipeline.sample.record b.pipeline.timestamp).utf8ByteSize
    · rw [if_pos h]
      exact .formatTooLong rfl h
    · rw [if_neg h]
      exact .formatted rfl (Nat.le_of_not_lt h)
  | notify =>
    rw [act, Pipeline.deliveries]
    cases h : b.pipeline.mailbox with
    | none => exact .nobody h
    | some record =>
      dsimp only
      rw [List.length_map]
      exact .told h
  | cycle timestamp air =>
    rw [act, Pipeline.cycle_eq]
    dsimp only
    by_cases h : Pipeline.maxRecordBytes < ((b.pipeline.bank.read air).record timestamp).utf8ByteSize
    · rw [if_pos h]
      exact .cycleTooLong rfl h
    · rw [if_neg h]
      dsimp only
      rw [List.length_map]
      exact .cycled rfl (Nat.le_of_not_lt h)
  | take i => exact .taken

/-- Only calls put anything into a slot, and only a take takes anything out. -/
theorem slots_step (b : Board) {e : Event} (h : ∀ i, e ≠ .take i) :
    (b.step e).slots = b.slots.deliver (b.act e).calls := by
  cases e with
  | observe i =>
    rw [step, act]
    split <;> rfl
  | measure timestamp air => rfl
  | format =>
    rw [step, act]
    split <;> rfl
  | notify => rfl
  | cycle timestamp air =>
    rw [step, act]
    split <;> rfl
  | take i => exact absurd rfl (h i)

theorem length_slots_step (b : Board) (e : Event) : (b.step e).slots.slots.length = b.slots.slots.length := by
  by_cases h : ∃ i, e = .take i
  · obtain ⟨i, rfl⟩ := h
    exact List.length_modify _ _ _
  · rw [slots_step b fun i hi => h ⟨i, hi⟩, SlotRow.length_deliver]

theorem pending_step {b : Board} {i : Nat} (hi : i < b.slots.slots.length) (e : Event) :
    ((b.step e).slots.slot i).pending =
      if e = .take i then none else (SlotRow.toldTo i (b.act e).calls).getLast?.or (b.slots.slot i).pending := by
  by_cases h : ∃ j, e = .take j
  · obtain ⟨j, rfl⟩ := h
    have hslot : (b.step (.take j)).slots.slot i = if j = i then .empty else b.slots.slot i :=
      SlotRow.slot_modify hi j fun s => s.take.2
    rw [hslot]
    by_cases hj : j = i
    · rw [if_pos hj, if_pos (hj ▸ rfl)]
      rfl
    · rw [if_neg hj, if_neg fun heq => hj (Event.take.inj heq)]
      rfl
  · rw [slots_step b fun j hj => h ⟨j, hj⟩, SlotRow.pending_deliver hi, if_neg fun heq => h ⟨i, heq⟩]

/-! ### Runs -/

theorem length_slots_run (b : Board) (events : List Event) : (b.run events).slots.slots.length = b.slots.slots.length := by
  induction events using List.reverseRecOn with
  | nil => rfl
  | append_singleton events e ih => rw [run_concat, length_slots_step, ih]

theorem observers_run (bank : SensorBank) (slots : Nat) (events : List Event) :
    ((start bank slots).run events).pipeline.observers = (registrations events).take Pipeline.maxObservers := by
  induction events using List.reverseRecOn with
  | nil => rfl
  | append_singleton events e ih =>
    have hsame : ((start bank slots).run events).pipeline.observers =
        (registrations events ++ []).take Pipeline.maxObservers := by rw [List.append_nil, ih]
    have hregistered : registrations (events ++ [e]) = registrations events ++ registrations [e] :=
      List.filterMap_append
    have hacted := acted_act ((start bank slots).run events) e
    rw [run_concat, step, hregistered]
    generalize ((start bank slots).run events).act e = out at hacted ⊢
    cases hacted with
    | @registered i h =>
      have hfew : (registrations events).length < Pipeline.maxObservers := by
        rw [ih, List.length_take] at h
        omega
      show ((start bank slots).run events).pipeline.observers ++ [i] = (registrations events ++ [i]).take _
      rw [ih, List.take_of_length_le (Nat.le_of_lt hfew), List.take_of_length_le]
      rw [List.length_append, List.length_singleton]
      exact hfew
    | full h =>
      have hmany : Pipeline.maxObservers ≤ (registrations events).length := by
        rw [ih, List.length_take] at h
        omega
      rw [List.take_append_of_le_length hmany]
      exact ih
    | _ => exact hsame

theorem pending_run {bank : SensorBank} {slots i : Nat} (hi : i < slots) (events : List Event) :
    ∃ before after, events = before ++ after ∧ SinceTaken i before after ∧
      (((start bank slots).run events).slots.slot i).pending =
        (SlotRow.toldTo i (((start bank slots).run before).calls after)).getLast? := by
  induction events using List.reverseRecOn with
  | nil =>
    have hempty : (start bank slots).slots.slot i = .empty := by simp [SlotRow.slot, start, hi]
    exact ⟨[], [], rfl, ⟨Or.inl rfl, List.not_mem_nil⟩, congrArg Slot.pending hempty⟩
  | append_singleton events e ih =>
    have hlength : i < ((start bank slots).run events).slots.slots.length := by
      rw [length_slots_run]
      exact Nat.lt_of_lt_of_eq hi List.length_replicate.symm
    have hstep := pending_step hlength e
    rw [← run_concat] at hstep
    -- A take begins the stretch anew with nothing told; any other event makes it one event longer.
    by_cases htake : e = .take i
    · rw [if_pos htake] at hstep
      exact ⟨events ++ [e], [], (List.append_nil _).symm, ⟨Or.inr ⟨events, by rw [htake]⟩, List.not_mem_nil⟩, hstep⟩
    · obtain ⟨before, after, rfl, ⟨hbefore, hafter⟩, hpending⟩ := ih
      have hnone : .take i ∉ after ++ [e] := by
        rw [List.mem_append, List.mem_singleton, not_or]
        exact ⟨hafter, Ne.symm htake⟩
      have hrun : (start bank slots).run (before ++ after) = ((start bank slots).run before).run after :=
        List.foldl_append
      refine ⟨before, after ++ [e], List.append_assoc .., ⟨hbefore, hnone⟩, ?_⟩
      rw [hstep, if_neg htake, hpending, hrun, calls_concat, SlotRow.toldTo_append, List.getLast?_append]

/-- After any run, the observers are the first ten that were registered, every event ends in one of the ways of `Acted`,
    and every slot holds the last record that it was told of since it was last taken, if it was told of any. -/
theorem fan_out (bank : SensorBank) (slots : Nat) (events : List Event) :
    let b := (start bank slots).run events
    b.pipeline.observers = (registrations events).take Pipeline.maxObservers ∧
      (∀ e, Acted b e (b.act e)) ∧
      ∀ i < slots, ∃ before after, events = before ++ after ∧ SinceTaken i before after ∧
        (b.slots.slot i).pending =
          (SlotRow.toldTo i (((start bank slots).run before).calls after)).getLast? :=
  ⟨observers_run bank slots events, acted_act _, fun _ hi => pending_run hi events⟩

/-- An observer that is registered twice is told twice, and a slot that was taken is filled again from the mailbox. -/
example :
    let b := (start .full 1).run [.observe 0, .observe 0, .cycle "noon" .none, .take 0]
    (b.act .notify).calls = [(0, "1;noon;;;;\n"), (0, "1;noon;;;;\n")] ∧
      ((b.step .notify).slots.slot 0).pending = some "1;noon;;;;\n" := by
  decide +kernel

end Board
end FieldLogger
