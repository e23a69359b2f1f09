/-!
The cooperative scheduler: a tick counter and a few periodic tasks. A tick raises the flag of every task whose
period divides the count; the task itself takes its flag down. Flags do not add up, and a period of 0 never
raises one.
-/

namespace FieldLogger

/-- Why the scheduler refuses. -/
inductive SchedulerError where
  | taskCapacity
  | zeroTick
  deriving DecidableEq, Repr

/-- A periodic task and its flag. -/
structure PeriodicTask where
  name : String
  /-- In ticks; 0 switches the task off. -/
  period : UInt64
  pending : Bool
  deriving DecidableEq, Repr

namespace PeriodicTask

/-- A task whose flag is down. -/
def ofPeriod (name : String) (period : UInt64) : PeriodicTask := ⟨name, period, false⟩

/-- The task at the tick of that ordinal. -/
def onTick (t : PeriodicTask) (ordinal : UInt64) : PeriodicTask :=
  if t.period ≠ 0 ∧ ordinal % t.period = 0 then { t with pending := true } else t

end PeriodicTask

/-- The tick counter and the tasks in the order of their registration. -/
structure Scheduler where
  ticks : UInt64
  tasks : List PeriodicTask
  deriving DecidableEq, Repr

namespace Scheduler

def maxTasks : Nat := 4

/-- A scheduler that has not ticked. -/
def empty : Scheduler := ⟨0, []⟩

/-- Adds a task at the end. -/
def register (s : Scheduler) (t : PeriodicTask) : Except SchedulerError Scheduler :=
  if maxTasks ≤ s.tasks.length then .error .taskCapacity else .ok { s with tasks := s.tasks ++ [t] }

def onTick (s : Scheduler) : Scheduler :=
  let ordinal := s.ticks + 1
  ⟨ordinal, s.tasks.map (·.onTick ordinal)⟩

def advance : Nat → Scheduler → Scheduler
  | 0, s => s
  | n + 1, s => advance n s.onTick

/-- The task registered at a position. -/
def task? (s : Scheduler) (i : Nat) : Option PeriodicTask := s.tasks[i]?

/-- Changes the task at a position. -/
def modifyTask (s : Scheduler) (i : Nat) (f : PeriodicTask → PeriodicTask) : Scheduler := { s with tasks := s.tasks.modify i f }

def setPeriod (s : Scheduler) (i : Nat) (period : UInt64) : Scheduler :=
  s.modifyTask i fun t => { t with period }

/-- Raises the flag of a task without a tick. -/
def trigger (s : Scheduler) (i : Nat) : Scheduler := s.modifyTask i fun t => { t with pending := true }

/-- Tells whether the flag of a task is up, and takes it down. -/
def take (s : Scheduler) (i : Nat) : Bool × Scheduler :=
  (((s.task? i).map PeriodicTask.pending).getD false, s.modifyTask i fun t => { t with pending := false })

end Scheduler

def SchedulerError.message : SchedulerError → String
  | .taskCapacity => s!"Limite de tarefas atingido ({Scheduler.maxTasks})"
  | .zeroTick => "Período de tick inválido: 0 ms"

/-! ### Periods in ticks -/

def msPerMinute : UInt64 := 60000

/-- The whole ticks of so many minutes; ticks of 0 ms have none. -/
def minutesToTicks (minutes : UInt32) (tickMs : UInt64) : UInt64 :=
  if tickMs = 0 then 0 else minutes.toUInt64 * msPerMinute / tickMs

/-- The whole ticks of so many milliseconds, at least one if there are any milliseconds. -/
def msToTicks (ms tickMs : UInt64) : UInt64 :=
  if tickMs = 0 ∨ ms = 0 then 0 else max (ms / tickMs) 1

/-! ### A host that ticks by itself -/

/-- The scheduler after a host that ticks every so many microseconds was left running for a number of ticks. -/
def Scheduler.runHost (s : Scheduler) (tickMicros : Nat) (ticks : Nat) : Except SchedulerError Scheduler :=
  if tickMicros = 0 then .error .zeroTick else .ok (advance ticks s)

end FieldLogger
