import FieldLogger.Proofs.Registry.Settled
import FieldLogger.Proofs.Terminal.Effects

/-! A session over a registry in memory. Whatever is typed, memory and file go on agreeing; only a line that saves
    changes a file, and only one that saves with success changes the record in memory. -/

namespace FieldLogger
namespace Session

/-! ### Saving -/

section Saving
variable {μ : Type}

/-- The line hands the edited copy over to be stored. -/
def Saves (s : Session μ) (line : String) : Prop :=
  s.terminal.screen = .deviceConfig ∧ (Signal.ofLine line).1 = .key .save

theorem request_of_saves {s : Session μ} {line : String} (h : s.Saves line) :
    s.request (Signal.ofLine line).1 = some (.commit s.terminal.staged.toRecord) := by
  unfold request
  rw [h.1, h.2]

variable [Mediator μ]

/-- The line saves the edited copy, and success is reported. -/
def SavesWell (s : Session μ) (line : String) : Prop :=
  s.Saves line ∧ (Mediator.notify s.mediator .terminal (.commit s.terminal.staged.toRecord)).1.isSuccess = true

end Saving

/-! ### Lines -/

theorem mediator_notify {σ : Type} [ByteStore σ] (r : Registry σ) (c : Component) (notice : Notice) :
    Mediator.notify r c notice = r.notify c notice := rfl

theorem asked_some {σ : Type} [ByteStore σ] (r : Registry σ) (notice : Notice) :
    asked r (some notice) = (r.notify .terminal notice).2 := rfl

variable {s : Session (Registry MemoryStore)}

theorem settled_typeLine (h : s.mediator.Settled) (hs : Storable s.terminal.staged.name) (line : String) :
    (s.typeLine line).2.mediator.Settled := by
  rw [typeLine_mediator]
  rcases s.request_cases (Signal.ofLine line).1 with hnone | hread | ⟨hsave, -⟩
  · rw [hnone]
    exact h
  · rw [hread, asked_some, Registry.notify_refresh]
    exact h.afterRetrieve
  · rw [hsave, asked_some, Registry.notify_commit]
    exact Registry.Settled.afterCommit h.mounted h.storable hs

theorem storable_typeLine (h : s.mediator.Settled) (hs : Storable s.terminal.staged.name) (line : String) :
    Storable (s.typeLine line).2.terminal.staged.name := by
  rw [typeLine_eq]
  refine storable_handle (Signal.ofLine line).1 (Signal.ofLine line).2 hs fun m hm => ?_
  have hread : s.mediator.retrieve.1 = .ok m := Registry.refreshed_iff.mp (reread?_eq_some.mp hm)
  rcases h.retrieve with ⟨e, handle, hr⟩ | hr <;> rw [hr] at hread
  · cases hread
  · obtain rfl := Except.ok.inj hread
    exact h.storable

/-- A line that does not save changes neither the record in memory nor any file. -/
theorem typeLine_of_not_saves (h : s.mediator.Settled) {line : String} (hline : ¬s.Saves line) :
    (s.typeLine line).2.mediator.store.files = s.mediator.store.files ∧
      (s.typeLine line).2.mediator.metadata = s.mediator.metadata ∧
      (s.typeLine line).2.mediator.fileName = s.mediator.fileName := by
  rw [typeLine_mediator]
  rcases s.request_cases (Signal.ofLine line).1 with hnone | hread | ⟨-, hscreen, hsave⟩
  · rw [hnone]
    exact ⟨rfl, rfl, rfl⟩
  · rw [hread, asked_some]
    exact h.refreshed
  · exact absurd ⟨hscreen, hsave⟩ hline

theorem metadata_typeLine (h : s.mediator.Settled) {line : String} (hline : ¬s.SavesWell line) :
    (s.typeLine line).2.mediator.metadata = s.mediator.metadata := by
  by_cases hsaves : s.Saves line
  · have hfailed : ¬(s.mediator.notify .terminal (.commit s.terminal.staged.toRecord)).1.isSuccess = true :=
      fun hok => hline ⟨hsaves, hok⟩
    have hserved := s.mediator.served_notify .terminal (.commit s.terminal.staged.toRecord)
    obtain ⟨store, hstore⟩ := hserved.store_of_failed hfailed
    rw [typeLine_mediator, request_of_saves hsaves, asked_some, hstore]
  · exact (typeLine_of_not_saves h hsaves).2.1

end Session
end FieldLogger
