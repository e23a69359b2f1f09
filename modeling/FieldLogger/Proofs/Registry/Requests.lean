import FieldLogger.Proofs.Registry.Outcomes
import FieldLogger.Proofs.Storage.OpenFiles

/-! Whatever a registry is asked for, by whomever and over whatever store, it does as a whole or not at all: a request
    that fails leaves the record in memory and its mark, one that succeeds sets the mark, and neither leaves a file
    open. A use of a registry that is not to take the mark therefore announces what it changes, and so does a run of
    uses (`requests_announced`). -/

namespace FieldLogger
namespace Registry

/-- What a registry can be asked for. -/
inductive Request where
  | boot
  | retrieve
  | commit (record : String)
  | notify (c : Component) (n : Notice)
  deriving DecidableEq, Repr

variable {σ : Type} [ByteStore σ]

/-- Whether a request succeeds, and the registry after it. -/
def request (r : Registry σ) : Request → Bool × Registry σ
  | .boot => (r.boot.1.isOk, r.boot.2)
  | .retrieve => (r.retrieve.1.isOk, r.retrieve.2)
  | .commit record => ((r.commit record).1.isOk, (r.commit record).2)
  | .notify c n => ((r.notify c n).1.isSuccess, (r.notify c n).2)

/-! ### One request -/

theorem served_request (r : Registry σ) (q : Request) : Served r (r.request q).1 (r.request q).2 := by
  cases q with
  | boot =>
    dsimp only [request]
    exact served_boot r
  | retrieve =>
    dsimp only [request]
    exact served_retrieve r
  | commit record =>
    dsimp only [request]
    exact served_commit r record
  | notify c n =>
    dsimp only [request]
    exact served_notify r c n

section Closing
open ByteStore.Closing
variable [ByteStore.Closing σ] {r : Registry σ}

theorem closed_retrieve (h : Closed r.store) : Closed r.retrieve.2.store := by
  have hread := ByteStore.closed_readFile h r.fileName readLimit
  rw [retrieve_eq]
  split
  · rename_i hfile
    rwa [hfile] at hread
  · rename_i hfile
    rw [hfile] at hread
    split <;> exact hread

theorem closed_commit (h : Closed r.store) (record : String) : Closed (r.commit record).2.store := by
  unfold commit
  split
  · exact h
  · rename_i n m hrec
    have hwritten := ByteStore.closed_writeFile h r.fileName .write (Utf8.encode (m.toRecord ++ "\n"))
    dsimp only
    split <;> exact hwritten

theorem closed_boot (h : Closed r.store) : Closed r.boot.2.store := by
  have hread := closed_retrieve h
  cases hr : r.retrieve with
  | mk result r' =>
    rw [hr] at hread
    cases result with
    | ok m =>
      rw [boot_of_retrieve hr]
      exact hread
    | error e =>
      rw [boot_of_unreadable hr]
      dsimp only
      exact closed_commit hread _

theorem closed_notify (h : Closed r.store) (c : Component) (n : Notice) : Closed (r.notify c n).2.store := by
  cases c with
  | internalStorage => exact h
  | terminal =>
    cases n with
    | refresh =>
      rw [notify_refresh]
      exact closed_retrieve h
    | commit record =>
      rw [notify_commit]
      exact closed_commit h record

theorem closed_request (h : Closed r.store) (q : Request) : Closed (r.request q).2.store := by
  cases q with
  | boot =>
    dsimp only [request]
    exact closed_boot h
  | retrieve =>
    dsimp only [request]
    exact closed_retrieve h
  | commit record =>
    dsimp only [request]
    exact closed_commit h record
  | notify c n =>
    dsimp only [request]
    exact closed_notify h c n

end Closing

/-! ### Runs of uses -/

/-- A registry is asked for something, its mark is taken, or its store changes from outside. -/
inductive Use (σ : Type) where
  | request (q : Request)
  | takeChanged
  | outside (store : σ)
  deriving DecidableEq, Repr

def use (r : Registry σ) : Use σ → Registry σ
  | .request q => (r.request q).2
  | .takeChanged => r.takeChanged.2
  | .outside store => { r with store }

/-- The registry after a run of uses. -/
def run (r : Registry σ) (uses : List (Use σ)) : Registry σ := uses.foldl use r

theorem announces_use (r : Registry σ) {u : Use σ} (hu : u ≠ .takeChanged) : Announces r (r.use u) := by
  cases u with
  | request q => exact (served_request r q).announces
  | takeChanged => exact absurd rfl hu
  | outside store => exact Or.inr ⟨rfl, rfl⟩

/-- As long as the mark is not taken, what changed is announced. -/
theorem announces_run (r : Registry σ) {uses : List (Use σ)} (huses : ∀ u ∈ uses, u ≠ .takeChanged) :
    Announces r (r.run uses) := by
  induction uses generalizing r with
  | nil => exact Or.inr ⟨rfl, rfl⟩
  | cons u uses ih =>
    obtain ⟨hu, huses⟩ := List.forall_mem_cons.mp huses
    exact (announces_use r hu).trans (ih (r.use u) huses)

theorem run_append (r : Registry σ) (uses uses' : List (Use σ)) : r.run (uses ++ uses') = (r.run uses).run uses' :=
  List.foldl_append

/-- A request that fails leaves the record and its mark, one that succeeds sets the mark, and neither leaves a file
    open. A record that differs from the one of which the mark was last taken is marked. -/
theorem requests_announced [ByteStore.Closing σ] (r : Registry σ) (hclosed : ByteStore.Closing.Closed r.store) :
    (∀ q : Request,
      ((r.request q).1 = false → (r.request q).2.metadata = r.metadata ∧ (r.request q).2.changed = r.changed) ∧
      ((r.request q).1 = true → (r.request q).2.changed = true) ∧
      ByteStore.Closing.Closed (r.request q).2.store) ∧
    ∀ before after : List (Use σ), (∀ u ∈ after, u ≠ .takeChanged) →
      (r.run (before ++ .takeChanged :: after)).metadata ≠ (r.run before).metadata →
      (r.run (before ++ .takeChanged :: after)).changed = true := by
  refine ⟨fun q => ⟨fun hfailed => ?_, fun hok => ?_, closed_request hclosed q⟩, ?_⟩
  · obtain ⟨store, hstore⟩ := (served_request r q).store_of_failed (Bool.eq_false_iff.mp hfailed)
    rw [hstore]
    exact ⟨rfl, rfl⟩
  · exact (served_request r q).changed_of_succeeded hok
  · intro before after hafter hdiffers
    rw [run_append] at hdiffers ⊢
    rcases announces_run (r.run before).takeChanged.2 hafter with hchanged | ⟨hsame, -⟩
    · exact hchanged
    · exact absurd hsame hdiffers

/-- A device boots and its mark is taken. It is then given another name, after which the store begins to fail, a save
    is refused and a stranger asks for the record. -/
theorem requests_announced_bench :
    let r : Registry MemoryStore := .ofStore { MemoryStore.empty with mounted := true } "metadata.txt"
    let broken : MemoryStore := { r.store with failWrites := true }
    let after : List (Use MemoryStore) :=
      [.request (.commit "st 2;1;5"), .outside broken, .request (.notify .terminal (.commit "st 3;1;5")),
        .request (.notify .internalStorage .refresh)]
    r.store.handle = none ∧ (r.request (.notify .terminal .refresh)).1 = false ∧
      (r.request (.notify .terminal .refresh)).2.metadata = r.metadata ∧ (∀ u ∈ after, u ≠ .takeChanged) ∧
      (r.run ([.request .boot] ++ .takeChanged :: after)).metadata =
        { Metadata.factory with name := "st 2", transmission := 5 } ∧
      (r.run ([.request .boot] ++ .takeChanged :: after)).changed = true := by
  intro r broken after
  obtain ⟨hrequest, hrun⟩ := requests_announced r rfl
  have hfails : (r.request (.notify .terminal .refresh)).1 = false := by decide +kernel
  have hafter : ∀ u ∈ after, u ≠ .takeChanged := by decide +kernel
  have hmeta : (r.run ([.request .boot] ++ .takeChanged :: after)).metadata =
      { Metadata.factory with name := "st 2", transmission := 5 } := by decide +kernel
  have hboot : (r.run [.request .boot]).metadata = .factory := by decide +kernel
  refine ⟨rfl, hfails, ((hrequest _).1 hfails).1, hafter, hmeta, hrun _ _ hafter ?_⟩
  rw [hmeta, hboot]
  decide +kernel

end Registry
end FieldLogger
