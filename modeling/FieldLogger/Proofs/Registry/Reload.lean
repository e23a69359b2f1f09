import Mathlib.Control.Monad.Basic
import FieldLogger.Proofs.Metadata.Stability
import FieldLogger.Proofs.Registry.Settled

/-! What is read back of a record that was saved, whatever is in memory by then. A record under a name that could be
    typed comes back as it was (`save_then_load`). A text that was saved comes back as the record that it left
    in memory, unless it left a name that was cut just after a blank (`saved_text_reloads_iff`). -/

namespace FieldLogger
namespace Registry

/-! ### Saving -/

variable {r r' : Registry MemoryStore} {m : Metadata} {record typed : String} {n : Nat}

/-- A save that succeeds was of a text that is a record, into a store that could be written. -/
theorem commit_eq_ok (h : r.commit record = (.ok (), r')) :
    r.store.mounted = true ∧ ∃ n m, r.metadata.applyRecord record = .ok (n, m) ∧
      r' = (r.withFiles (r.store.files.set r.fileName (savedFile m))).adopt m := by
  obtain ⟨n, m, -, hrec, -⟩ := commit_ok h
  cases hs : r.store.mounted with
  | false =>
    unfold commit at h
    rw [hrec] at h
    dsimp only at h
    rw [MemoryStore.writeFile_unmounted hs] at h
    cases h
  | true =>
    refine ⟨rfl, n, m, hrec, ?_⟩
    cases hw : r.store.failWrites with
    | false =>
      rw [commit_of_accepted hs hw hrec] at h
      exact (Prod.mk.inj h).2.symm
    | true =>
      rw [commit_of_accepted_failing hs hw hrec] at h
      cases h

/-- Whoever reads the store reads what a save left in memory, without blanks at the end of the name. -/
theorem retrieve_of_commit (h : r.commit record = (.ok (), r')) (hm : Storable r'.metadata.name)
    {q : Registry MemoryStore} (hstore : q.store = r'.store) (hfile : q.fileName = r.fileName) :
    q.retrieve = (.ok r'.metadata.tidy, (q.withFiles q.store.files).adopt r'.metadata.tidy) := by
  obtain ⟨hmounted, n, m, -, rfl⟩ := commit_eq_ok h
  refine retrieve_savedFile ?_ hm ?_
  · rw [hstore]
    exact hmounted
  · rw [hstore, hfile]
    exact Files.get?_set_self _ _ _

/-- A record whose name could be typed is saved as it stands, and read back so by every registry over the store
    that the save left. -/
theorem save_then_load (hmounted : r.store.mounted = true) (hwritable : r.store.failWrites = false)
    (hname : Entry.name typed = .ok m.name) :
    ∃ r', r.commit m.toRecord = (.ok (), r') ∧ r'.metadata = m ∧
      r'.store.files.get? r.fileName = some (Utf8.encode (m.toRecord ++ "\n")) ∧
      (∀ path ≠ r.fileName, r'.store.files.get? path = r.store.files.get? path) ∧
      (Utf8.encode (m.toRecord ++ "\n")).length ≤ 131 ∧ (Utf8.encode (m.toRecord ++ "\n")).length ≤ readLimit ∧
      ∀ q : Registry MemoryStore, q.store = r'.store → q.fileName = r.fileName →
        q.retrieve.1 = .ok m ∧ q.retrieve.2.metadata = m := by
  obtain ⟨hm, htrim⟩ := Storable.of_entry hname
  have htidy : m.tidy = m := Metadata.tidy_eq_self htrim
  have hcommit := commit_of_writable hmounted hwritable hm
  rw [htidy] at hcommit
  have hlength : (Utf8.encode (m.toRecord ++ "\n")).length ≤ 131 := by
    have hsaved := length_savedFile m
    have hsize := Metadata.size_recordChars_le hm
    unfold savedFile at hsaved
    omega
  refine ⟨_, hcommit, rfl, ?_, ?_, hlength, Nat.le_trans hlength (by decide), ?_⟩
  · exact Files.get?_set_self _ _ _
  · intro path hpath
    exact Files.get?_set_of_ne hpath _ _
  · intro q hstore hfile
    have hread := retrieve_of_commit hcommit hm hstore hfile
    change q.retrieve = (.ok m.tidy, (q.withFiles q.store.files).adopt m.tidy) at hread
    rw [htidy] at hread
    rw [hread]
    exact ⟨rfl, rfl⟩

/-- A name of two-byte characters that is as long as a name can be, and the longest periods: the file has 131 bytes. -/
theorem save_then_load_longest :
    let name := String.ofList (List.replicate 47 'é' ++ ['x'])
    let m : Metadata := ⟨name, .once, 4294967295, 4294967295, 4294967295⟩
    let r : Registry MemoryStore :=
      .ofStore { MemoryStore.withFile "metadata.txt" [0xFF] with mounted := true } "metadata.txt"
    r.store.mounted = true ∧ r.store.failWrites = false ∧ Entry.name name = .ok m.name ∧
      (Utf8.encode (m.toRecord ++ "\n")).length = 131 ∧
      ∃ r', r.commit m.toRecord = (.ok (), r') ∧ r'.metadata = m ∧
        ∀ q : Registry MemoryStore, q.store = r'.store → q.fileName = r.fileName →
          q.retrieve.1 = .ok m ∧ q.retrieve.2.metadata = m := by
  have htrim : Text.trim (List.replicate 47 'é' ++ ['x']) = List.replicate 47 'é' ++ ['x'] := by decide +kernel
  have hname : Entry.name (String.ofList (List.replicate 47 'é' ++ ['x'])) =
      .ok (String.ofList (List.replicate 47 'é' ++ ['x'])) := by
    unfold Entry.name
    rw [String.toList_ofList, htrim]
    rfl
  intro name m r
  have hlength : (Utf8.encode (m.toRecord ++ "\n")).length = 131 := by
    refine (length_savedFile m).trans ?_
    unfold Metadata.recordChars
    rw [String.toList_ofList]
    decide +kernel
  obtain ⟨r', hcommit, hmeta, -, -, -, -, hload⟩ := save_then_load (m := m) (r := r) rfl rfl hname
  exact ⟨rfl, rfl, hname, hlength, r', hcommit, hmeta, hload⟩

/-! ### Saving any text -/

/-- A text that was saved comes back as the record that it left in memory, now and at every later boot, unless the
    name in it was cut just after a blank; then that blank is lost. -/
theorem saved_text_reloads_iff {base : Metadata} (hbase : Entry.name typed = .ok base.name)
    (h : base.applyRecord record = .ok (n, m)) :
    Metadata.ofRecord m.toRecord = .ok m.tidy ∧ (Metadata.ofRecord m.toRecord = .ok m ↔ ¬Metadata.CutAtBlank record) ∧
      ∀ r r' : Registry MemoryStore, r.metadata = base → r.commit record = (.ok (), r') → r'.metadata = m ∧
        ∀ q : Registry MemoryStore, q.store = r'.store → q.fileName = r.fileName →
          q.boot.1 = .ok m.tidy ∧ (q.boot.1 = .ok r'.metadata ↔ ¬Metadata.CutAtBlank record) := by
  obtain ⟨hstorable, htrim⟩ := Storable.of_entry hbase
  have hm : Storable m.name := Metadata.storable_of_applyRecord hstorable h
  have hagain := Metadata.ofRecord_toRecord hm
  have hiff : m.tidy = m ↔ ¬Metadata.CutAtBlank record := Metadata.tidy_eq_self_iff_of_applyRecord htrim h
  refine ⟨hagain, ?_, ?_⟩
  · rw [hagain, Except.ok.injEq]
    exact hiff
  · intro r r' hmeta hcommit
    have hmemory : r'.metadata = m := by
      obtain ⟨-, n', m', hrec, rfl⟩ := commit_eq_ok hcommit
      rw [hmeta, h] at hrec
      exact (Prod.mk.inj (Except.ok.inj hrec)).2.symm
    refine ⟨hmemory, fun q hstore hfile => ?_⟩
    have hboot := boot_of_retrieve (retrieve_of_commit hcommit (hmemory ▸ hm) hstore hfile)
    rw [hmemory] at hboot ⊢
    rw [hboot]
    refine ⟨rfl, ?_⟩
    rw [Except.ok.injEq]
    exact hiff

theorem entry_name_factory : Entry.name "defaultLogger" = .ok Metadata.factory.name := by decide +kernel

/-- A name that is too long, between blanks and cut between two letters, before a period and a code that is none. -/
theorem saved_text_reloads_long :
    let record := String.ofList (' ' :: List.replicate 60 'é' ++ [' ', ';', '9', ';', '+', '7', '\r', '\n', 'z'])
    let m : Metadata := { Metadata.factory with name := String.ofList (List.replicate 47 'é'), transmission := 7 }
    Entry.name "defaultLogger" = .ok Metadata.factory.name ∧ Metadata.factory.applyRecord record = .ok (3, m) ∧
      Metadata.ofRecord m.toRecord = .ok m := by
  intro record m
  have h : Metadata.factory.applyRecord record = .ok (3, m) := by
    unfold Metadata.applyRecord record
    rw [String.toList_ofList]
    decide +kernel
  have hcut : ¬Metadata.CutAtBlank record := by
    unfold Metadata.CutAtBlank Metadata.nameField record
    rw [String.toList_ofList]
    rintro ⟨c, hc, hb⟩
    have hlast : some 'é' = some c := hc
    obtain rfl := Option.some.inj hlast
    cases hb
  exact ⟨entry_name_factory, h, (saved_text_reloads_iff entry_name_factory h).2.1.mpr hcut⟩

/-- A name whose 95th byte is a blank is kept with it in memory and read back without it. -/
theorem cut_name_not_reloaded :
    let record := String.ofList (List.replicate 94 'x' ++ [' ', 'y', ';', '1', ';', '1', ';', '1', ';', '1'])
    let r : Registry MemoryStore := .ofStore { MemoryStore.empty with mounted := true } "metadata.txt"
    ∃ m r', Entry.name "defaultLogger" = .ok r.metadata.name ∧ r.metadata.applyRecord record = .ok (5, m) ∧
      Metadata.ofRecord m.toRecord ≠ .ok m ∧ r.commit record = (.ok (), r') ∧ r'.metadata = m ∧
      (Registry.ofStore r'.store "metadata.txt").boot.1 ≠ .ok m := by
  intro record r
  let m : Metadata := { Metadata.factory with name := String.ofList (List.replicate 94 'x' ++ [' ']) }
  have h : Metadata.factory.applyRecord record = .ok (5, m) := by
    unfold Metadata.applyRecord record
    rw [String.toList_ofList]
    decide +kernel
  have hcut : Metadata.CutAtBlank record := by
    refine ⟨' ', ?_, by decide⟩
    unfold Metadata.nameField record
    rw [String.toList_ofList]
    decide +kernel
  have hm : Storable m.name := Metadata.storable_of_applyRecord Storable.factory h
  have hlost : m.tidy ≠ m := fun heq =>
    (Metadata.tidy_eq_self_iff_of_applyRecord (Storable.of_entry entry_name_factory).2 h).mp heq hcut
  have hcommit := commit_of_accepted (r := r) rfl rfl h
  have hboot := boot_of_retrieve (retrieve_of_commit hcommit hm (q := .ofStore _ "metadata.txt") rfl rfl)
  refine ⟨m, _, entry_name_factory, h, ?_, hcommit, rfl, ?_⟩
  · intro heq
    exact hlost (Except.ok.inj ((Metadata.ofRecord_toRecord hm).symm.trans heq))
  · intro heq
    exact hlost (Except.ok.inj ((congrArg Prod.fst hboot).symm.trans heq))

end Registry
end FieldLogger
