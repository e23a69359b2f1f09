import Mathlib.Data.List.Induction
import FieldLogger.Proofs.Storage.MemoryFiles

/-! The file that a store in memory holds open, over any run of operations (`run_reads_on`). An open file is known by its
    path and how far it was read, while openings may empty files and writes make them longer. Yet it is always there and
    was never read beyond its end, and what was read from it since it was opened is its beginning. -/

namespace FieldLogger

/-- The bytes from one position up to another, if the one is not behind the other and there are so many bytes. -/
def slice? (data : Bytes) (start stop : Nat) : Option Bytes :=
  if start ≤ stop ∧ stop ≤ data.length then some ((data.drop start).take (stop - start)) else none

namespace MemoryStore

variable {s t u : MemoryStore} {op : Op} {path : String} {mode : OpenMode}

/-! ### One operation -/

/-- The ways in which an operation ends. -/
inductive Stepped (s : MemoryStore) : Op → Except StorageError Answer → MemoryStore → Prop where
  | refused {op : Op} (e : StorageError) : Stepped s op (.error e) s
  | mounted (hmount : s.failMount = false) : Stepped s .mount (.ok .done) { s with mounted := true }
  | created (path : String) (hmounted : s.mounted = true) :
      Stepped s (.openFile path .write) (.ok .done)
        { s with files := s.files.set path [], handle := some ⟨path, .write, 0⟩ }
  | opened {path : String} {mode : OpenMode} {data : Bytes} (hmounted : s.mounted = true) (hmode : mode ≠ .write)
      (hfile : s.files.get? path = some data) :
      Stepped s (.openFile path mode) (.ok .done) { s with handle := some ⟨path, mode, 0⟩ }
  | read {h : MemoryHandle} {data : Bytes} (limit : Nat) (hopen : s.handle = some h)
      (hfile : s.files.get? h.path = some data) :
      Stepped s (.read limit) (.ok (.bytes ((data.drop h.cursor).take limit)))
        { s with handle := some { h with cursor := h.cursor + ((data.drop h.cursor).take limit).length } }
  | written {h : MemoryHandle} (data : Bytes) (hwrites : s.failWrites = false) (hopen : s.handle = some h)
      (hmode : h.mode ≠ .read) :
      Stepped s (.write data) (.ok (.count data.length)) { s with files := s.files.append h.path data }
  | closed {h : MemoryHandle} (hopen : s.handle = some h) : Stepped s .close (.ok .done) { s with handle := none }
  | setFailMount (fails : Bool) : Stepped s (.setFailMount fails) (.ok .done) { s with failMount := fails }
  | setFailWrites (fails : Bool) : Stepped s (.setFailWrites fails) (.ok .done) { s with failWrites := fails }

theorem stepped (s : MemoryStore) (op : Op) : Stepped s op (s.step op).1 (s.step op).2 := by
  cases op with
  | mount =>
    rw [step, mount]
    split
    · exact .refused _
    · exact .mounted (by simp_all)
  | openFile path mode =>
    by_cases hmounted : s.mounted = true
    · by_cases hmode : mode = .write
      · subst hmode
        have hopen : s.openFile path .write = _ := openFile_write hmounted path
        rw [step, hopen]
        exact .created path hmounted
      · cases hfile : s.files.get? path with
        | none =>
          have hopen : s.openFile path mode = _ := openFile_missing hmounted hmode hfile
          rw [step, hopen]
          exact .refused _
        | some data =>
          have hopen : s.openFile path mode = _ := openFile_existing hmounted hmode hfile
          rw [step, hopen]
          exact .opened hmounted hmode hfile
    · rw [step, openFile, if_pos (by simpa using hmounted)]
      exact .refused _
  | read limit =>
    rw [step, read]
    split
    · exact .refused _
    · rename_i h hopen
      split
      · exact .refused _
      · rename_i data hfile
        exact .read limit hopen hfile
  | write data =>
    rw [step, write]
    by_cases hwrites : s.failWrites = true
    · rw [if_pos hwrites]
      exact .refused _
    · rw [if_neg hwrites]
      split
      · exact .refused _
      · rename_i h hopen
        by_cases hmode : h.mode = .read
        · rw [if_pos hmode]
          exact .refused _
        · rw [if_neg hmode]
          exact .written data (by simpa using hwrites) hopen hmode
  | close =>
    rw [step, close]
    split
    · exact .refused _
    · rename_i h hopen
      exact .closed hopen
  | setFailMount fails => exact .setFailMount fails
  | setFailWrites fails => exact .setFailWrites fails

theorem step_error {e : StorageError} (h : (s.step op).1 = .error e) : (s.step op).2 = s := by
  have hstepped := stepped s op
  generalize (s.step op).2 = t at hstepped ⊢
  rw [h] at hstepped
  cases hstepped
  rfl

/-- Only opening for writing and writing change a file, and no other than the one they are about. -/
theorem files_step (s : MemoryStore) (op : Op) (path : String) :
    (s.step op).2.files.get? path = s.files.get? path ∨ op = .openFile path .write ∨
      ∃ data h, op = .write data ∧ s.handle = some h ∧ h.path = path := by
  have hstepped := stepped s op
  generalize (s.step op).1 = answer at hstepped
  generalize (s.step op).2 = t at hstepped ⊢
  cases hstepped with
  | created path' _ =>
    by_cases hpath : path = path'
    · exact Or.inr (Or.inl (by rw [hpath]))
    · exact Or.inl (Files.get?_set_of_ne hpath _ _)
  | @written h data _ hopen _ =>
    by_cases hpath : path = h.path
    · exact Or.inr (Or.inr ⟨data, h, rfl, hopen, hpath.symm⟩)
    · exact Or.inl (Files.get?_set_of_ne hpath _ _)
  | _ => exact Or.inl rfl

/-! ### A file in use -/

/-- An operation leaves the open file in use: it neither opens nor closes a file, or it fails to. -/
def Keeps (s : MemoryStore) (op : Op) : Prop :=
  match op with
  | .openFile _ _ | .close => ∃ e, (s.step op).1 = .error e
  | _ => True

def KeepsAll (s : MemoryStore) : List Op → Prop
  | [] => True
  | op :: ops => s.Keeps op ∧ (s.step op).2.KeepsAll ops

def chunk? : Except StorageError Answer → Option Bytes
  | .ok (.bytes chunk) => some chunk
  | _ => none

/-- The chunks that the reads of a run answer, in order. -/
def chunks (s : MemoryStore) : List Op → List Bytes
  | [] => []
  | op :: ops => (chunk? (s.step op).1).toList ++ (s.step op).2.chunks ops

theorem run_append (s : MemoryStore) (ops more : List Op) : s.run (ops ++ more) = (s.run ops).run more :=
  List.foldl_append

theorem run_concat (s : MemoryStore) (ops : List Op) (op : Op) : s.run (ops ++ [op]) = ((s.run ops).step op).2 :=
  run_append s ops [op]

theorem keepsAll_concat (s : MemoryStore) (ops : List Op) (op : Op) :
    s.KeepsAll (ops ++ [op]) ↔ s.KeepsAll ops ∧ (s.run ops).Keeps op := by
  induction ops generalizing s with
  | nil => simp [KeepsAll, run]
  | cons op' ops ih =>
    rw [List.cons_append, KeepsAll, KeepsAll, ih, and_assoc]
    rfl

/-- One store has the open file of another, from which these bytes were read meanwhile: they follow the place to which it
    had been read, and the file may have grown. -/
def ReadOn (s : MemoryStore) (bytes : Bytes) (t : MemoryStore) : Prop :=
  ∀ h data, s.handle = some h → s.files.get? h.path = some data → h.cursor ≤ data.length →
    ∃ more, t.handle = some { h with cursor := h.cursor + bytes.length } ∧
      t.files.get? h.path = some (data ++ more) ∧ bytes <+: (data ++ more).drop h.cursor

theorem ReadOn.of_same (hhandle : t.handle = s.handle) (hfiles : t.files = s.files) : ReadOn s [] t := by
  intro h data hopen hfile hcursor
  refine ⟨[], hhandle.trans hopen, ?_, List.nil_prefix⟩
  rw [hfiles, hfile, List.append_nil]

theorem ReadOn.trans {first second : Bytes} (hs : ReadOn s first t) (ht : ReadOn t second u) :
    ReadOn s (first ++ second) u := by
  intro h data hopen hfile hcursor
  obtain ⟨grown, hopen', hfile', hfirst⟩ := hs h data hopen hfile hcursor
  have hcursor' : h.cursor + first.length ≤ (data ++ grown).length := by
    have hle := hfirst.length_le
    rw [List.length_drop] at hle
    rw [List.length_append] at hle ⊢
    omega
  obtain ⟨more, hopen'', hfile'', hsecond⟩ := ht _ _ hopen' hfile' hcursor'
  refine ⟨grown ++ more, ?_, ?_, ?_⟩
  · rw [hopen'', List.length_append, Nat.add_assoc]
  · rw [← List.append_assoc]
    exact hfile''
  · -- Behind what was read first stands what was left of the file then, and behind that what was added since.
    obtain ⟨rest, hrest⟩ := hfirst
    have hgrown : (data ++ (grown ++ more)).drop h.cursor = first ++ (rest ++ more) := by
      rw [← List.append_assoc, List.drop_append_of_le_length (by rw [List.length_append]; omega), ← hrest,
        List.append_assoc]
    have hplace : (data ++ grown ++ more).drop (h.cursor + first.length) = rest ++ more := by
      rw [← List.drop_drop, List.append_assoc, hgrown, List.drop_left]
    rw [hgrown]
    rw [hplace] at hsecond
    exact (List.prefix_append_right_inj first).mpr hsecond

theorem readOn_step (hkeeps : s.Keeps op) : ReadOn s ((chunk? (s.step op).1).getD []) (s.step op).2 := by
  have hstepped := stepped s op
  unfold Keeps at hkeeps
  generalize (s.step op).1 = answer at hstepped hkeeps ⊢
  generalize (s.step op).2 = t at hstepped ⊢
  cases hstepped with
  | created _ _ | opened _ _ _ | closed _ =>
    obtain ⟨e, he⟩ := hkeeps
    cases he
  | @read h data limit hopen hfile =>
    intro h' data' hopen' hfile' hcursor
    cases hopen.symm.trans hopen'
    cases hfile.symm.trans hfile'
    refine ⟨[], rfl, ?_, ?_⟩
    · rw [List.append_nil]
      exact hfile
    · rw [List.append_nil]
      exact List.take_prefix _ _
  | @written h data _ hopen _ =>
    intro h' data' hopen' hfile' hcursor
    cases hopen.symm.trans hopen'
    refine ⟨data, hopen, ?_, List.nil_prefix⟩
    simp [Files.append, hfile']
  | _ => exact .of_same rfl rfl

theorem flatten_toList (chunk : Option Bytes) : chunk.toList.flatten = chunk.getD [] := by
  cases chunk <;> simp

theorem readOn_run {ops : List Op} (h : s.KeepsAll ops) : ReadOn s (s.chunks ops).flatten (s.run ops) := by
  induction ops generalizing s with
  | nil => exact .of_same rfl rfl
  | cons op ops ih =>
    rw [chunks, List.flatten_append, flatten_toList]
    exact (readOn_step h.1).trans (ih h.2)

/-! ### From its opening on -/

/-- In a run of `before`, an opening and `during`, the file that was opened is in use from then on. -/
structure InUse (s : MemoryStore) (path : String) (mode : OpenMode) (before during : List Op) : Prop where
  opened : ((s.run before).step (.openFile path mode)).1 = .ok .done
  kept : (s.run (before ++ [.openFile path mode])).KeepsAll during

theorem of_opened (h : (s.step (.openFile path mode)).1 = .ok .done) :
    (s.step (.openFile path mode)).2.handle = some ⟨path, mode, 0⟩ ∧
      ∃ data, (s.step (.openFile path mode)).2.files.get? path = some data := by
  have hstepped := stepped s (.openFile path mode)
  generalize (s.step (.openFile path mode)).2 = t at hstepped ⊢
  rw [h] at hstepped
  cases hstepped with
  | created _ _ => exact ⟨rfl, [], Files.get?_set_self _ _ _⟩
  | @opened _ _ data _ _ hfile => exact ⟨rfl, data, hfile⟩

/-- What was read from a file in use is its beginning, up to the place to which it was read. -/
theorem InUse.reading {before during : List Op} (h : InUse s path mode before during) :
    let t := s.run (before ++ .openFile path mode :: during)
    let bytes := ((s.run (before ++ [.openFile path mode])).chunks during).flatten
    t.handle = some ⟨path, mode, bytes.length⟩ ∧ ∃ data, t.files.get? path = some data ∧ bytes <+: data := by
  intro t bytes
  obtain ⟨hhandle, data, hfile⟩ := of_opened h.opened
  rw [← run_concat] at hhandle hfile
  have hread := readOn_run h.kept
  rw [← run_append, List.append_assoc, List.singleton_append] at hread
  obtain ⟨more, hhandle', hfile', hprefix⟩ := hread _ data hhandle hfile (Nat.zero_le _)
  rw [Nat.zero_add] at hhandle'
  exact ⟨hhandle', data ++ more, hfile', hprefix⟩

theorem keeps_of_error {e : StorageError} (h : (s.step op).1 = .error e) : s.Keeps op := by
  unfold Keeps
  split
  · exact ⟨e, h⟩
  · exact ⟨e, h⟩
  · trivial

/-- A file is open after an operation because it was opened by it or was open before it. -/
theorem handle_step {h : MemoryHandle} (hopen : (s.step op).2.handle = some h) :
    (op = .openFile h.path h.mode ∧ (s.step op).1 = .ok .done) ∨
      s.Keeps op ∧ ∃ h', s.handle = some h' ∧ h'.path = h.path ∧ h'.mode = h.mode := by
  have hstepped := stepped s op
  generalize hanswer : (s.step op).1 = answer at hstepped ⊢
  generalize (s.step op).2 = t at hstepped hopen
  cases hstepped with
  | refused e => exact Or.inr ⟨keeps_of_error hanswer, h, hopen, rfl, rfl⟩
  | created _ _ | opened _ _ _ =>
    cases hopen
    exact Or.inl ⟨rfl, rfl⟩
  | read _ hopen' _ =>
    cases hopen
    exact Or.inr ⟨trivial, _, hopen', rfl, rfl⟩
  | closed _ => cases hopen
  | _ => exact Or.inr ⟨trivial, h, hopen, rfl, rfl⟩

/-- A file that is open after a run is in use since its opening. -/
theorem exists_inUse (hs : s.handle = none) (ops : List Op) {h : MemoryHandle} (hopen : (s.run ops).handle = some h) :
    ∃ before during, ops = before ++ .openFile h.path h.mode :: during ∧ InUse s h.path h.mode before during := by
  induction ops using List.reverseRecOn generalizing h with
  | nil => cases hs.symm.trans hopen
  | append_singleton ops op ih =>
    rw [run_concat] at hopen
    -- An opening begins the stretch anew; what only uses the open file makes it one operation longer.
    rcases handle_step hopen with ⟨rfl, hopened⟩ | ⟨hkeeps, h', hopen', hpath, hmode⟩
    · exact ⟨ops, [], rfl, hopened, trivial⟩
    · obtain ⟨before, during, rfl, hopened, hkept⟩ := ih hopen'
      rw [hpath, hmode] at hopened hkept hkeeps ⊢
      refine ⟨before, during ++ [op], by simp, hopened, ?_⟩
      rw [keepsAll_concat, ← run_append, List.append_assoc, List.singleton_append]
      exact ⟨hkept, hkeeps⟩

/-- Reading answers the bytes that follow, as many as are asked for or there are, and they lie within the file. -/
theorem step_read {h : MemoryHandle} {data : Bytes} (hopen : s.handle = some h)
    (hfile : s.files.get? h.path = some data) (hcursor : h.cursor ≤ data.length) (limit : Nat) :
    ∃ chunk, slice? data h.cursor (h.cursor + min limit (data.length - h.cursor)) = some chunk ∧
      s.step (.read limit) =
        (.ok (.bytes chunk), { s with handle := some { h with cursor := h.cursor + chunk.length } }) := by
  refine ⟨(data.drop h.cursor).take limit, ?_, ?_⟩
  · rw [slice?, if_pos (by omega), Nat.add_sub_cancel_left, ← List.length_drop, ← List.take_eq_take_min]
  · rw [step, read, hopen]
    dsimp only
    rw [hfile]
    rfl

/-- Whatever was done to a store since it was made with some files, a file that is open is there and was never read
    beyond its end, so that a read finds the bytes that follow, as many as are asked for or there are. It was opened at
    some point of the run and is in use since then, and whenever that is so, the chunks that were read from it make up
    its beginning, up to the place where the next read goes on. Only opening for writing and writing change a file, and
    no other than the one they are about, and an operation that fails changes nothing. -/
theorem run_reads_on (files : Files) (ops : List Op) :
    let start := ofFiles files
    let s := start.run ops
    (∀ h, s.handle = some h → ∃ data, s.files.get? h.path = some data ∧ h.cursor ≤ data.length ∧
      ∀ limit, ∃ chunk, slice? data h.cursor (h.cursor + min limit (data.length - h.cursor)) = some chunk ∧
        s.step (.read limit) =
          (.ok (.bytes chunk), { s with handle := some { h with cursor := h.cursor + chunk.length } })) ∧
      (∀ h, s.handle = some h →
        ∃ before during, ops = before ++ .openFile h.path h.mode :: during ∧ InUse start h.path h.mode before during) ∧
      (∀ path mode before during, ops = before ++ .openFile path mode :: during → InUse start path mode before during →
        let bytes := ((start.run (before ++ [.openFile path mode])).chunks during).flatten
        s.handle = some ⟨path, mode, bytes.length⟩ ∧ ∃ data, s.files.get? path = some data ∧ bytes <+: data) ∧
      (∀ op path, (s.step op).2.files.get? path = s.files.get? path ∨ op = .openFile path .write ∨
        ∃ data h, op = .write data ∧ s.handle = some h ∧ h.path = path) ∧
      ∀ op e, (s.step op).1 = .error e → (s.step op).2 = s := by
  intro start s
  refine ⟨fun h hopen => ?_, fun h hopen => exists_inUse rfl ops hopen, fun path mode before during hops huse => ?_,
    files_step s, fun op e herror => step_error herror⟩
  · obtain ⟨before, during, rfl, huse⟩ := exists_inUse rfl ops hopen
    obtain ⟨hhandle, data, hfile, hprefix⟩ := huse.reading
    have hcursor : h.cursor ≤ data.length := by
      have hsame := Option.some.inj (hopen.symm.trans hhandle)
      rw [hsame]
      exact hprefix.length_le
    exact ⟨data, hfile, hcursor, step_read hopen hfile hcursor⟩
  · subst hops
    exact huse.reading

/-- A file that grows while it is read, and an opening that fails in between. -/
example :
    let start := withFile "a" [1, 2, 3]
    let during : List Op := [.read 2, .write [4, 5], .openFile "b" .read, .read 9]
    (start.run ([.mount, .openFile "a" .append] ++ during)).handle = some ⟨"a", .append, 5⟩ ∧
      (start.run [.mount, .openFile "a" .append]).chunks during = [[1, 2], [3, 4, 5]] := by
  decide +kernel

end MemoryStore
end FieldLogger
