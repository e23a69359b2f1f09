import FieldLogger.Storage.DirectoryStore

/-! What opening does to a store on a directory, and what becomes of a file that is written in one go. It can fail to
    open, which leaves the store as it was. Once open it is empty and takes the bytes, all of them or, if the host
    fails at the write, the first of them (`writeFile_of_opens`); either way the path goes on leading to it. -/

namespace FieldLogger

/-! ### The tree -/

namespace Disk

theorem lookup_cons_of_ne {j k : Location} (h : k ≠ j) (m : DiskNode) (nodes : List (Location × DiskNode)) :
    List.lookup k ((j, m) :: nodes) = nodes.lookup k := by
  rw [List.lookup_cons, beq_eq_false_iff_ne.mpr h]

theorem lookup_place_self (l : Location) (n : DiskNode) (nodes : List (Location × DiskNode)) :
    (place l n nodes).lookup l = some n := by
  induction nodes with
  | nil => exact List.lookup_cons_self
  | cons e rest ih =>
    obtain ⟨j, m⟩ := e
    unfold place
    split
    · rename_i hj
      rw [hj]
      exact List.lookup_cons_self
    · rename_i hj
      rw [lookup_cons_of_ne hj]
      exact ih

theorem lookup_place_of_ne {k l : Location} (h : k ≠ l) (n : DiskNode) (nodes : List (Location × DiskNode)) :
    (place l n nodes).lookup k = nodes.lookup k := by
  induction nodes with
  | nil => exact lookup_cons_of_ne h n []
  | cons e rest ih =>
    obtain ⟨j, m⟩ := e
    unfold place
    split
    · rename_i hj
      rw [lookup_cons_of_ne (hj ▸ h), lookup_cons_of_ne (hj ▸ h)]
    · rw [List.lookup_cons, List.lookup_cons, ih]

theorem place_place (l : Location) (old n : DiskNode) (nodes : List (Location × DiskNode)) :
    place l n (place l old nodes) = place l n nodes := by
  induction nodes with
  | nil => simp [place]
  | cons e rest ih =>
    obtain ⟨j, m⟩ := e
    by_cases hj : l = j
    · simp [place, hj]
    · simp [place, hj, ih]

theorem setNode_setNode (d : Disk) (l : Location) (old n : DiskNode) :
    (d.setNode l old).setNode l n = d.setNode l n := by
  unfold setNode
  rw [place_place]

section
variable {d : Disk} {l : Location} {path : String}

theorem ne_nil_of_node? (h : d.node? l ≠ some .directory) : l ≠ [] := by
  rintro rfl
  exact h rfl

theorem node?_setNode (hl : l ≠ []) (n : DiskNode) (k : Location) :
    (d.setNode l n).node? k = if k = l then some n else d.node? k := by
  unfold node? setNode
  by_cases h : k = l
  · subst h
    rw [lookup_place_self]
    simp [hl]
  · rw [lookup_place_of_ne h, if_neg h]

theorem contents?_setNode_file (hl : l ≠ []) (bytes : Bytes) :
    (d.setNode l (.file bytes)).contents? l = some bytes := by
  unfold contents?
  rw [node?_setNode hl, if_pos rfl]

/-- A walk goes on from directories only, by names that are not too long. -/
theorem walk_cons_eq_ok {k finish : Location} {s : String} {names : List String} :
    d.walk k (s :: names) = .ok finish ↔
      d.node? k = some .directory ∧ s.utf8ByteSize ≤ maxNameBytes ∧
        d.walk (if s = "." then k else if s = ".." then k.dropLast else k ++ [s]) names = .ok finish := by
  rw [walk]
  rcases d.node? k with _ | contents | _
  · simp
  · simp
  · simp only [true_and]
    by_cases hhere : s = "."
    · subst hhere
      simp [show ".".utf8ByteSize ≤ maxNameBytes by decide]
    · by_cases hup : s = ".."
      · subst hup
        simp [show "..".utf8ByteSize ≤ maxNameBytes by decide]
      · by_cases hlong : maxNameBytes < s.utf8ByteSize
        · simp [hhere, hup, hlong, Nat.not_le.mpr hlong]
        · simp [hhere, hup, hlong, Nat.not_lt.mp hlong]

/-- What stands at a location that is no directory is not on the way of a walk, so a change of it leads no walk
    elsewhere. -/
theorem walk_setNode (h : d.node? l ≠ some .directory) (n : DiskNode) {k finish : Location} {names : List String}
    (hwalk : d.walk k names = .ok finish) : (d.setNode l n).walk k names = .ok finish := by
  induction names generalizing k with
  | nil => exact hwalk
  | cons s names ih =>
    obtain ⟨hdirectory, hsize, hrest⟩ := walk_cons_eq_ok.mp hwalk
    have hne : k ≠ l := by
      rintro rfl
      exact h hdirectory
    refine walk_cons_eq_ok.mpr ⟨?_, hsize, ih hrest⟩
    rw [node?_setNode (ne_nil_of_node? h), if_neg hne, hdirectory]

/-! ### Emptying a file -/

/-- The path leads to a file or to a place for one. -/
structure LeadsTo (d : Disk) (path : String) (l : Location) : Prop where
  walks : ∃ r, route? path = .ok r ∧ r.trailingSlash = false ∧ d.walk (d.start r) r.segments = .ok l
  noDirectory : d.node? l ≠ some .directory

theorem leadsTo_of_openTruncated {opened : Disk} (h : d.openTruncated path = .ok (l, opened)) :
    d.LeadsTo path l ∧ opened = d.setNode l (.file []) := by
  unfold openTruncated at h
  cases hroute : route? path with
  | error e =>
    rw [hroute] at h
    cases h
  | ok r =>
    rw [hroute] at h
    dsimp only [bind, Except.bind] at h
    cases hwalk : d.walk (d.start r) r.segments with
    | error e =>
      rw [hwalk] at h
      cases h
    | ok k =>
      rw [hwalk] at h
      dsimp only at h
      split at h
      · cases h
      · rename_i hslash
        split at h
        · cases h
        · rename_i hnode
          obtain ⟨rfl, rfl⟩ := Prod.mk.inj (Except.ok.inj h)
          exact ⟨⟨⟨r, hroute, Bool.eq_false_iff.mpr hslash, hwalk⟩, hnode⟩, rfl⟩

theorem LeadsTo.openTruncated (h : d.LeadsTo path l) : d.openTruncated path = .ok (l, d.setNode l (.file [])) := by
  obtain ⟨⟨r, hroute, hslash, hwalk⟩, hnode⟩ := h
  unfold Disk.openTruncated
  rw [hroute]
  dsimp only [bind, Except.bind]
  rw [hwalk, hslash]
  dsimp only
  rw [if_neg Bool.false_ne_true]
  split
  · rename_i hdirectory
    exact absurd hdirectory hnode
  · rfl

theorem LeadsTo.setNode (h : d.LeadsTo path l) (bytes : Bytes) : (d.setNode l (.file bytes)).LeadsTo path l := by
  obtain ⟨⟨r, hroute, hslash, hwalk⟩, hnode⟩ := h
  refine ⟨⟨r, hroute, hslash, walk_setNode hnode _ hwalk⟩, ?_⟩
  rw [node?_setNode (ne_nil_of_node? hnode), if_pos rfl]
  exact nofun

theorem LeadsTo.openExisting (h : d.LeadsTo path l) {n : DiskNode} (hn : d.node? l = some n) :
    d.openExisting path = .ok l := by
  obtain ⟨⟨r, hroute, hslash, hwalk⟩, -⟩ := h
  unfold Disk.openExisting locate
  rw [hroute]
  dsimp only [bind, Except.bind]
  rw [hslash, if_neg Bool.false_ne_true, hwalk]
  dsimp only
  rw [hn]

end
end Disk

/-! ### The store -/

namespace DirectoryStore
variable {s s' : DirectoryStore} {path : String} {mode : OpenMode} {data : Bytes} {location : Location}

/-! ### Opening -/

theorem openFile_cases (s : DirectoryStore) (path : String) (mode : OpenMode) :
    (∃ e, ByteStore.openFile s path mode = (.error e, s)) ∨
      s.mounted = true ∧ s.faults.opening = none ∧
        ∃ location disk, s.disk.openIn mode (joinPath s.root path) = .ok (location, disk) ∧
          ByteStore.openFile s path mode = (.ok (), { s with disk, handle := some ⟨location, mode, 0⟩ }) := by
  change (∃ e, s.openFile path mode = (.error e, s)) ∨ s.mounted = true ∧ s.faults.opening = none ∧
    ∃ location disk, s.disk.openIn mode (joinPath s.root path) = .ok (location, disk) ∧
      s.openFile path mode = (.ok (), { s with disk, handle := some ⟨location, mode, 0⟩ })
  unfold openFile
  split
  · exact Or.inl ⟨_, rfl⟩
  · rename_i hmounted
    dsimp only
    split
    · exact Or.inl ⟨_, rfl⟩
    · exact Or.inl ⟨_, rfl⟩
    · rename_i location disk hopening hdisk
      exact Or.inr ⟨by simpa using hmounted, hopening, location, disk, hdisk, rfl⟩

theorem openFile_ok (hs : s.mounted = true) (hopening : s.faults.opening = none) {disk : Disk}
    (h : s.disk.openIn mode (joinPath s.root path) = .ok (location, disk)) :
    ByteStore.openFile s path mode = (.ok (), { s with disk, handle := some ⟨location, mode, 0⟩ }) := by
  change s.openFile path mode = _
  unfold openFile
  rw [hs, if_neg (by decide), hopening]
  dsimp only
  rw [h]

/-- The path names a file of the directory, or a place for one, and the host opens it. -/
structure Opens (s : DirectoryStore) (path : String) (location : Location) : Prop where
  mounted : s.mounted = true
  opening : s.faults.opening = none
  leads : s.disk.LeadsTo (joinPath s.root path) location

/-- The store after a file was opened to be written. -/
def emptied (s : DirectoryStore) (location : Location) : DirectoryStore :=
  { s with disk := s.disk.setNode location (.file []), handle := some ⟨location, .write, 0⟩ }

theorem openFile_of_opens (h : s.Opens path location) :
    ByteStore.openFile s path .write = (.ok (), s.emptied location) :=
  openFile_ok h.mounted h.opening h.leads.openTruncated

theorem close_opened {h : DiskHandle} (hh : s.handle = some h) :
    ByteStore.close s = (.ok (), { s with handle := none }) := by
  change s.close = _
  unfold close
  rw [hh]

/-! ### Writing -/

theorem accept_error {f : HostFaults} {e : StorageError} (h : (f.accept data).1 = .error e) :
    ∃ fault, f.writing = some fault ∧ fault.taken < data.length ∧ (f.accept data).2 = data.take fault.taken := by
  unfold HostFaults.accept at h ⊢
  split at h
  · cases h
  · rename_i fault hfault
    obtain ⟨hwriting, hless⟩ := Option.filter_eq_some_iff.mp hfault
    exact ⟨fault, hwriting, of_decide_eq_true hless, rfl⟩

theorem write_opened {h : DiskHandle} (hh : s.handle = some h) (hmode : h.mode ≠ .read) (hdata : data ≠ []) :
    ByteStore.write s data = ((s.faults.accept data).1, s.put h (s.faults.accept data).2) := by
  change s.write data = _
  unfold write
  rw [hh]
  dsimp only
  rw [if_neg (by simpa using hdata), if_neg hmode]

/-- The store after a file was written and closed. -/
def withFile (s : DirectoryStore) (location : Location) (bytes : Bytes) : DirectoryStore :=
  { s with disk := s.disk.setNode location (.file bytes), handle := none }

/-- What goes into an emptied file is all that is in it. -/
theorem close_put (hl : location ≠ []) (s : DirectoryStore) (bytes : Bytes) :
    ByteStore.close ((s.emptied location).put ⟨location, .write, 0⟩ bytes) = (.ok (), s.withFile location bytes) := by
  rw [close_opened rfl]
  unfold put emptied withFile
  dsimp only
  rw [Disk.contents?_setNode_file hl, Disk.setNode_setNode]
  simp

/-- An opened file holds the bytes that are taken of what is written to it, in place of what it held. -/
theorem writeFile_of_opens (h : s.Opens path location) (hdata : data ≠ []) :
    ByteStore.writeFile s path .write data =
      ((s.faults.accept data).1, s.withFile location (s.faults.accept data).2) := by
  have hl := Disk.ne_nil_of_node? h.leads.noDirectory
  have hwrite : ByteStore.write (s.emptied location) data =
      ((s.faults.accept data).1, (s.emptied location).put ⟨location, .write, 0⟩ (s.faults.accept data).2) :=
    write_opened rfl nofun hdata
  unfold ByteStore.writeFile
  rw [openFile_of_opens h]
  dsimp only
  rw [hwrite]
  dsimp only
  rw [close_put hl]
  cases (s.faults.accept data).1 <;> rfl

/-- A file that cannot be written was not opened, which touches nothing, or it was opened and took the first of the
    bytes. -/
theorem writeFile_error {e : StorageError} (hdata : data ≠ [])
    (h : ByteStore.writeFile s path .write data = (.error e, s')) :
    ((¬∃ location, s.Opens path location) ∧ s' = s) ∨
      ∃ location fault, s.Opens path location ∧ s.faults.writing = some fault ∧ fault.taken < data.length ∧
        s' = s.withFile location (data.take fault.taken) := by
  rcases openFile_cases s path .write with ⟨e', hfailed⟩ | ⟨hmounted, hopening, location, disk, hdisk, -⟩
  · unfold ByteStore.writeFile at h
    rw [hfailed] at h
    refine Or.inl ⟨?_, (Prod.mk.inj h).2.symm⟩
    rintro ⟨location, hopens⟩
    cases hfailed.symm.trans (openFile_of_opens hopens)
  · have hopens : s.Opens path location := ⟨hmounted, hopening, (Disk.leadsTo_of_openTruncated hdisk).1⟩
    rw [writeFile_of_opens hopens hdata] at h
    obtain ⟨hresult, rfl⟩ := Prod.mk.inj h
    obtain ⟨fault, hwriting, hless, htaken⟩ := accept_error hresult
    rw [htaken]
    exact Or.inr ⟨location, fault, hopens, hwriting, hless, rfl⟩

/-- A file that was written can be opened again. -/
theorem Opens.withFile (h : s.Opens path location) (bytes : Bytes) : (s.withFile location bytes).Opens path location :=
  ⟨h.mounted, h.opening, h.leads.setNode bytes⟩

/-! ### Reading -/

/-- A file that was written is read back, also where its path led to nothing before. -/
theorem readFile_withFile (h : s.Opens path location) (hreading : s.faults.reading = none) (bytes : Bytes)
    (limit : Nat) :
    ByteStore.readFile (s.withFile location bytes) path limit = (.ok (bytes.take limit), s.withFile location bytes) := by
  have hl := Disk.ne_nil_of_node? h.leads.noDirectory
  have hnode : (s.disk.setNode location (.file bytes)).node? location = some (.file bytes) := by
    rw [Disk.node?_setNode hl, if_pos rfl]
  have hfound := (h.leads.setNode bytes).openExisting hnode
  have hopen : ByteStore.openFile (s.withFile location bytes) path .read =
      (.ok (), { s.withFile location bytes with handle := some ⟨location, .read, 0⟩ }) := by
    refine openFile_ok (s := s.withFile location bytes) h.mounted h.opening ?_
    unfold Disk.openIn withFile
    dsimp only
    rw [hfound]
    rfl
  have hread : ByteStore.read { s.withFile location bytes with handle := some ⟨location, .read, 0⟩ } limit =
      (.ok (bytes.take limit), { s.withFile location bytes with
        handle := some ⟨location, .read, 0 + (bytes.take limit).length⟩ }) := by
    change DirectoryStore.read _ limit = _
    unfold DirectoryStore.read withFile
    dsimp only
    rw [if_neg (by decide), hreading, Disk.contents?_setNode_file hl]
    rfl
  unfold ByteStore.readFile
  rw [hopen]
  dsimp only
  rw [hread]
  dsimp only
  rw [close_opened rfl]
  rfl

end DirectoryStore
end FieldLogger
