import JsonWorkbench.Files.Folder
import JsonWorkbench.Proofs.Text

/-!
# Writing Into Folders

Writing takes nothing away: what is a file stays a file, perhaps with other bytes, and what is a
folder stays a folder (`Grows`). As following a path looks at nothing but the kinds of what is on
the way, a path that has led somewhere leads there ever after (`Grows.follow`). So two paths that
lead to the same file can be told from the folder as it is in the end.

A file is written at the names that its path leads to once the folders on the way are there; the
bytes of all other files stay as they were (`exists_of_write`).

## Main definitions

* `Grows` — what is in a folder stays in it.
* `names?`, `SameFile` — the names that a path leads to, and two paths that lead to the same.

## Main results

* `exists_of_write`, `kept_of_write_fault` — what writing a file does, and what it leaves alone.
* `read_eq_ok_iff` — reading a file.
-/

namespace JsonWorkbench.Folder

variable {f g h : Folder} {path : List Char} {names : List (List Char)} {bytes : List UInt8}

/-- A folder is its files and the folders that have been created. -/
theorem eq_of_files (hfiles : f.files = g.files) (hfolders : f.folders = g.folders) : f = g := by
  cases f
  cases g
  cases hfiles
  cases hfolders
  rfl

/-! ### Kinds -/

/-- There is a file at some names exactly if it has bytes. -/
theorem kindAt?_eq_file_iff : f.kindAt? names = some .file ↔ (f.bytes? names).isSome = true := by
  unfold kindAt?
  split
  · next hsome => exact iff_of_true rfl hsome
  · next hnone =>
      split
      · exact iff_of_false (by simp) hnone
      · exact iff_of_false (by simp) hnone

/-- There is a folder at some names exactly if there is no file and something holds it there. -/
theorem kindAt?_eq_folder_iff : f.kindAt? names = some .folder ↔ f.bytes? names = none ∧
    (names.isEmpty || f.folders.contains names || f.files.any (names.isPrefixOf ·.1)) = true := by
  unfold kindAt?
  split
  · next hsome => exact iff_of_false (by simp) fun h => by simp [h.1] at hsome
  · next hnone =>
      rw [Bool.not_eq_true, Option.isSome_eq_false_iff, Option.isNone_iff_eq_none] at hnone
      split
      · next hfolder => exact iff_of_true rfl ⟨hnone, hfolder⟩
      · next hfolder => exact iff_of_false (by simp) fun h => hfolder h.2

/-- What is in a folder stays in it: files stay files, and folders stay folders. -/
def Grows (f g : Folder) : Prop :=
  ∀ names k, f.kindAt? names = some k → g.kindAt? names = some k

/-- Nothing has changed. -/
theorem Grows.refl (f : Folder) : f.Grows f := fun _ _ h => h

/-- What stays and stays, stays. -/
theorem Grows.trans (hfg : f.Grows g) (hgh : g.Grows h) : f.Grows h :=
  fun names k hk => hgh names k (hfg names k hk)

/-- What is at a place stays there. -/
theorem Grows.kind? (hfg : f.Grows g) {p : Place} {k : FileKind} (h : f.kind? p = some k) :
    g.kind? p = some k := by
  cases p with
  | inside names => exact hfg names k h
  | outside names => exact h

/-- Steps that have led to a place lead there. -/
theorem Grows.followFrom (hfg : f.Grows g) {p q : Place} {steps : List (List Char)}
    (h : f.followFrom p steps = .ok q) : g.followFrom p steps = .ok q := by
  induction steps generalizing p with
  | nil => exact h
  | cons piece rest ih =>
      rw [Folder.followFrom] at h ⊢
      cases hk : f.kind? p with
      | none => simp [hk] at h
      | some k =>
          rw [hfg.kind? hk]
          cases k with
          | file => simp [hk] at h
          | folder =>
              simp only [hk] at h ⊢
              cases hstep : step p piece with
              | error e => simp [hstep] at h
              | ok r =>
                  simp only [hstep] at h ⊢
                  exact ih h

/-- **A path that has led to a place leads there.** -/
theorem Grows.follow (hfg : f.Grows g) {p : Place} (h : f.follow path = .ok p) :
    g.follow path = .ok p := by
  unfold Folder.follow at h ⊢
  split
  · next hempty => simp [hempty] at h
  · next hempty =>
      rw [if_neg hempty] at h
      exact hfg.followFrom h

/-- The names below the folder that a path leads to, if it leads to some. -/
def names? (f : Folder) (path : List Char) : Option (List (List Char)) :=
  match f.follow path with
  | .ok (.inside names) => some names
  | _ => none

/-- The names that a path leads to are where it leads. -/
theorem names?_eq_some_iff : f.names? path = some names ↔ f.follow path = .ok (.inside names) := by
  unfold names?
  split
  · next hfollow => simp [hfollow]
  · next hnone => exact iff_of_false (by simp) fun h => hnone names h

/-- A path that has led to names leads to them. -/
theorem Grows.names? (hfg : f.Grows g) (h : f.names? path = some names) :
    g.names? path = some names :=
  names?_eq_some_iff.mpr (hfg.follow (names?_eq_some_iff.mp h))

/-- Two paths lead to the same names. -/
def SameFile (f : Folder) (a b : String) : Prop :=
  f.names? a.toList ≠ none ∧ f.names? a.toList = f.names? b.toList

instance (f : Folder) (a b : String) : Decidable (f.SameFile a b) :=
  inferInstanceAs (Decidable (_ ∧ _))

/-- Leading to the same names is symmetric. -/
theorem SameFile.symm {a b : String} (h : f.SameFile a b) : f.SameFile b a :=
  ⟨h.2 ▸ h.1, h.2.symm⟩

/-- Two paths that lead to some names lead to the same ones. -/
theorem sameFile_of_names? {a b : String} (ha : f.names? a.toList = some names)
    (hb : f.names? b.toList = some names) : f.SameFile a b :=
  ⟨by simp [ha], ha.trans hb.symm⟩

/-! ### Files -/

/-- The bytes of the first file of a list, and of the others. -/
theorem lookup_cons (n : List (List Char)) (b : List UInt8)
    (files : List (List (List Char) × List UInt8)) (names : List (List Char)) :
    ((n, b) :: files).lookup names = if names = n then some b else files.lookup names := by
  rw [List.lookup_cons]
  by_cases hn : names = n
  · simp [hn]
  · rw [if_neg hn, beq_false_of_ne hn]

/-- The bytes of all files when those of one are put. -/
theorem lookup_putFile (files : List (List (List Char) × List UInt8)) (names : List (List Char))
    (bytes : List UInt8) (others : List (List Char)) :
    (putFile files names bytes).lookup others =
      if others = names then some bytes else files.lookup others := by
  induction files with
  | nil => rw [putFile, lookup_cons]
  | cons file files ih =>
      obtain ⟨n, b⟩ := file
      rw [putFile, lookup_cons n b]
      by_cases hn : n = names
      · rw [if_pos hn, lookup_cons, hn]
        by_cases ho : others = names
        · rw [if_pos ho, if_pos ho]
        · simp only [if_neg ho]
      · rw [if_neg hn, lookup_cons, ih]
        by_cases ho : others = n
        · rw [if_pos ho, if_pos ho, if_neg (by rw [ho]; exact hn)]
        · rw [if_neg ho, if_neg ho]

/-- The names of the files that are there stay. -/
theorem any_putFile {files : List (List (List Char) × List UInt8)} {p : List (List Char) → Bool}
    (h : (files.any (p ·.1)) = true) (names : List (List Char)) (bytes : List UInt8) :
    ((putFile files names bytes).any (p ·.1)) = true := by
  induction files with
  | nil => simp at h
  | cons file files ih =>
      obtain ⟨n, b⟩ := file
      rw [List.any_cons, Bool.or_eq_true] at h
      rw [putFile]
      split
      · rw [List.any_cons, Bool.or_eq_true]
        exact h
      · rw [List.any_cons, Bool.or_eq_true]
        exact h.imp_right ih

/-- Putting bytes where there is no folder leaves all kinds as they are. -/
theorem grows_putFile (h : f.kindAt? names ≠ some .folder) (bytes : List UInt8) :
    f.Grows { f with files := putFile f.files names bytes } := by
  intro others k hk
  cases k with
  | file =>
      rw [kindAt?_eq_file_iff, bytes?] at hk ⊢
      rw [lookup_putFile]
      split
      · rfl
      · exact hk
  | folder =>
      -- the new file is at another place, and a folder above it has only gained by it
      have hne : others ≠ names := by
        rintro rfl
        exact h hk
      rw [kindAt?_eq_folder_iff, bytes?] at hk ⊢
      rw [lookup_putFile, if_neg hne]
      refine ⟨hk.1, ?_⟩
      have hfolder := hk.2
      rw [Bool.or_eq_true] at hfolder ⊢
      exact hfolder.imp_right fun hany =>
        any_putFile (p := fun n => others.isPrefixOf n) hany names bytes

/-- A folder in which a file has been written: nothing is taken away, and no other file has
changed. -/
structure Wrote (f : Folder) (names : List (List Char)) (bytes : List UInt8) (g : Folder) :
    Prop where
  /-- What was there is there. -/
  grows : f.Grows g
  /-- The bytes of the files. -/
  bytes? : ∀ others, g.bytes? others = if others = names then some bytes else f.bytes? others

/-! ### Creating folders -/

/-- A folder in which folders have been created: no file has changed. -/
structure Kept (f g : Folder) : Prop where
  /-- What was there is there. -/
  grows : f.Grows g
  /-- The bytes of the files. -/
  bytes? : ∀ names, g.bytes? names = f.bytes? names

/-- Nothing has changed. -/
theorem Kept.refl (f : Folder) : f.Kept f := ⟨.refl f, fun _ => rfl⟩

/-- Created folders and created folders. -/
theorem Kept.trans (hfg : f.Kept g) (hgh : g.Kept h) : f.Kept h :=
  ⟨hfg.grows.trans hgh.grows, fun names => (hgh.bytes? names).trans (hfg.bytes? names)⟩

/-- Creating a folder changes no file. -/
theorem kept_of_createOne (h : f.createOne path = .ok g) : f.Kept g := by
  unfold createOne at h
  split at h
  · cases h
  · split at h
    · cases h
    · next names hkind =>
        cases h
        refine ⟨fun others k hk => ?_, fun _ => rfl⟩
        cases k with
        | file =>
            rw [kindAt?_eq_file_iff] at hk ⊢
            exact hk
        | folder =>
            rw [kindAt?_eq_folder_iff] at hk ⊢
            refine ⟨hk.1, ?_⟩
            have hfolder := hk.2
            simp only [Bool.or_eq_true, List.contains_append] at hfolder ⊢
            exact hfolder.imp_left fun hor => hor.imp_right .inl
    · cases h

/-- That a folder is already there changes no file either. -/
theorem kept_of_orThere {result : Except FileFault Folder}
    (hresult : ∀ h, result = .ok h → f.Kept h) (h : f.orThere path result = .ok g) :
    f.Kept g := by
  unfold orThere at h
  split at h
  · cases h
    exact hresult _ rfl
  · split at h
    · cases h
      exact .refl f
    · cases h

/-- **Creating a folder and those above it changes no file.** -/
theorem kept_of_createAllFrom {fuel : Nat} (h : f.createAllFrom fuel path = .ok g) : f.Kept g := by
  induction fuel generalizing path g with
  | zero =>
      cases h
      exact .refl f
  | succ fuel ih =>
      rw [createAllFrom] at h
      split at h
      · cases h
        exact .refl f
      · split at h
        · split at h
          · cases h
          · split at h
            · cases h
            · next habove =>
                exact (ih habove).trans (kept_of_orThere (fun _ => kept_of_createOne) h)
        · exact kept_of_orThere (fun _ => kept_of_createOne) h

/-! ### Writing -/

/-- A file is written where its path leads. -/
theorem exists_of_writeHere (h : f.writeHere path bytes = .ok g) :
    endsInName path = true ∧ ∃ names, f.names? path = some names ∧ f.Wrote names bytes g := by
  unfold writeHere at h
  split at h
  · cases h
  · next p hfollow =>
      split at h
      · cases h
      · next hend =>
          refine ⟨by simpa using hend, ?_⟩
          split at h
          · cases h
          · next names hkind =>
              cases h
              exact ⟨names, names?_eq_some_iff.mpr hfollow, grows_putFile hkind bytes,
                lookup_putFile f.files names bytes⟩
          · cases h

/-- **What writing a file does**: it is written where its path leads once the folders on the way are
there. -/
theorem exists_of_write (h : f.write path bytes = (g, none)) :
    endsInName path = true ∧ ∃ names, g.names? path = some names ∧ f.Wrote names bytes g := by
  unfold write at h
  split at h
  · cases h
  · next created hcreated =>
      split at h
      · cases h
      · next hwrite =>
          cases h
          have hkept := kept_of_createAllFrom hcreated
          obtain ⟨hend, names, hnames, hwrote⟩ := exists_of_writeHere hwrite
          refine ⟨hend, names, hwrote.grows.names? hnames, hkept.grows.trans hwrote.grows, ?_⟩
          intro others
          rw [hwrote.bytes? others, hkept.bytes? others]

/-- **A file that could not be written leaves all files as they were.** -/
theorem kept_of_write_fault {fault : FileFault} (h : f.write path bytes = (g, some fault)) :
    f.Kept g := by
  unfold write at h
  split at h
  · cases h
    exact .refl f
  · next hcreated =>
      split at h
      · cases h
        exact kept_of_createAllFrom hcreated
      · cases h

/-! ### Reading -/

/-- A path that ends in a name does not end in a slash. -/
theorem getLast?_ne_of_endsInName (h : endsInName path = true) : path.getLast? ≠ some '/' := by
  intro hlast
  obtain ⟨start, rfl⟩ := List.getLast?_eq_some_iff.mp hlast
  rw [endsInName, Files.pieces, Text.pieces_concat (by decide), List.getLast?_concat] at h
  exact absurd h (by decide)

/-- A path that leads to a file does not end in a slash. -/
theorem exists_of_stat (h : f.stat path = .ok .file) :
    path.getLast? ≠ some '/' ∧ ∃ p, f.follow path = .ok p ∧ f.kind? p = some .file := by
  unfold stat at h
  split at h
  · cases h
  · next p hfollow =>
      split at h
      · cases h
      · next hkind =>
          split at h
          · cases h
          · next hlast => exact ⟨by simpa using hlast, p, hfollow, hkind⟩
      · cases h

/-- **Reading a file** gives its bytes, unless the path asks for a folder. -/
theorem read_eq_ok_iff : f.read path = .ok bytes ↔
    path.getLast? ≠ some '/' ∧ ∃ names, f.names? path = some names ∧
      f.bytes? names = some bytes := by
  constructor
  · intro h
    unfold read at h
    split at h
    · cases h
    · cases h
    · next hstat =>
        obtain ⟨hlast, p, hfollow, hkind⟩ := exists_of_stat hstat
        rw [hfollow] at h
        cases p with
        | outside names => cases h
        | inside names =>
            obtain ⟨b, hb⟩ := Option.isSome_iff_exists.mp (kindAt?_eq_file_iff.mp hkind)
            simp only [hb, Option.getD_some] at h
            cases h
            exact ⟨hlast, names, names?_eq_some_iff.mpr hfollow, hb⟩
  · rintro ⟨hlast, names, hnames, hbytes⟩
    have hfollow := names?_eq_some_iff.mp hnames
    have hkind : f.kind? (.inside names) = some .file :=
      kindAt?_eq_file_iff.mpr (by rw [hbytes, Option.isSome_some])
    have hstat : f.stat path = .ok .file := by
      simp only [stat, hfollow, hkind, beq_eq_false_iff_ne.mpr hlast, Bool.false_eq_true, if_false]
    simp only [read, hstat, hfollow, hbytes, Option.getD_some]

end JsonWorkbench.Folder
