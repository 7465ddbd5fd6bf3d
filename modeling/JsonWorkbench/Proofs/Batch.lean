import JsonWorkbench.Batch
import JsonWorkbench.Proofs.Files.Folder

/-!
# Batches Over One Folder

The files of a batch are read from one folder and their results are written into it, one after
another. What is done for a file looks at the folder as the files before have left it, and writes
at most one file (`processFile_cases`). So the result for a file is made of what it holds at the
start of the batch if no file before has written into it, and is there at the end if no file
behind has written in its place (`processFiles_holdsResult`).

Without these conditions it need not be: a result is named after its file alone, and the name can
be that of another result, or of a file that is still to be read
(`not_forall_processFiles_holdsResult`).

## Main definitions

* `Task.textOf?` — what a task makes of the bytes of a file.
* `Runs` — a batch as steps from folder to folder.
* `HoldsResult` — a result is there, and made of what its file holds at the start.
* `Undisturbed` — no other file has written into a file, or in the place of its result.

## Main results

* `processFile_cases`, `run_processFile_of_write` — what is done for a file.
* `processFiles_holdsResult` — undisturbed files have their results, and no other file changes.
* `holdsResult_of_pairwise` — the paths and names that leave all files of a batch undisturbed.
* `not_forall_processFiles_holdsResult` — a file that is disturbed may not have its own result.
-/

namespace JsonWorkbench

/-- Whether a task writes results. -/
def Task.Writes : Task → Prop
  | .validate _ => False
  | _ => True

/-- The text that a task makes of the bytes of a file, if they are a document of which it makes
one. -/
def Task.textOf? (t : Task) (bytes : List UInt8) : Option String :=
  match Text.decode bytes with
  | .error _ => none
  | .ok text =>
    match Json.parse text with
    | .error _ => none
    | .ok v =>
      match t.result? v with
      | .ok (some content) => some content
      | _ => none

variable {o : BatchOptions} {f g h : Folder} {path : String} {paths : List String} {r : FileResult}
  {results before behind : List FileResult}

/-! ### One file -/

/-- A task that writes results makes one of every document for which it does not fail. -/
theorem Task.Writes.result?_ne {t : Task} (ht : t.Writes) (v : Value) : t.result? v ≠ .ok none := by
  intro h
  cases t with
  | validate schema => exact ht
  | format => cases h
  | minify => cases h
  | convert target =>
      rw [Task.result?] at h
      cases hencode : encode {} target v with
      | error e => simp [hencode, Except.map] at h
      | ok content => simp [hencode, Except.map] at h

/-- A task that writes results checks no document against a schema. -/
theorem Task.Writes.violation?_eq {t : Task} (ht : t.Writes) (v : Value) :
    t.violation? v = none := by
  cases t with
  | validate schema => exact absurd ht not_false
  | format | minify | convert => rfl

/-- The document in a file of a folder. -/
def Folder.document (f : Folder) (limit : Nat) (path : String) : Except Error Value :=
  ((f.read path.toList).mapError (.fileOpen path)).bind fun bytes =>
    ((textOf (limit ≤ bytes.length) bytes).mapError (.fileOpen path)).bind fun text =>
      (Json.parse text).mapError .parse

/-- Reading a document leaves the folder as it is. -/
theorem run_readDocument (limit : Nat) (path : String) (f : Folder) :
    (readDocument limit path : FolderM _).run f = pure (f.document limit path, f) := by
  have hread : (FileAccess.read path : FolderM _).run f = pure (f.read path.toList, f) := rfl
  simp only [readDocument, readText, Folder.document, StateT.run_bind, hread, pure_bind]
  cases f.read path.toList with
  | error fault => rfl
  | ok bytes => rfl

/-- Writing a text writes its bytes. -/
theorem run_writeText (path content : String) (f : Folder) :
    (writeText path content : FolderM _).run f =
      match f.write path.toList (Text.encode content) with
      | (g, some fault) => pure (.error (.fileWrite path fault), g)
      | (g, none) => pure (.ok (), g) := by
  have hwrite : (FileAccess.write path (Text.encode content) : FolderM _).run f =
      pure ((f.write path.toList (Text.encode content)).2,
        (f.write path.toList (Text.encode content)).1) := rfl
  simp only [writeText, StateT.run_bind, hwrite, pure_bind]
  rcases f.write path.toList (Text.encode content) with ⟨g, - | fault⟩
  · rfl
  · rfl

/-- The document in a file is what its bytes say. -/
theorem document_eq_ok_iff {limit : Nat} {v : Value} : f.document limit path = .ok v ↔
    ∃ bytes text, f.read path.toList = .ok bytes ∧ Text.decode bytes = .ok text ∧
      Json.parse text = .ok v := by
  unfold Folder.document textOf
  cases f.read path.toList with
  | error fault => simp [Except.mapError, Except.bind]
  | ok bytes =>
      cases hdecode : Text.decode bytes with
      | error fault => simp [hdecode, Except.mapError, Except.bind]
      | ok text =>
          cases hparse : Json.parse text with
          | error e => simp [hdecode, hparse, Except.mapError, Except.bind]
          | ok w => simp [hdecode, hparse, Except.mapError, Except.bind]

/-- What a task makes of bytes is what it makes of the document that they say. -/
theorem textOf?_eq_some_iff {t : Task} {bytes : List UInt8} {content : String} :
    t.textOf? bytes = some content ↔ ∃ text v, Text.decode bytes = .ok text ∧
      Json.parse text = .ok v ∧ t.result? v = .ok (some content) := by
  unfold Task.textOf?
  cases hdecode : Text.decode bytes with
  | error fault => simp
  | ok text =>
      cases hparse : Json.parse text with
      | error e => simp [hparse]
      | ok v => rcases hresult : t.result? v with e | (- | made) <;> simp [hparse, hresult]

/-- Where the result for a file goes in a batch. -/
def BatchOptions.place (o : BatchOptions) (path : String) : String :=
  outputPath path o.outputFolder o.task.extension

/-- **What is done for a file**: it fails and no file changes, or its result is what the task makes
of the bytes that the file has, and is written in its place. -/
theorem processFile_cases (ht : o.task.Writes)
    (h : (processFile o path : FolderM _).run f = (r, g)) :
    r.path = path ∧ ((r.isSuccess = false ∧ r.output = none ∧ f.Kept g) ∨
      ∃ bytes content, r.output = some (o.place path) ∧ f.read path.toList = .ok bytes ∧
        o.task.textOf? bytes = some content ∧
        f.write (o.place path).toList (Text.encode content) = (g, none)) := by
  have hsize : (FileAccess.size path : FolderM _).run f =
      pure (((f.read path.toList).toOption.getD []).length, f) := rfl
  simp only [processFile, StateT.run_bind, hsize, pure_bind, run_readDocument] at h
  cases hv : f.document o.mappedSize path with
  | error e =>
      simp only [hv, StateT.run_pure] at h
      cases h
      exact ⟨rfl, .inl ⟨rfl, rfl, .refl f⟩⟩
  | ok v =>
      have hviolation := ht.violation?_eq v
      rcases hresult : o.task.result? v with e | (- | content)
      · simp only [hv, hviolation, hresult, StateT.run_pure] at h
        cases h
        exact ⟨rfl, .inl ⟨rfl, rfl, .refl f⟩⟩
      · exact absurd hresult (ht.result?_ne v)
      · simp only [hv, hviolation, hresult, StateT.run_bind, run_writeText] at h
        rcases hwrite : f.write (outputPath path o.outputFolder o.task.extension).toList
          (Text.encode content) with ⟨written, - | fault⟩
        · simp only [hwrite, pure_bind, StateT.run_pure] at h
          cases h
          obtain ⟨bytes, text, hread, hdecode, hparse⟩ := document_eq_ok_iff.mp hv
          exact ⟨rfl, .inr ⟨bytes, content, rfl, hread,
            textOf?_eq_some_iff.mpr ⟨text, v, hdecode, hparse, hresult⟩, hwrite⟩⟩
        · simp only [hwrite, pure_bind, StateT.run_pure] at h
          cases h
          exact ⟨rfl, .inl ⟨rfl, rfl, Folder.kept_of_write_fault hwrite⟩⟩

/-- **A file of which the task makes a text is done** if the text can be written in its place. -/
theorem run_processFile_of_write (ht : o.task.Writes) {bytes : List UInt8} {content : String}
    (hread : f.read path.toList = .ok bytes) (htext : o.task.textOf? bytes = some content)
    (hwrite : f.write (o.place path).toList (Text.encode content) = (g, none)) :
    (processFile o path : FolderM _).run f =
      ({ path, output := some (o.place path), size := bytes.length,
          written := content.utf8ByteSize }, g) := by
  have hsize : (FileAccess.size path : FolderM _).run f = pure (bytes.length, f) := by
    have hrun : (FileAccess.size path : FolderM _).run f =
      pure (((f.read path.toList).toOption.getD []).length, f) := rfl
    rw [hrun, hread]
    rfl
  obtain ⟨text, v, hdecode, hparse, hresult⟩ := textOf?_eq_some_iff.mp htext
  have hv : f.document o.mappedSize path = .ok v :=
    document_eq_ok_iff.mpr ⟨bytes, text, hread, hdecode, hparse⟩
  rw [BatchOptions.place] at hwrite
  simp only [processFile, StateT.run_bind, hsize, pure_bind, run_readDocument, hv,
    ht.violation?_eq, hresult, run_writeText, hwrite, StateT.run_pure]
  rfl

/-! ### One file after another -/

/-- A batch as steps from folder to folder. -/
inductive Runs (o : BatchOptions) : Folder → List FileResult → Folder → Prop
  /-- There is no file left. -/
  | nil {f : Folder} : Runs o f [] f
  /-- A file, and those behind it. -/
  | cons {f g h : Folder} {r : FileResult} {results : List FileResult}
      (hfile : (processFile o r.path : FolderM _).run f = (r, g)) (hrest : Runs o g results h) :
      Runs o f (r :: results) h

/-- A batch goes through its files in order. -/
theorem runs_processFiles (ht : o.task.Writes)
    (h : (processFiles o paths : FolderM _).run f = (results, g)) :
    results.map (·.path) = paths ∧ Runs o f results g := by
  induction paths generalizing f results with
  | nil =>
      cases h
      exact ⟨rfl, .nil⟩
  | cons path paths ih =>
      rcases hfile : (processFile o path : FolderM _).run f with ⟨r, k⟩
      rcases hrest : (processFiles o paths : FolderM _).run k with ⟨rs, l⟩
      have hrun : (processFiles o (path :: paths) : FolderM _).run f = (r :: rs, l) := by
        have hfirst : (processFile o path : FolderM _).run f = pure (r, k) := hfile
        have hothers : (paths.mapM (processFile o) : FolderM _).run k = pure (rs, l) := hrest
        simp only [processFiles, List.mapM_cons, StateT.run_bind, hfirst, hothers, pure_bind,
          StateT.run_pure]
        rfl
      obtain ⟨rfl, rfl⟩ := Prod.mk.inj (hrun.symm.trans h)
      obtain ⟨hpaths, hruns⟩ := ih hrest
      obtain ⟨rfl, -⟩ := processFile_cases ht hfile
      exact ⟨congrArg (r.path :: ·) hpaths, .cons hfile hruns⟩

/-- A batch up to a file, the file, and the batch behind it. -/
theorem Runs.split (h : Runs o f (before ++ r :: behind) g) :
    ∃ f₁ f₂, Runs o f before f₁ ∧ (processFile o r.path : FolderM _).run f₁ = (r, f₂) ∧
      Runs o f₂ behind g := by
  induction before generalizing f with
  | nil =>
      cases h with
      | cons hfile hrest => exact ⟨f, _, .nil, hfile, hrest⟩
  | cons r' before ih =>
      cases h with
      | cons hfile hrest =>
          obtain ⟨f₁, f₂, hbefore, hr, hbehind⟩ := ih hrest
          exact ⟨f₁, f₂, .cons hfile hbefore, hr, hbehind⟩

/-- What is done for a file takes nothing away. -/
theorem grows_processFile (ht : o.task.Writes)
    (h : (processFile o path : FolderM _).run f = (r, g)) : f.Grows g := by
  rcases (processFile_cases ht h).2 with ⟨-, -, hkept⟩ | ⟨_, _, -, -, -, hwrite⟩
  · exact hkept.grows
  · obtain ⟨-, _, -, hwrote⟩ := Folder.exists_of_write hwrite
    exact hwrote.grows

/-- A batch takes nothing away. -/
theorem Runs.grows (ht : o.task.Writes) (h : Runs o f results g) : f.Grows g := by
  induction h with
  | nil => exact .refl _
  | cons hfile _ ih => exact (grows_processFile ht hfile).trans ih

/-- **A batch changes only the files that its results are in**, as the folder is at the end. -/
theorem Runs.bytes?_eq (ht : o.task.Writes) (h : Runs o f results g) {names : List (List Char)}
    (hnames : ∀ r ∈ results, ∀ output, r.output = some output →
      g.names? output.toList ≠ some names) : g.bytes? names = f.bytes? names := by
  -- what a file has written stands at names of its own folder, which lead there to the end
  induction h with
  | nil => rfl
  | cons hfile hrest ih =>
      rw [List.forall_mem_cons] at hnames
      rw [ih hnames.2]
      rcases (processFile_cases ht hfile).2 with ⟨-, -, hkept⟩ | ⟨_, _, houtput, -, -, hwrite⟩
      · exact hkept.bytes? names
      · obtain ⟨-, written, hwritten, hwrote⟩ := Folder.exists_of_write hwrite
        rw [hwrote.bytes? names, if_neg]
        rintro rfl
        exact hnames.1 _ houtput ((hrest.grows ht).names? hwritten)

/-! ### Results -/

/-- The place of a result holds, at the end, what the task makes of the bytes that its file has at
the start. -/
def HoldsResult (t : Task) (f g : Folder) (r : FileResult) : Prop :=
  ∃ names bytes output content, g.names? r.path.toList = some names ∧
    f.bytes? names = some bytes ∧ t.textOf? bytes = some content ∧ r.output = some output ∧
    g.read output.toList = .ok (Text.encode content)

/-- No other file has written into a file before it was read, or in the place of its result
afterwards. -/
structure Undisturbed (g : Folder) (before : List FileResult) (r : FileResult)
    (behind : List FileResult) : Prop where
  /-- No result of a file before is in the file. -/
  input : ∀ r' ∈ before, ∀ output, r'.output = some output → ¬ g.SameFile output r.path
  /-- No result of a file behind is in the place of its result. -/
  output : ∀ r' ∈ behind, ∀ output output', r.output = some output → r'.output = some output' →
    ¬ g.SameFile output' output

/-- The result for an undisturbed file holds at the end. -/
theorem Runs.holdsResult (ht : o.task.Writes) (h : Runs o f (before ++ r :: behind) g)
    (hr : r.isSuccess = true) (hfree : Undisturbed g before r behind) :
    HoldsResult o.task f g r := by
  obtain ⟨f₁, f₂, hbefore, hfile, hbehind⟩ := h.split
  rcases (processFile_cases ht hfile).2 with ⟨hfail, -, -⟩ |
    ⟨bytes, content, houtput, hread, htext, hwrite⟩
  · rw [hr] at hfail
    cases hfail
  · obtain ⟨-, names, hnames, hbytes⟩ := Folder.read_eq_ok_iff.mp hread
    obtain ⟨hend, written, hwritten, hwrote⟩ := Folder.exists_of_write hwrite
    have hgrows : f₂.Grows g := hbehind.grows ht
    have hgrows' : f₁.Grows g := (grows_processFile ht hfile).trans hgrows
    have hinput : g.names? r.path.toList = some names := hgrows'.names? hnames
    have hplace : g.names? (o.place r.path).toList = some written := hgrows.names? hwritten
    refine ⟨names, bytes, _, content, hinput, ?_, htext, houtput, ?_⟩
    -- a result before that led into the file would lead there at the end
    · rw [← hbefore.bytes?_eq ht, hbytes]
      intro r' hr' output' houtput' hsame
      exact hfree.input r' hr' output' houtput'
        (Folder.sameFile_of_names? (hgrows'.names? hsame) hinput)
    · refine Folder.read_eq_ok_iff.mpr ⟨Folder.getLast?_ne_of_endsInName hend, written, hplace, ?_⟩
      rw [hbehind.bytes?_eq ht, hwrote.bytes? written, if_pos rfl]
      intro r' hr' output' houtput' hsame
      exact hfree.output r' hr' _ output' houtput houtput'
        (Folder.sameFile_of_names? hsame hplace)

/-- **The result for an undisturbed file holds at the end of a batch**: it is made of what the file
holds at the start. Only files that results are in have changed. -/
theorem processFiles_holdsResult (ht : o.task.Writes)
    (h : (processFiles o paths : FolderM _).run f = (results, g)) :
    results.map (·.path) = paths ∧
      (∀ before r behind, results = before ++ r :: behind → r.isSuccess = true →
        Undisturbed g before r behind → HoldsResult o.task f g r) ∧
      ∀ names, (∀ r ∈ results, ∀ output, r.output = some output →
        g.names? output.toList ≠ some names) → g.bytes? names = f.bytes? names := by
  obtain ⟨hpaths, hruns⟩ := runs_processFiles ht h
  refine ⟨hpaths, ?_, fun names => hruns.bytes?_eq ht⟩
  rintro before r behind rfl hr hfree
  exact hruns.holdsResult ht hr hfree

/-- A result is in the place of its file. -/
theorem Runs.output_eq (ht : o.task.Writes) (h : Runs o f results g) (hr : r ∈ results)
    {output : String} (houtput : r.output = some output) : output = o.place r.path := by
  induction h with
  | nil => cases hr
  | cons hfile _ ih =>
      rcases List.mem_cons.mp hr with rfl | hmem
      · rcases (processFile_cases ht hfile).2 with ⟨-, hnone, -⟩ | ⟨_, _, hsome, -⟩
        · rw [hnone] at houtput
          cases houtput
        · rw [hsome, Option.some.injEq] at houtput
          exact houtput.symm
      · exact ih hmem

/-- **Files apart have their results**: no result of one is in the file of one behind it, and no
result of one behind is in its place. -/
theorem holdsResult_of_pairwise (ht : o.task.Writes)
    (h : (processFiles o paths : FolderM _).run f = (results, g))
    (hapart : paths.Pairwise fun a b =>
      ¬ g.SameFile (o.place a) b ∧ ¬ g.SameFile (o.place b) (o.place a)) :
    ∀ r ∈ results, r.isSuccess = true → HoldsResult o.task f g r := by
  obtain ⟨rfl, hruns⟩ := runs_processFiles ht h
  intro r hr hsuccess
  obtain ⟨before, behind, rfl⟩ := List.append_of_mem hr
  rw [List.pairwise_map, List.pairwise_append, List.pairwise_cons] at hapart
  obtain ⟨-, ⟨hbehind, -⟩, hbefore⟩ := hapart
  refine hruns.holdsResult ht hsuccess ⟨?_, ?_⟩
  · intro r' hr' output ho
    rw [hruns.output_eq ht (List.mem_append_left _ hr') ho]
    exact (hbefore r' hr' r List.mem_cons_self).1
  · intro r' hr' output output' ho ho'
    rw [hruns.output_eq ht hr ho,
      hruns.output_eq ht (List.mem_append_right _ (List.mem_cons_of_mem r hr')) ho']
    exact (hbehind r' hr').2

/-- Distinct files that are indented where they are have their results. -/
theorem holdsResult_of_format (h : (processFiles { task := .format } paths : FolderM _).run f =
    (results, g)) (hdistinct : paths.Pairwise fun a b => ¬ g.SameFile a b) :
    ∀ r ∈ results, r.isSuccess = true → HoldsResult .format f g r := by
  have hplace : ∀ path, BatchOptions.place { task := .format } path = path := fun path => by
    simp [BatchOptions.place, outputPath, Task.extension]
  refine holdsResult_of_pairwise (o := { task := .format }) trivial h (hdistinct.imp ?_)
  intro a b hab
  rw [hplace, hplace]
  exact ⟨hab, fun hba => hab hba.symm⟩

/-- A folder with three files, of which the last has the name that is made from the second. -/
def threeFiles : Folder :=
  { files := [(["b.json".toList], Text.encode "[ ]"), (["a.json".toList], Text.encode "[1]"),
      (["a.min.json".toList], Text.encode "[2]")] }

/-- The folder behind a batch: the last file has been written over before it was read. -/
def fiveFiles : Folder :=
  { files := [(["b.json".toList], Text.encode "[ ]"), (["a.json".toList], Text.encode "[1]"),
      (["a.min.json".toList], Text.encode "[1]"), (["b.min.json".toList], Text.encode "[]"),
      (["a.min.min.json".toList], Text.encode "[1]")] }

/-- What becomes of the three files. -/
theorem exists_run_threeFiles :
    ∃ first second third,
      (processFiles { task := .minify } ["b.json", "a.json", "a.min.json"] : FolderM _).run
        threeFiles = ([first, second, third], fiveFiles) ∧
      first.output = some "b.min.json" ∧
      (second.path = "a.json" ∧ second.output = some "a.min.json" ∧ second.isSuccess = true) ∧
      third.path = "a.min.json" ∧ third.output = some "a.min.min.json" ∧
      third.isSuccess = true := by
  have hresults : ((processFiles { task := .minify } ["b.json", "a.json", "a.min.json"] :
      FolderM _).run threeFiles).1.map (fun r => (r.path, r.output, r.isSuccess)) =
        [("b.json", some "b.min.json", true), ("a.json", some "a.min.json", true),
          ("a.min.json", some "a.min.min.json", true)] := by
    decide +kernel
  have hfolder : ((processFiles { task := .minify } ["b.json", "a.json", "a.min.json"] :
      FolderM _).run threeFiles).2 = fiveFiles :=
    Folder.eq_of_files (by decide +kernel) (by decide +kernel)
  obtain ⟨first, others, hcons, hfirst, hothers⟩ := List.map_eq_cons_iff.mp hresults
  obtain ⟨second, last, rfl, hsecond, hlast⟩ := List.map_eq_cons_iff.mp hothers
  obtain ⟨third, rest, rfl, hthird, hrest⟩ := List.map_eq_cons_iff.mp hlast
  obtain rfl := List.map_eq_nil_iff.mp hrest
  simp only [Prod.mk.injEq] at hfirst hsecond hthird
  exact ⟨first, second, third, Prod.ext hcons hfolder, hfirst.2.1, hsecond, hthird⟩

/-- The second file is undisturbed, and has its result. -/
theorem processFiles_holdsResult_threeFiles :
    ∃ first second third,
      (processFiles { task := .minify } ["b.json", "a.json", "a.min.json"] : FolderM _).run
        threeFiles = ([first, second, third], fiveFiles) ∧
      (second.isSuccess = true ∧ Undisturbed fiveFiles [first] second [third]) ∧
      HoldsResult .minify threeFiles fiveFiles second := by
  obtain ⟨first, second, third, hrun, hfirst, ⟨hpath, hsecond, hsuccess⟩, -, hthird, -⟩ :=
    exists_run_threeFiles
  have hfree : Undisturbed fiveFiles [first] second [third] := by
    refine ⟨fun r hr output ho => ?_, fun r hr output output' ho ho' => ?_⟩
    · obtain rfl := List.mem_singleton.mp hr
      obtain rfl := Option.some.inj (hfirst.symm.trans ho)
      rw [hpath]
      decide +kernel
    · obtain rfl := List.mem_singleton.mp hr
      obtain rfl := Option.some.inj (hsecond.symm.trans ho)
      obtain rfl := Option.some.inj (hthird.symm.trans ho')
      decide +kernel
  refine ⟨first, second, third, hrun, ⟨hsuccess, hfree⟩, ?_⟩
  exact (processFiles_holdsResult (o := { task := .minify }) trivial hrun).2.1 [first] second
    [third] rfl hsuccess hfree

/-- **Files that are distinct need not have their results**: the one that is written over before it
is read has the result of the other. -/
theorem not_forall_processFiles_holdsResult :
    ¬ ∀ (o : BatchOptions) (f g : Folder) (paths : List String) (results : List FileResult),
      o.task.Writes → (paths.Pairwise fun a b => ¬ f.SameFile a b) →
      (processFiles o paths : FolderM _).run f = (results, g) →
      (∀ r ∈ results, r.isSuccess = true → HoldsResult o.task f g r) ∧
        ∀ names, (∀ r ∈ results, ∀ output, r.output = some output →
          g.names? output.toList ≠ some names) → g.bytes? names = f.bytes? names := by
  intro hall
  obtain ⟨first, second, third, hrun, -, -, hpath, houtput, hsuccess⟩ := exists_run_threeFiles
  obtain ⟨names, bytes, output, content, hnames, hbytes, htext, ho, hread⟩ :=
    (hall { task := .minify } _ _ _ _ trivial (by decide +kernel) hrun).1 third (by simp) hsuccess
  have hplace : fiveFiles.names? "a.min.json".toList = some ["a.min.json".toList] := by
    decide +kernel
  have hstart : threeFiles.bytes? ["a.min.json".toList] = some (Text.encode "[2]") := by
    decide +kernel
  have hown : Task.minify.textOf? (Text.encode "[2]") = some "[2]" := by
    decide +kernel
  have hend : (fiveFiles.read "a.min.min.json".toList).toOption = some (Text.encode "[1]") := by
    decide +kernel
  rw [hpath, hplace, Option.some.injEq] at hnames
  rw [← hnames, hstart, Option.some.injEq] at hbytes
  rw [← hbytes, hown, Option.some.injEq] at htext
  rw [houtput, Option.some.injEq] at ho
  rw [← ho] at hread
  rw [hread, ← htext] at hend
  exact absurd (Option.some.inj hend) (by decide)

end JsonWorkbench
