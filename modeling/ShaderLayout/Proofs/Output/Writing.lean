import ShaderLayout.Output.Writing
import ShaderLayout.Proofs.File.Tree

/-!
Writing generated files one after another. What a file leaves behind stays
unless a later file goes to the same place, so that the last one there is up to
date in the end. All of them are exactly when files that go to one place agree.
-/

namespace ShaderLayout.GeneratedFile

variable {tree later : Tree} {file : GeneratedFile} {files rest : List GeneratedFile}

theorem isUpToDate_iff : file.isUpToDate tree ↔ tree.readText file.path = .ok file.content := by
  rw [isUpToDate]
  cases tree.readText file.path with
  | error error => exact iff_of_false nofun nofun
  | ok text =>
      rw [decide_eq_true_iff, Except.ok.injEq]

theorem stale_eq_nil_iff : stale tree files = [] ↔ ∀ file ∈ files, file.isUpToDate tree := by
  rw [stale, List.map_eq_nil_iff, List.filter_eq_nil_iff]
  simp only [Bool.not_eq_true', Bool.not_eq_false]

theorem prepare_grows (file : GeneratedFile) (tree : Tree) {changed : Location → Prop} :
    tree.Grows (file.prepare tree).1 changed := by
  rw [prepare]
  split
  · exact .refl tree changed
  · exact Tree.makeDirectories_grows _

theorem prepare_confined (file : GeneratedFile) (tree : Tree) {changed : Location → Prop} :
    tree.Confined (file.prepare tree).1 changed := by
  rw [prepare]
  split
  · exact .refl tree changed
  · exact Tree.makeDirectories_confined _

/-- A file that was written is up to date, and no other file changed. -/
theorem write_eq_ok (h : file.write tree = (later, .ok ())) :
    file.isUpToDate later ∧ ∃ location, later.LeadsTo file.path location ∧
      tree.Grows later (· = location) ∧ tree.Confined later (· = location) := by
  rw [GeneratedFile.write] at h
  split at h
  · cases h
  next prepared hprepared =>
    have hgrows : tree.Grows (file.prepare tree).1 fun _ => False := prepare_grows file tree
    have hconfined : tree.Confined (file.prepare tree).1 fun _ => False :=
      prepare_confined file tree
    rw [hprepared] at hgrows hconfined
    split at h
    · next written hwritten =>
        cases h
        obtain ⟨location, hleads, hinsert, hentry, hwrote⟩ := Tree.write_eq_ok hwritten
        refine ⟨isUpToDate_iff.mpr (Tree.readText_eq_ok_iff.mpr ⟨location, hleads, hentry⟩),
          location, hleads, (hgrows.mono nofun).trans hwrote, (hconfined.mono nofun).trans ?_⟩
        rw [hinsert]
        exact prepared.confined_insert location _
    · cases h

/-- One file of a writing: it is up to date when the later ones are written. -/
theorem writeAll_cons (h : (writeAll tree (file :: rest)).failure = none) :
    ∃ between location, file.isUpToDate between ∧ between.LeadsTo file.path location ∧
      tree.Grows between (· = location) ∧ tree.Confined between (· = location) ∧
      (writeAll between rest).failure = none ∧
      (writeAll tree (file :: rest)).tree = (writeAll between rest).tree := by
  rw [writeAll] at h ⊢
  split at h
  · next hcurrent =>
      rw [if_pos hcurrent]
      obtain ⟨location, hleads, -⟩ := Tree.readText_eq_ok_iff.mp (isUpToDate_iff.mp hcurrent)
      exact ⟨tree, location, hcurrent, hleads, .refl tree _, .refl tree _, h, rfl⟩
  next hstale =>
    rw [if_neg hstale]
    split at h
    · cases h
    next between hwrite =>
      obtain ⟨hcurrent, location, hleads, hgrows, hconfined⟩ := write_eq_ok hwrite
      exact ⟨between, location, hcurrent, hleads, hgrows, hconfined, h, rfl⟩

/-- What a writing without failure leaves behind: only files that were to be written change, all of
them are there, and one is up to date unless a later one goes to its place. -/
structure Settled (tree later : Tree) (files : List GeneratedFile) : Prop where
  grows : tree.Grows later fun location => ∃ file ∈ files, later.LeadsTo file.path location
  leads : ∀ file ∈ files, ∃ location, later.LeadsTo file.path location
  last : ∀ before file after, files = before ++ file :: after →
    (∀ other ∈ after, ∀ location, later.LeadsTo file.path location →
      ¬later.LeadsTo other.path location) →
    file.isUpToDate later

theorem settled_writeAll (h : (writeAll tree files).failure = none) :
    Settled tree (writeAll tree files).tree files := by
  induction files generalizing tree with
  | nil => exact ⟨.refl tree _, nofun, fun before file after hfiles => by simp at hfiles⟩
  | cons file rest ih =>
      obtain ⟨between, location, hcurrent, hleads, hgrows, -, hrest, htree⟩ := writeAll_cons h
      have hsettled := ih hrest
      rw [htree]
      -- The others only add to what the first leaves behind, so that its path still leads there.
      have hlater := hleads.of_grows hsettled.grows
      refine ⟨?_, List.forall_mem_cons.mpr ⟨⟨location, hlater⟩, hsettled.leads⟩, ?_⟩
      · refine Tree.Grows.trans (hgrows.mono ?_) (hsettled.grows.mono ?_)
        · rintro _ rfl
          exact ⟨file, List.mem_cons_self, hlater⟩
        · rintro place ⟨other, hother, hplace⟩
          exact ⟨other, List.mem_cons_of_mem _ hother, hplace⟩
      · intro before current after hfiles hapart
        rcases before with _ | ⟨first, before⟩
        · obtain ⟨rfl, rfl⟩ := List.cons.inj hfiles
          refine isUpToDate_iff.mpr (Tree.readText_of_grows (isUpToDate_iff.mp hcurrent)
            hsettled.grows ?_)
          rintro place hplace ⟨other, hother, hother'⟩
          exact hapart other hother place hplace hother'
        · exact hsettled.last before current after (List.cons.inj hfiles).2 hapart

/-- No file changes but those that are to be written. -/
theorem confined_writeAll (h : (writeAll tree files).failure = none) :
    tree.Confined (writeAll tree files).tree fun location =>
      ∃ file ∈ files, (writeAll tree files).tree.LeadsTo file.path location := by
  induction files generalizing tree with
  | nil => exact .refl tree _
  | cons file rest ih =>
      obtain ⟨between, location, -, hleads, -, hconfined, hrest, htree⟩ := writeAll_cons h
      rw [htree]
      refine Tree.Confined.trans (hconfined.mono ?_) ((ih hrest).mono ?_)
      · rintro _ rfl
        exact ⟨file, List.mem_cons_self, hleads.of_grows (settled_writeAll hrest).grows⟩
      · rintro place ⟨other, hother, hplace⟩
        exact ⟨other, List.mem_cons_of_mem _ hother, hplace⟩

/-! ### The last file of a place -/

/-- The last of the files that go where a path leads. -/
def last? (tree : Tree) (files : List GeneratedFile) (path : Path) : Option GeneratedFile :=
  files.reverse.find? fun other => tree.fileAt? other.path = tree.fileAt? path

theorem exists_last? (tree : Tree) (hfile : file ∈ files) :
    ∃ last, last? tree files file.path = some last := by
  rw [← Option.isSome_iff_exists, last?, List.find?_isSome]
  exact ⟨file, List.mem_reverse.mpr hfile, decide_eq_true rfl⟩

theorem of_last?_eq_some {path : Path} (h : last? tree files path = some file) :
    tree.fileAt? file.path = tree.fileAt? path ∧
      ∃ before after, files = before ++ file :: after ∧
        ∀ other ∈ after, tree.fileAt? other.path ≠ tree.fileAt? path := by
  rw [last?, List.find?_eq_some_iff_append] at h
  obtain ⟨hplace, after, before, hfiles, hafter⟩ := h
  refine ⟨of_decide_eq_true hplace, before.reverse, after.reverse, ?_, fun other hother => ?_⟩
  · rw [← files.reverse_reverse, hfiles]
    simp
  · simpa using hafter other (List.mem_reverse.mp hother)

/-- In the end a path holds the content of the last file that goes where it leads. -/
theorem Settled.readText (h : Settled tree later files) (hfile : file ∈ files)
    {last : GeneratedFile} (hlast : last? later files file.path = some last) :
    later.readText file.path = .ok last.content := by
  obtain ⟨hplace, before, after, hfiles, hafter⟩ := of_last?_eq_some hlast
  obtain ⟨location, hleads⟩ := h.leads file hfile
  rw [Tree.fileAt?_eq_some_iff.mpr hleads] at hplace hafter
  have hlast := Tree.fileAt?_eq_some_iff.mp hplace
  have hcurrent : last.isUpToDate later := by
    refine h.last before last after hfiles fun other hother found hfound hother' => ?_
    rw [hfound.unique hlast] at hother'
    exact hafter other hother (Tree.fileAt?_eq_some_iff.mpr hother')
  obtain ⟨found, hfound, hentry⟩ := Tree.readText_eq_ok_iff.mp (isUpToDate_iff.mp hcurrent)
  rw [hfound.unique hlast] at hentry
  exact Tree.readText_eq_ok_iff.mpr ⟨location, hleads, hentry⟩

/-- Files that go to one place have one content. -/
def Agree (tree : Tree) (files : List GeneratedFile) : Prop :=
  ∀ first ∈ files, ∀ second ∈ files, ∀ location, tree.LeadsTo first.path location →
    tree.LeadsTo second.path location → first.content = second.content

/-- Files that are all up to date in some tree agree wherever they meet. -/
theorem agree_of_upToDate {last : Tree} (h : ∀ file ∈ files, file.isUpToDate last) :
    Agree tree files := by
  intro first hfirst second hsecond location hleads hleads'
  have hcurrent := isUpToDate_iff.mp (h first hfirst)
  have hcurrent' := isUpToDate_iff.mp (h second hsecond)
  obtain ⟨place, hplace, hcontent⟩ := Tree.readText_eq_ok_iff.mp hcurrent
  obtain ⟨place', hplace', hcontent'⟩ := Tree.readText_eq_ok_iff.mp hcurrent'
  rw [← hleads.unique hplace] at hcontent
  rw [← hleads'.unique hplace'] at hcontent'
  have hbytes := Entry.file.inj (Option.some.inj (hcontent.symm.trans hcontent'))
  exact String.toByteArray_inj.mp hbytes

/-- After a writing of files that agree where they meet, all of them are up to date. -/
theorem Settled.isUpToDate (h : Settled tree later files) (hagree : Agree later files)
    (hfile : file ∈ files) : file.isUpToDate later := by
  -- The last file that goes to the place decides what it holds.
  obtain ⟨last, hlast⟩ := exists_last? later hfile
  obtain ⟨hplace, before, after, hfiles, -⟩ := of_last?_eq_some hlast
  obtain ⟨location, hleads⟩ := h.leads file hfile
  rw [Tree.fileAt?_eq_some_iff.mpr hleads, Tree.fileAt?_eq_some_iff] at hplace
  have hmem : last ∈ files := hfiles ▸ List.mem_append_right _ List.mem_cons_self
  rw [isUpToDate_iff, h.readText hfile hlast, hagree file hfile last hmem location hleads hplace]

/-- Some time after a writing all files are up to date exactly when those that go to one place agree
and what they hold is what they held then. -/
theorem Settled.stale_eq_nil_iff (h : Settled tree later files) (last : Tree) :
    stale last files = [] ↔
      Agree later files ∧ ∀ file ∈ files, last.readText file.path = later.readText file.path := by
  rw [GeneratedFile.stale_eq_nil_iff]
  constructor
  · intro hcurrent
    have hagree : Agree later files := agree_of_upToDate hcurrent
    refine ⟨hagree, fun file hfile => ?_⟩
    rw [isUpToDate_iff.mp (hcurrent file hfile), isUpToDate_iff.mp (h.isUpToDate hagree hfile)]
  · rintro ⟨hagree, hkept⟩ file hfile
    rw [isUpToDate_iff, hkept file hfile]
    exact isUpToDate_iff.mp (h.isUpToDate hagree hfile)

/-- A file that is removed is not up to date. -/
theorem not_isUpToDate_remove : ¬file.isUpToDate (tree.remove file.path) := by
  rw [isUpToDate_iff, Tree.readText_eq_ok_iff]
  rintro ⟨location, hleads, -⟩
  exact Tree.not_leadsTo_remove hleads

/-- Nothing is written, and nothing fails, exactly when all files are up to date. -/
theorem writeAll_idle_iff :
    (writeAll tree files).failure = none ∧ (writeAll tree files).written = [] ↔
      stale tree files = [] := by
  rw [GeneratedFile.stale_eq_nil_iff]
  induction files with
  | nil => exact iff_of_true ⟨rfl, rfl⟩ nofun
  | cons file rest ih =>
      rw [writeAll, List.forall_mem_cons, ← ih]
      split
      · next hcurrent => exact (and_iff_right hcurrent).symm
      next hstale =>
        split
        · exact iff_of_false nofun fun h => hstale h.1
        · exact iff_of_false nofun fun h => hstale h.1

/-- Nothing changes where all files are up to date. -/
theorem tree_writeAll_of_stale_eq_nil (h : stale tree files = []) :
    (writeAll tree files).tree = tree := by
  rw [GeneratedFile.stale_eq_nil_iff] at h
  induction files with
  | nil => rfl
  | cons file rest ih =>
      obtain ⟨hcurrent, hrest⟩ := List.forall_mem_cons.mp h
      rw [writeAll, if_pos hcurrent]
      exact ih hrest

end ShaderLayout.GeneratedFile
