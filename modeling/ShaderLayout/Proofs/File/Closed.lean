import Mathlib.Data.List.Induction
import Mathlib.Data.List.Nodup
import ShaderLayout.Proofs.File.Tree

/-!
Trees in which everything is in a directory, as it is on a disk. Making
directories and writing files keeps them so, and keeps the root from being an
entry, so that each file is listed once. In such a tree a path that never goes up
leads to the place of its names, and to the file there whatever directories are
made: it depends on nothing that is beside its way.
-/

namespace ShaderLayout

namespace Path

/-- A path that takes no step up. -/
def Straight (path : Path) : Prop := ".." ∉ path.steps

instance : DecidablePred Straight := fun path => inferInstanceAs (Decidable (".." ∉ path.steps))

/-- The names of a path. Paths with the same names are different spellings of one path. -/
def names (path : Path) : List String := path.steps.filter (· ≠ ".")

end Path

namespace Tree

variable {tree later : Tree} {here location : Location} {steps : List String} {target : Place}
  {path : Path} {content : ByteArray}

/-- Whatever is there is in a directory. -/
def Closed (tree : Tree) : Prop :=
  ∀ above name, tree.get? (above ++ [name]) ≠ none → tree.get? above = some .directory

theorem closed_empty : empty.Closed := by
  intro above name hentry
  refine absurd ?_ hentry
  rw [get?, if_neg (List.append_ne_nil_of_right_ne_nil _ (List.cons_ne_nil _ _))]
  rfl

namespace Closed

theorem above (h : tree.Closed) (hhere : tree.get? here = some .directory) :
    tree.get? here.dropLast = some .directory := by
  rcases here.eq_nil_or_concat' with rfl | ⟨above, name, rfl⟩
  · exact hhere
  · rw [List.dropLast_concat]
    exact h above name (hhere ▸ Option.some_ne_none _)

/-- All that a location goes through is a directory. -/
theorem directory_of_append (h : tree.Closed) {below : Location}
    (hentry : tree.get? (here ++ below) ≠ none) (hbelow : below ≠ []) :
    tree.get? here = some .directory := by
  induction below using List.reverseRecOn with
  | nil => exact absurd rfl hbelow
  | append_singleton rest name ih =>
      rw [← List.append_assoc] at hentry
      have hrest := h (here ++ rest) name hentry
      by_cases hnil : rest = []
      · rwa [hnil, List.append_nil] at hrest
      · exact ih (hrest ▸ Option.some_ne_none _) hnil

/-! ### Changing a closed tree -/

theorem insert (h : tree.Closed) {above : Location} {name : FileName}
    (habove : tree.get? above = some .directory)
    (hentry : tree.get? (above ++ [name]) ≠ some .directory) (entry : Entry) :
    (tree.insert (above ++ [name]) entry).Closed := by
  intro other step hother
  have hdirectory : tree.get? other = some .directory := by
    by_cases hsame : other ++ [step] = above ++ [name]
    · rwa [(List.append_inj' hsame rfl).1]
    · rw [get?_insert_of_ne tree entry hsame] at hother
      exact h other step hother
  have hne : other ≠ above ++ [name] := by
    rintro rfl
    exact hentry hdirectory
  rw [get?_insert_of_ne tree entry hne, hdirectory]

/-- A free place is in a directory. -/
theorem directory_of_free (h : tree.Closed) (hreaches : tree.Reaches here steps target)
    (hhere : tree.get? here = some .directory) (htarget : target = .free location) :
    ∃ above name, location = above ++ [name] ∧ tree.get? above = some .directory := by
  induction hreaches with
  | stop here => cases htarget
  | stay _ ih => exact ih hhere htarget
  | up _ ih => exact ih (h.above hhere) htarget
  | down hentry _ ih => exact ih hentry htarget
  | file hentry => cases htarget
  | @free here name hentry =>
      cases htarget
      exact ⟨here, name, rfl, hhere⟩

theorem insert_free (h : tree.Closed) (hlocate : tree.locate steps = .ok (.free location))
    (entry : Entry) : (tree.insert location entry).Closed := by
  have hreaches := (locate_eq_ok_iff.mp hlocate).2
  have hentry := hreaches.get?_of_free rfl
  obtain ⟨above, name, rfl, habove⟩ := h.directory_of_free hreaches tree.get?_root rfl
  exact h.insert habove (hentry ▸ nofun) entry

theorem write (h : tree.Closed) (hwrite : tree.write path content = .ok later) :
    later.Closed := by
  obtain ⟨location, rfl, -, ⟨before, hlocate⟩ | hlocate⟩ := exists_insert_of_write hwrite
  · have hentry := (locate_eq_ok_iff.mp hlocate).2.get?_of_file rfl
    obtain ⟨above, name, rfl⟩ := location.eq_nil_or_concat'.resolve_left (ne_root_of_get? hentry)
    refine h.insert (h above name (hentry ▸ Option.some_ne_none _)) ?_ _
    rw [hentry]
    nofun
  · exact h.insert_free hlocate _

theorem makeDirectories (h : tree.Closed) (path : Path) : (tree.makeDirectories path).1.Closed :=
  makeDirectoriesAt_induction (motive := fun tree later => tree.Closed → later.Closed)
    (fun _ => id) (fun _ _ _ hfirst hsecond h => hsecond (hfirst h))
    (fun _ _ _ hlocate h => h.insert_free hlocate _) tree _ h

/-- Trees that are put together from files are closed. -/
theorem place (h : tree.Closed) (path : Path) (content : ByteArray) :
    (tree.place path content).Closed := by
  have hmade := h.makeDirectories (path.parent?.getD path)
  rw [Tree.place]
  split
  · next written hwritten => exact hmade.write hwritten
  · exact hmade

end Closed

/-! ### Sound trees -/

/-- A tree as a disk has it: what is there is in a directory, and the root is no entry. -/
structure Sound (tree : Tree) : Prop where
  closed : tree.Closed
  root : [] ∉ tree.entries.map Prod.fst

theorem sound_empty : empty.Sound := ⟨closed_empty, List.not_mem_nil⟩

namespace Sound

theorem insert (h : tree.Sound) {entry : Entry} (hclosed : (tree.insert location entry).Closed)
    (hlocation : location ≠ []) : (tree.insert location entry).Sound where
  closed := hclosed
  root hmem := by
    rcases List.mem_cons.mp hmem with hroot | hmem
    · exact hlocation hroot.symm
    · exact h.root ((List.filter_sublist.map Prod.fst).subset hmem)

theorem insert_free (h : tree.Sound) (hlocate : tree.locate steps = .ok (.free location))
    (entry : Entry) : (tree.insert location entry).Sound := by
  refine h.insert (h.closed.insert_free hlocate entry) ?_
  rintro rfl
  cases (locate_eq_ok_iff.mp hlocate).2.get?_of_free rfl

theorem write (h : tree.Sound) (hwrite : tree.write path content = .ok later) : later.Sound := by
  have hclosed := h.closed.write hwrite
  obtain ⟨location, -, rfl, hentry, -⟩ := write_eq_ok hwrite
  exact h.insert hclosed (ne_root_of_get? hentry)

/-- Trees that are put together from files are sound. -/
theorem place (h : tree.Sound) (path : Path) (content : ByteArray) :
    (tree.place path content).Sound := by
  have hmade : (tree.makeDirectories (path.parent?.getD path)).1.Sound :=
    makeDirectoriesAt_induction (motive := fun tree later => tree.Sound → later.Sound)
      (fun _ => id) (fun _ _ _ hfirst hsecond h => hsecond (hfirst h))
      (fun _ _ _ hlocate h => h.insert_free hlocate _) tree _ h
  rw [Tree.place]
  split
  · next written hwritten => exact hmade.write hwritten
  · exact hmade

theorem mem_entries_iff (h : tree.Sound) {entry : Entry} :
    (location, entry) ∈ tree.entries ↔ location ≠ [] ∧ tree.get? location = some entry := by
  constructor
  · intro hmem
    have hlocation : location ≠ [] := by
      rintro rfl
      exact h.root (List.mem_map_of_mem hmem)
    refine ⟨hlocation, ?_⟩
    rw [get?, if_neg hlocation]
    generalize hfind : List.find? _ tree.entries = result
    cases result with
    | none => exact absurd (List.find?_eq_none.mp hfind _ hmem) (by simp)
    | some found =>
        have hfound : found.1 = location := by simpa using List.find?_some hfind
        have hsame := List.inj_on_of_nodup_map tree.distinct (List.mem_of_find?_eq_some hfind) hmem
          hfound
        rw [hsame]
        rfl
  · rintro ⟨hlocation, hentry⟩
    rw [get?, if_neg hlocation, Option.map_eq_some_iff] at hentry
    obtain ⟨⟨other, _⟩, hfind, rfl⟩ := hentry
    have hother : other = location := by simpa using List.find?_some hfind
    exact hother ▸ List.mem_of_find?_eq_some hfind

end Sound

/-! ### Files below a directory -/

section Below

variable {start names : Location}

/-- A directory that steps lead to is there. -/
theorem Reaches.get?_of_directory (h : tree.Reaches start steps (.taken here .directory))
    (hclosed : tree.Closed) (hstart : tree.get? start = some .directory) :
    tree.get? here = some .directory := by
  generalize htarget : Place.taken here .directory = target at h
  induction h with
  | stop start =>
      cases htarget
      exact hstart
  | stay _ ih => exact ih hstart htarget
  | up _ ih => exact ih (hclosed.above hstart) htarget
  | down hentry _ ih => exact ih hentry htarget
  | file _ => cases htarget
  | free _ => cases htarget

theorem mem_files_iff {location : Location} {content : ByteArray} :
    (location, content) ∈ tree.files ↔ (location, .file content) ∈ tree.entries := by
  rw [files, List.mem_filterMap]
  constructor
  · rintro ⟨⟨other, entry⟩, hmem, h⟩
    cases entry with
    | file held =>
        cases h
        exact hmem
    | directory => cases h
  · exact fun hmem => ⟨_, hmem, rfl⟩

theorem mem_filesBelow_iff (h : tree.Sound) :
    names ∈ tree.filesBelow here ↔ ∃ content, tree.get? (here ++ names) = some (.file content) := by
  rw [filesBelow, List.mem_filterMap]
  constructor
  · rintro ⟨⟨location, content⟩, hmem, hnames⟩
    rw [Option.ite_none_right_eq_some, List.isPrefixOf_iff_prefix] at hnames
    obtain ⟨⟨rest, rfl⟩, hnames⟩ := hnames
    rw [List.drop_left, Option.some.injEq] at hnames
    exact ⟨content, hnames ▸ (h.mem_entries_iff.mp (mem_files_iff.mp hmem)).2⟩
  · rintro ⟨content, hentry⟩
    have hmem := h.mem_entries_iff.mpr ⟨ne_root_of_get? hentry, hentry⟩
    refine ⟨_, mem_files_iff.mpr hmem, ?_⟩
    exact (if_pos (List.isPrefixOf_iff_prefix.mpr (List.prefix_append here names))).trans
      (congrArg some List.drop_left)

theorem nodup_files (tree : Tree) : (tree.files.map Prod.fst).Nodup := by
  rw [List.nodup_iff_pairwise_ne, List.pairwise_map, files, List.pairwise_filterMap]
  refine (List.pairwise_map.mp tree.distinct).imp ?_
  rintro ⟨location, content | _⟩ ⟨location', content' | _⟩ hne _ ⟨⟩ _ ⟨⟩
  exact hne

theorem nodup_filesBelow (tree : Tree) (here : Location) : (tree.filesBelow here).Nodup := by
  rw [List.nodup_iff_pairwise_ne, filesBelow, List.pairwise_filterMap]
  refine (List.pairwise_map.mp tree.nodup_files).imp fun hne names hnames names' hnames' heq => ?_
  rw [Option.ite_none_right_eq_some, List.isPrefixOf_iff_prefix, Option.some.injEq]
    at hnames hnames'
  obtain ⟨hunder, rfl⟩ := hnames
  obtain ⟨hunder', rfl⟩ := hnames'
  rw [← List.prefix_iff_eq_append.mp hunder, heq, List.prefix_iff_eq_append.mp hunder'] at hne
  exact hne rfl

end Below

/-! ### Paths that never go up -/

namespace Reaches

/-- Without a step up, names add up. -/
theorem exists_append (h : tree.Reaches here steps target)
    (htarget : target = .taken location (.file content)) (hsteps : ".." ∉ steps) :
    ∃ below, location = here ++ below ∧ below.map (·.text) = steps.filter (· ≠ ".") := by
  induction h with
  | stop here => cases htarget
  | stay _ ih => simpa using ih htarget (List.not_mem_of_not_mem_cons hsteps)
  | up _ _ => exact absurd List.mem_cons_self hsteps
  | @down here name rest target _ _ ih =>
      obtain ⟨below, rfl, hbelow⟩ := ih htarget (List.not_mem_of_not_mem_cons hsteps)
      exact ⟨name :: below, List.append_assoc .., by simp [name.text_ne.1, hbelow]⟩
  | @file here name _ _ =>
      cases htarget
      exact ⟨[name], rfl, by simp [name.text_ne.1]⟩
  | free _ => cases htarget

/-- What leads to a file of a closed tree later leads to it before: nothing but directories above
the file is on the way. -/
theorem of_closed (h : later.Reaches here steps target)
    (htarget : target = .taken location (.file content)) (hsteps : ".." ∉ steps)
    (hclosed : tree.Closed) {before : ByteArray}
    (hentry : tree.get? location = some (.file before)) :
    tree.Reaches here steps (.taken location (.file before)) := by
  induction h with
  | stop here => cases htarget
  | stay _ ih => exact .stay (ih htarget (List.not_mem_of_not_mem_cons hsteps))
  | up _ _ => exact absurd List.mem_cons_self hsteps
  | @down here name rest target hdirectory hrest ih =>
      have hsteps := List.not_mem_of_not_mem_cons hsteps
      obtain ⟨below, rfl, -⟩ := hrest.exists_append htarget hsteps
      have hbelow : below ≠ [] := by
        rintro rfl
        have hfile := hrest.get?_of_file htarget
        rw [List.append_nil] at hfile
        cases hdirectory.symm.trans hfile
      exact .down (hclosed.directory_of_append (hentry ▸ Option.some_ne_none _) hbelow)
        (ih htarget hsteps)
  | file _ =>
      cases htarget
      exact .file hentry
  | free _ => cases htarget

end Reaches

theorem LeadsTo.names (h : tree.LeadsTo path location) (hpath : path.Straight) :
    location.map (·.text) = path.names := by
  obtain ⟨-, content, hlocate⟩ := h
  obtain ⟨below, rfl, hbelow⟩ := (locate_eq_ok_iff.mp hlocate).2.exists_append rfl hpath
  exact hbelow

/-- Straight paths lead to one file exactly when they have the same names. -/
theorem LeadsTo.eq_iff {other : Path} {location' : Location} (h : tree.LeadsTo path location)
    (h' : tree.LeadsTo other location') (hpath : path.Straight) (hother : other.Straight) :
    location = location' ↔ path.names = other.names := by
  have hinjective : Function.Injective FileName.text := fun _ _ => FileName.ext
  rw [← h.names hpath, ← h'.names hother, hinjective.list_map.eq_iff]

/-- A path that leads to a file later leads to it already, if the file is there. It need not: it
may go up from a directory that is made in between. -/
def Finds (tree later : Tree) (path : Path) : Prop :=
  ∀ location content, later.LeadsTo path location →
    tree.get? location = some (.file content) → tree.LeadsTo path location

theorem Closed.finds (h : tree.Closed) (later : Tree) (hpath : path.Straight) :
    tree.Finds later path := by
  rintro location content ⟨hslash, other, hlocate⟩ hentry
  obtain ⟨hsteps, hreaches⟩ := locate_eq_ok_iff.mp hlocate
  exact ⟨hslash, content,
    locate_eq_ok_iff.mpr ⟨hsteps, hreaches.of_closed rfl hpath h hentry⟩⟩

end Tree

end ShaderLayout
