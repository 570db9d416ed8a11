import Mathlib.Data.List.Induction
import Mathlib.Data.List.Nodup
import ShaderLayout.Proofs.File.Closed
import ShaderLayout.Proofs.Output.Writing

/-!
The effect of a writing. Each file has its turn, at which it meets what the files
before it left behind. From what one turn does follows what all of them do: what
every path holds in the end, what stays as it was, which files are written, and
which of them a check finds stale right afterwards. A tree is taken as a map from
places to contents, in which a path stands for the place that it leads to.
-/

namespace ShaderLayout

/-- A writing that goes on from another, unless that failed. -/
def Writing.andThen (first : Writing) (next : Tree → Writing) : Writing :=
  match first.failure with
  | some _ => first
  | none =>
    let second := next first.tree
    { second with
      written := first.written ++ second.written
      notices := first.notices ++ second.notices }

namespace GeneratedFile

variable {tree later : Tree} {file : GeneratedFile} {files before after : List GeneratedFile}

/-! ### Turns -/

theorem writeAll_append (tree : Tree) (before after : List GeneratedFile) :
    writeAll tree (before ++ after) =
      (writeAll tree before).andThen fun later => writeAll later after := by
  induction before generalizing tree with
  | nil => rfl
  | cons first rest ih =>
      rw [List.cons_append, writeAll, writeAll]
      split
      · rw [ih, Writing.andThen, Writing.andThen]
        cases (writeAll tree rest).failure <;> rfl
      · split
        · rfl
        · next later _ =>
            rw [ih, Writing.andThen, Writing.andThen]
            cases (writeAll later rest).failure <;> rfl

theorem failure_of_append (h : (writeAll tree (before ++ after)).failure = none) :
    (writeAll tree before).failure = none := by
  rw [writeAll_append, Writing.andThen] at h
  cases hbefore : (writeAll tree before).failure with
  | none => rfl
  | some failure =>
      rw [hbefore] at h
      exact hbefore.symm.trans h

theorem writeAll_append_of_failure (h : (writeAll tree before).failure = none)
    (after : List GeneratedFile) :
    (writeAll tree (before ++ after)).failure =
        (writeAll (writeAll tree before).tree after).failure ∧
      (writeAll tree (before ++ after)).tree = (writeAll (writeAll tree before).tree after).tree ∧
      (writeAll tree (before ++ after)).written =
        (writeAll tree before).written ++ (writeAll (writeAll tree before).tree after).written := by
  rw [writeAll_append, Writing.andThen, h]
  exact ⟨rfl, rfl, rfl⟩

/-- The tree at the turn of a file, as the files before it left it. -/
def turn (tree : Tree) (files : List GeneratedFile) (i : Nat) : Tree :=
  (writeAll tree (files.take i)).tree

/-- What one turn does: a file whose path reads as its content is left alone, and any other is
written. -/
structure Turn (tree : Tree) (file : GeneratedFile) (next : Tree) : Prop where
  kept : tree.readText file.path = .ok file.content → next = tree
  rewritten : tree.readText file.path ≠ .ok file.content → file.write tree = (next, .ok ())

theorem turn_of_single (h : (writeAll tree [file]).failure = none) :
    Turn tree file (writeAll tree [file]).tree ∧
      (writeAll tree [file]).written =
        if tree.readText file.path = .ok file.content then [] else [file.path] := by
  rw [writeAll] at h ⊢
  split
  · next hcurrent =>
      rw [if_pos (isUpToDate_iff.mp hcurrent)]
      exact ⟨⟨fun _ => rfl, fun hstale => absurd (isUpToDate_iff.mp hcurrent) hstale⟩, rfl⟩
  next hstale =>
    rw [if_neg hstale] at h
    rw [isUpToDate_iff] at hstale
    split
    · next hwrite =>
        rw [hwrite] at h
        cases h
    · next hwrite =>
        rw [if_neg hstale]
        exact ⟨⟨fun hcurrent => absurd hcurrent hstale, fun _ => hwrite⟩, rfl⟩

/-- The turn of the last file. -/
theorem turn_of_append (h : (writeAll tree (before ++ [file])).failure = none) :
    Turn (writeAll tree before).tree file (writeAll tree (before ++ [file])).tree ∧
      (writeAll tree (before ++ [file])).written = (writeAll tree before).written ++
        if (writeAll tree before).tree.readText file.path = .ok file.content then []
        else [file.path] := by
  obtain ⟨hfailure, htree, hwritten⟩ := writeAll_append_of_failure (failure_of_append h) [file]
  obtain ⟨hturn, hpaths⟩ := turn_of_single (hfailure ▸ h)
  exact ⟨htree ▸ hturn, hpaths ▸ hwritten⟩

theorem turn_append {i : Nat} (hi : i ≤ before.length) :
    turn tree (before ++ after) i = turn tree before i := by
  rw [turn, turn, List.take_append_of_le_length hi]

theorem turn_length (tree : Tree) (files : List GeneratedFile) :
    turn tree files files.length = (writeAll tree files).tree := by
  rw [turn, List.take_length]

/-- One turn after another leads from the tree at the start to the one in the end. -/
theorem turn_succ (h : (writeAll tree files).failure = none) {i : Nat} (hi : i < files.length) :
    Turn (turn tree files i) files[i] (turn tree files (i + 1)) := by
  have hfiles : files.take i ++ [files[i]] ++ files.drop (i + 1) = files := by
    rw [List.take_append_getElem, List.take_append_drop]
  rw [← hfiles] at h
  have hturn := (turn_of_append (failure_of_append h)).1
  rwa [List.take_append_getElem] at hturn

/-- The paths written are those of the files that are not there at their turns. -/
theorem written_eq (h : (writeAll tree files).failure = none) :
    (writeAll tree files).written =
      (files.zipIdx.filter fun (file, i) =>
        (turn tree files i).readText file.path ≠ .ok file.content).map fun (file, _) =>
          file.path := by
  induction files using List.reverseRecOn with
  | nil => rfl
  | append_singleton before file ih =>
      rw [(turn_of_append h).2, ih (failure_of_append h), List.zipIdx_append,
        List.filter_append, List.map_append]
      refine congrArg₂ (· ++ ·) ?_ ?_
      · -- The files before meet the same trees, whatever comes after them.
        refine congrArg (List.map _) (List.filter_congr fun ⟨other, i⟩ hother => ?_)
        have hi := (List.getElem?_eq_some_iff.mp (List.mk_mem_zipIdx_iff_getElem?.mp hother)).1
        simp only [turn_append (Nat.le_of_lt hi)]
      · have hlast : turn tree (before ++ [file]) before.length = (writeAll tree before).tree := by
          rw [turn_append (Nat.le_refl _), turn_length]
        by_cases hcurrent :
            (writeAll tree before).tree.readText file.path = .ok file.content <;>
          simp [hlast, hcurrent]

/-! ### The last file of a place -/

/-- Of files that go to different places each is the last at its own. -/
theorem last?_of_nodup (hplaces : (files.map fun file => tree.fileAt? file.path).Nodup)
    (hfile : file ∈ files) : last? tree files file.path = some file := by
  obtain ⟨last, hlast⟩ := exists_last? tree hfile
  obtain ⟨hplace, before, after, rfl, -⟩ := of_last?_eq_some hlast
  have hmem : last ∈ before ++ last :: after := List.mem_append_right _ List.mem_cons_self
  rw [hlast, List.inj_on_of_nodup_map hplaces hmem hfile hplace]

/-- A check finds the files stale that differ from the last one at their place. -/
theorem Settled.stale_eq (h : Settled tree later files) :
    stale later files =
      (files.filter fun file =>
        (last? later files file.path).map (·.content) ≠ some file.content).map (·.path) := by
  rw [stale]
  refine congrArg (List.map _) (List.filter_congr fun file hfile => ?_)
  obtain ⟨last, hlast⟩ := exists_last? later hfile
  rw [Bool.eq_iff_iff, Bool.not_eq_true', ← Bool.not_eq_true, isUpToDate_iff,
    h.readText hfile hlast, hlast]
  simp

/-! ### Paths that are not listed, and paths that are listed once -/

section Frame

variable (h : (writeAll tree files).failure = none)
include h

/-- A file that no path of the list leads to is what it was. -/
theorem get?_writeAll_iff {location : Location}
    (hplace : ∀ file ∈ files, ¬(writeAll tree files).tree.LeadsTo file.path location)
    (content : ByteArray) :
    (writeAll tree files).tree.get? location = some (.file content) ↔
      tree.get? location = some (.file content) := by
  have hchanged : ¬∃ file ∈ files, (writeAll tree files).tree.LeadsTo file.path location :=
    fun ⟨file, hfile, hleads⟩ => hplace file hfile hleads
  constructor
  · exact fun hentry => confined_writeAll h location content hentry hchanged
  · intro hentry
    obtain ⟨other, hother, hsame⟩ := (settled_writeAll h).grows.file hentry
    rw [hother, hsame hchanged]

/-- A path that leads to none of the files reads as before. -/
theorem readText_writeAll_iff {path : Path}
    (hplace : ∀ location, (writeAll tree files).tree.LeadsTo path location →
      ∀ file ∈ files, ¬(writeAll tree files).tree.LeadsTo file.path location)
    (hfinds : tree.Finds (writeAll tree files).tree path) (text : String) :
    (writeAll tree files).tree.readText path = .ok text ↔ tree.readText path = .ok text := by
  constructor
  · intro hread
    obtain ⟨location, hleads, hentry⟩ := Tree.readText_eq_ok_iff.mp hread
    have hbefore := (get?_writeAll_iff h (hplace location hleads) _).mp hentry
    exact Tree.readText_eq_ok_iff.mpr
      ⟨location, hfinds location _ hleads hbefore, hbefore⟩
  · intro hread
    refine Tree.readText_of_grows hread (settled_writeAll h).grows ?_
    rintro location hleads ⟨file, hfile, hfile'⟩
    exact hplace location hleads file hfile hfile'

end Frame

/-- A file that shares its place with none before it meets the content that was there at the
start. -/
theorem readText_turn_iff (tree : Tree) (before : List GeneratedFile) (file : GeneratedFile)
    (after : List GeneratedFile) (h : (writeAll tree (before ++ file :: after)).failure = none)
    (hplaces : ∀ other ∈ before,
      (writeAll tree (before ++ file :: after)).tree.fileAt? other.path ≠
        (writeAll tree (before ++ file :: after)).tree.fileAt? file.path)
    (hfinds : tree.Finds (writeAll tree (before ++ file :: after)).tree file.path) :
    (writeAll tree before).tree.readText file.path = .ok file.content ↔
      tree.readText file.path = .ok file.content := by
  have hbefore := failure_of_append h
  obtain ⟨hfailure, htree, -⟩ := writeAll_append_of_failure hbefore (file :: after)
  rw [htree] at hplaces hfinds
  have hgrows := (settled_writeAll (hfailure ▸ h)).grows
  -- What a path leads to at this turn, it leads to in the end.
  refine readText_writeAll_iff hbefore ?_ ?_ _
  · intro location hleads other hother hother'
    refine hplaces other hother ?_
    rw [Tree.fileAt?_eq_some_iff.mpr (hleads.of_grows hgrows),
      Tree.fileAt?_eq_some_iff.mpr (hother'.of_grows hgrows)]
  · exact fun location content hleads => hfinds location content (hleads.of_grows hgrows)

/-- Files that go to different places are written when they were stale at the start. -/
theorem written_eq_stale (h : (writeAll tree files).failure = none)
    (hplaces : (files.map fun file => (writeAll tree files).tree.fileAt? file.path).Nodup)
    (hfinds : ∀ file ∈ files, tree.Finds (writeAll tree files).tree file.path) :
    (writeAll tree files).written = stale tree files := by
  have hstale : stale tree files =
      (files.zipIdx.filter fun entry => !entry.1.isUpToDate tree).map fun entry => entry.1.path := by
    conv_lhs => rw [stale, ← files.zipIdx_map_fst 0, List.filter_map, List.map_map]
    rfl
  rw [written_eq h, hstale]
  refine congrArg (List.map _) (List.filter_congr fun entry hentry => ?_)
  obtain ⟨file, i⟩ := entry
  obtain ⟨hi, rfl⟩ := List.getElem?_eq_some_iff.mp (List.mk_mem_zipIdx_iff_getElem?.mp hentry)
  have hsplit : files.take i ++ files[i] :: files.drop (i + 1) = files := by
    rw [List.getElem_cons_drop, List.take_append_drop]
  have hcurrent := readText_turn_iff tree (files.take i) files[i] (files.drop (i + 1))
  rw [hsplit] at hcurrent
  rw [Bool.eq_iff_iff, decide_eq_true_iff, Bool.not_eq_true', ← Bool.not_eq_true, isUpToDate_iff]
  refine not_congr (hcurrent h ?_ (hfinds _ (List.getElem_mem hi)))
  intro other hother heq
  rw [← hsplit, List.map_append, List.nodup_append] at hplaces
  rw [hsplit] at hplaces
  exact hplaces.2.2 _ (List.mem_map_of_mem hother) _ List.mem_cons_self heq

/-! ### The whole effect -/

/-- What a writing has done when it leaves a tree `later` and tells the paths `written`. Paths
count as one when they lead to one place in the end. -/
structure Effect (tree : Tree) (files : List GeneratedFile) (later : Tree) (written : List Path) :
    Prop where
  /-- A listed path holds the content of the last file that goes to its place. -/
  holds : ∀ file ∈ files, ∃ last, last? later files file.path = some last ∧
    later.readText file.path = .ok last.content
  /-- Every other file is what it was, and no other comes to be. -/
  frame : ∀ location, (∀ file ∈ files, ¬later.LeadsTo file.path location) → ∀ content,
    later.get? location = some (.file content) ↔ tree.get? location = some (.file content)
  /-- A file is left alone when its path reads as its content at its turn, and is written
  otherwise. -/
  turns : ∀ i, (hi : i < files.length) →
    Turn (turn tree files i) files[i] (turn tree files (i + 1))
  /-- The turns end with the tree that is left. -/
  stop : turn tree files files.length = later
  /-- Listed are the paths of the files that were written, in order. -/
  written_eq : written = (files.zipIdx.filter fun (file, i) =>
    (turn tree files i).readText file.path ≠ .ok file.content).map fun (file, _) => file.path
  /-- A check afterwards reports the files that differ from the last one at their place. -/
  stale_eq : stale later files = (files.filter fun file =>
    (last? later files file.path).map (·.content) ≠ some file.content).map (·.path)
  /-- Where no place is shared, a check reports nothing afterwards, and what is written is what it
  reported before. -/
  apart : (files.map fun file => later.fileAt? file.path).Nodup → stale later files = [] ∧
    ((∀ file ∈ files, tree.Finds later file.path) → written = stale tree files)
  /-- Paths that never go up share a place when they have the same names. -/
  names : ∀ first ∈ files, ∀ second ∈ files, first.path.Straight → second.path.Straight →
    (later.fileAt? first.path = later.fileAt? second.path ↔ first.path.names = second.path.names)
  /-- A path that is not listed reads as before. -/
  others : tree.Closed → ∀ path : Path, path.Straight →
    (∀ file ∈ files, file.path.Straight ∧ file.path.names ≠ path.names) → ∀ text,
      later.readText path = .ok text ↔ tree.readText path = .ok text
  /-- Of distinct paths those are written that a check reported before, and it reports none
  afterwards. -/
  distinct : tree.Closed → (∀ file ∈ files, file.path.Straight) →
    (files.map fun file => file.path.names).Nodup →
    written = stale tree files ∧ stale later files = []

theorem Settled.fileAt?_eq_iff (h : Settled tree later files) {first second : GeneratedFile}
    (hfirst : first ∈ files) (hsecond : second ∈ files) (hpath : first.path.Straight)
    (hpath' : second.path.Straight) :
    later.fileAt? first.path = later.fileAt? second.path ↔
      first.path.names = second.path.names := by
  obtain ⟨location, hleads⟩ := h.leads first hfirst
  obtain ⟨location', hleads'⟩ := h.leads second hsecond
  rw [Tree.fileAt?_eq_some_iff.mpr hleads, Tree.fileAt?_eq_some_iff.mpr hleads',
    Option.some.injEq, hleads.eq_iff hleads' hpath hpath']

/-- Distinct paths that never go up lead to different places. -/
theorem Settled.nodup_fileAt? (h : Settled tree later files)
    (hpaths : ∀ file ∈ files, file.path.Straight)
    (hnames : (files.map fun file => file.path.names).Nodup) :
    (files.map fun file => later.fileAt? file.path).Nodup := by
  rw [List.Nodup, List.pairwise_map] at hnames ⊢
  refine hnames.imp_of_mem fun hfirst hsecond hne => ?_
  rwa [ne_eq, h.fileAt?_eq_iff hfirst hsecond (hpaths _ hfirst) (hpaths _ hsecond)]

theorem Settled.stale_eq_nil (h : Settled tree later files)
    (hplaces : (files.map fun file => later.fileAt? file.path).Nodup) :
    stale later files = [] := by
  rw [h.stale_eq, List.map_eq_nil_iff, List.filter_eq_nil_iff]
  intro file hfile
  rw [last?_of_nodup hplaces hfile]
  simp

/-- A writing that does not fail has its effect, whatever was there before and however often a
path is listed. -/
theorem writeAll_effect (tree : Tree) (files : List GeneratedFile)
    (h : (writeAll tree files).failure = none) :
    Effect tree files (writeAll tree files).tree (writeAll tree files).written where
  holds file hfile := by
    obtain ⟨last, hlast⟩ := exists_last? (writeAll tree files).tree hfile
    exact ⟨last, hlast, (settled_writeAll h).readText hfile hlast⟩
  frame location := get?_writeAll_iff h
  turns i := turn_succ h
  stop := turn_length tree files
  written_eq := written_eq h
  stale_eq := (settled_writeAll h).stale_eq
  apart hplaces := ⟨(settled_writeAll h).stale_eq_nil hplaces, written_eq_stale h hplaces⟩
  names first hfirst second hsecond := (settled_writeAll h).fileAt?_eq_iff hfirst hsecond
  others hclosed path hpath hother := by
    refine readText_writeAll_iff h ?_ (hclosed.finds _ hpath)
    intro location hleads file hfile hleads'
    obtain ⟨hstraight, hne⟩ := hother file hfile
    exact hne ((hleads'.eq_iff hleads hstraight hpath).mp rfl)
  distinct hclosed hpaths hnames := by
    have hplaces := (settled_writeAll h).nodup_fileAt? hpaths hnames
    exact ⟨written_eq_stale h hplaces fun file hfile => hclosed.finds _ (hpaths file hfile),
      (settled_writeAll h).stale_eq_nil hplaces⟩

/-! ### A header that is listed twice -/

/-- A header, a module, and bindings that are no text. -/
def sampleTree : Tree :=
  ((Tree.empty.place ⟨"/include/types.h"⟩ "old".toUTF8).place
    ⟨"/gen/types.wgsl"⟩ "same".toUTF8).place ⟨"/gen/types.rs"⟩ ⟨#[0xff]⟩

/-- Three files, and the first once more under another spelling of its path. -/
def sampleFiles : List GeneratedFile :=
  [⟨.msl, ⟨"/include/types.h"⟩, "first"⟩, ⟨.wgsl, ⟨"/gen/types.wgsl"⟩, "same"⟩,
    ⟨.rust, ⟨"/gen/types.rs"⟩, "bindings"⟩, ⟨.msl, ⟨"/include/./types.h"⟩, "last"⟩]

/-- All are written but the one that is there; the first is stale afterwards. Without its repetition
a check reports what is to be written, and nothing any more afterwards. -/
theorem header_written_twice :
    (writeAll sampleTree sampleFiles).failure = none ∧
      (writeAll sampleTree sampleFiles).tree.readText ⟨"/include/types.h"⟩ = .ok "last" ∧
      (writeAll sampleTree sampleFiles).written =
        [⟨"/include/types.h"⟩, ⟨"/gen/types.rs"⟩, ⟨"/include/./types.h"⟩] ∧
      stale (writeAll sampleTree sampleFiles).tree sampleFiles = [⟨"/include/types.h"⟩] ∧
      (writeAll sampleTree (sampleFiles.take 3)).failure = none ∧
      (writeAll sampleTree (sampleFiles.take 3)).written = stale sampleTree (sampleFiles.take 3) ∧
      stale (writeAll sampleTree (sampleFiles.take 3)).tree (sampleFiles.take 3) = [] := by
  have hwritten : (writeAll sampleTree sampleFiles).failure = none :=
    Option.isNone_iff_eq_none.mp (by decide +kernel)
  have hwritten' : (writeAll sampleTree (sampleFiles.take 3)).failure = none :=
    Option.isNone_iff_eq_none.mp (by decide +kernel)
  have heffect := writeAll_effect sampleTree sampleFiles hwritten
  have heffect' := writeAll_effect sampleTree (sampleFiles.take 3) hwritten'
  obtain ⟨last, hlast, hread⟩ := heffect.holds ⟨.msl, ⟨"/include/types.h"⟩, "first"⟩ (by decide)
  have hcontent : last.content = "last" := by
    have hfound : (last? (writeAll sampleTree sampleFiles).tree sampleFiles
        ⟨"/include/types.h"⟩).map (·.content) = some "last" := by
      decide +kernel
    rw [hlast] at hfound
    exact Option.some.inj hfound
  have hclosed : sampleTree.Closed := ((Tree.closed_empty.place _ _).place _ _).place _ _
  exact ⟨hwritten, hcontent ▸ hread, heffect.written_eq.trans (by decide +kernel),
    heffect.stale_eq.trans (by decide +kernel), hwritten',
    heffect'.distinct hclosed (by decide +kernel) (by decide +kernel)⟩

end GeneratedFile

end ShaderLayout
