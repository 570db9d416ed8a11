import ShaderLayout.Compile.Task
import ShaderLayout.Proofs.File.Path

/-!
The tasks for the shaders of a directory. Every shader file has one task,
however deep it is, and nothing else has any. The outputs stand as the shaders
do, below another directory and with another extension. So no two tasks write to
one place, and none to the place of a shader, wherever the directories are.
-/

namespace ShaderLayout

/-- A shader file below a directory: the names of the directories on the way to it, and its own
name up to the extension. A name that starts with its only dot has no extension. -/
@[ext] structure ShaderFile where
  directories : Location
  stem : String
  nonempty : stem ≠ ""
  valid : isFileName (stem ++ ".metal") = true

namespace ShaderFile

def name (file : ShaderFile) : FileName := ⟨file.stem ++ ".metal", file.valid⟩

theorem valid_outputName (file : ShaderFile) : isFileName (file.stem ++ ".air") = true := by
  obtain ⟨-, -, -, hslash, hnul⟩ := of_decide_eq_true file.valid
  have hne {text : String} (hshort : text.length < 4) : file.stem ++ ".air" ≠ text := by
    rintro rfl
    rw [String.length_append] at hshort
    exact absurd hshort (Nat.not_lt.mpr (Nat.le_add_left 4 _))
  refine decide_eq_true ⟨hne (by decide), hne (by decide), hne (by decide), ?_, ?_⟩
  · simpa using hslash
  · simpa using hnul

def outputName (file : ShaderFile) : FileName := ⟨file.stem ++ ".air", file.valid_outputName⟩

/-- The names that lead to the file. -/
def names (file : ShaderFile) : Location := file.directories ++ [file.name]

def outputNames (file : ShaderFile) : Location := file.directories ++ [file.outputName]

/-- The task for a shader file: its output is at the same place below another directory, and has
another extension. -/
def task (file : ShaderFile) (source build : Path) : CompileTask where
  shader := source.join ⟨file.names.text⟩
  output := build.join ⟨file.outputNames.text⟩

theorem names_ne_nil (file : ShaderFile) : file.names ≠ [] := List.concat_ne_nil _ _

theorem outputNames_ne_nil (file : ShaderFile) : file.outputNames ≠ [] := List.concat_ne_nil _ _

theorem injective_of_stem {rename : ShaderFile → FileName}
    (h : ∀ file other, rename file = rename other → file.stem = other.stem) :
    Function.Injective fun file => file.directories ++ [rename file] := by
  intro file other heq
  obtain ⟨hdirectories, hname⟩ := List.append_inj' heq rfl
  exact ShaderFile.ext hdirectories (h file other (List.cons.inj hname).1)

theorem names_injective : Function.Injective names :=
  injective_of_stem fun _ _ h => String.append_left_inj _ |>.mp (congrArg FileName.text h)

/-- The output tells the file. -/
theorem outputNames_injective : Function.Injective outputNames :=
  injective_of_stem fun _ _ h => String.append_left_inj _ |>.mp (congrArg FileName.text h)

/-- No output has the name of a shader. -/
theorem outputName_ne_name (file other : ShaderFile) : file.outputName ≠ other.name := by
  intro h
  have hlast := congrArg (fun name : FileName => name.text.toList.getLast?) h
  simp [outputName, name] at hlast

theorem splitName_name (file : ShaderFile) :
    Path.splitName file.name.text.toList = (file.stem.toList, some "metal".toList) := by
  have hstem : file.stem.toList ≠ [] := fun h => file.nonempty (String.toList_eq_nil_iff.mp h)
  rw [← Path.splitName_append hstem (by decide), name, String.toList_append]
  rfl

/-- Which files have the extension of a shader. -/
theorem exists_iff {dirs : Location} {name : FileName} :
    (∃ file : ShaderFile, file.names = dirs ++ [name]) ↔
      (Path.splitName name.text.toList).2 = some "metal".toList := by
  constructor
  · rintro ⟨file, hfile⟩
    rw [← (List.cons.inj (List.append_inj' hfile rfl).2).1, splitName_name]
  · intro h
    obtain ⟨stem, hstem, -, hname⟩ := Path.splitName_eq_some_iff.mp h
    have htext : String.ofList stem ++ ".metal" = name.text := by
      rw [← String.toList_inj, hname, String.toList_append, String.toList_ofList]
      rfl
    refine ⟨⟨dirs, String.ofList stem, ?_, htext ▸ name.valid⟩, ?_⟩
    · exact fun hempty => hstem (String.ofList_eq_empty_iff.mp hempty)
    · exact congrArg (fun name => dirs ++ [name]) (FileName.ext htext)

end ShaderFile

namespace CompileTask

variable {task : CompileTask} {tree : Tree} {here names : Location} {source build : Path}

theorem ofNames?_names (file : ShaderFile) :
    ofNames? source build file.names = some (file.task source build) := by
  obtain ⟨front, hsource⟩ := Location.exists_endsIn_join source file.directories
  obtain ⟨front', hbuild⟩ := Location.exists_endsIn_join build file.directories
  have hextension : (file.task source build).shader.extension? = some "metal" := by
    refine (hsource file.name).extension?.trans ?_
    rw [file.splitName_name]
    rfl
  have houtput : (build.join ⟨file.names.text⟩).withExtension "air" =
      (file.task source build).output := by
    refine (hbuild file.name).withExtension (hbuild file.outputName) ?_
    rw [file.splitName_name]
    exact String.toList_append
  rw [ofNames?, Location.foldl_child source file.names_ne_nil]
  refine (if_pos hextension).trans ?_
  rw [houtput]
  rfl

/-- Only shader files have tasks. -/
theorem exists_of_ofNames? (hnames : names ≠ []) (h : ofNames? source build names = some task) :
    ∃ file : ShaderFile, file.names = names ∧ file.task source build = task := by
  obtain ⟨dirs, name, rfl⟩ := names.eq_nil_or_concat'.resolve_left hnames
  obtain ⟨front, hsource⟩ := Location.exists_endsIn_join source dirs
  have hextension : (Path.splitName name.text.toList).2 = some "metal".toList := by
    rw [ofNames?, Location.foldl_child source hnames] at h
    split at h
    · next hextension =>
        rw [(hsource name).extension?, Option.map_eq_some_iff] at hextension
        obtain ⟨extension, hextension, hmetal⟩ := hextension
        rw [hextension, ← hmetal, String.toList_ofList]
    · cases h
  obtain ⟨file, hfile⟩ := ShaderFile.exists_iff.mpr hextension
  refine ⟨file, hfile, ?_⟩
  rw [← hfile, ofNames?_names] at h
  exact Option.some.inj h

end CompileTask

/-! ### The tasks of a directory -/

/-- The file is there, below a directory of the tree. -/
def ShaderFile.IsBelow (file : ShaderFile) (tree : Tree) (here : Location) : Prop :=
  ∃ content, tree.get? (here ++ file.names) = some (.file content)

namespace CompileTask

/-- What the tasks of a directory are. -/
structure Covers (tree : Tree) (here : Location) (source build : Path)
    (tasks : List CompileTask) : Prop where
  nodup : tasks.Nodup
  /-- They are those of the shader files, at any depth. -/
  mem_iff : ∀ task, task ∈ tasks ↔
    ∃ file : ShaderFile, file.IsBelow tree here ∧ task = file.task source build
  /-- Each of these files has one task, which leads to it. -/
  unique : ∀ file : ShaderFile, file.IsBelow tree here → ∀ task,
    task ∈ tasks ∧ tree.LeadsTo task.shader (here ++ file.names) ↔ task = file.task source build
  /-- No two write to one place. One may have to go to a directory that is the place of another, as
  for `a.metal` and `a.air/b.metal`. -/
  outputs_apart : tasks.Pairwise fun task other => task.output.Apart other.output
  /-- None writes to the place of a shader. -/
  shaders_apart : ∀ task ∈ tasks, ∀ other ∈ tasks, task.output.Apart other.shader

section Directory

variable {task : CompileTask} {tree : Tree} {here : Location} {source build : Path}

theorem collect_eq (hsource : tree.directoryAt? source = some here) :
    collect tree source build = (tree.filesBelow here).filterMap (ofNames? source build) := by
  obtain ⟨hempty, hlocate⟩ := Tree.directoryAt?_eq_some_iff.mp hsource
  have hentry : tree.hasEntry source = true := by
    rw [Tree.hasEntry, hlocate]
    exact congrArg not hempty
  rw [collect, hlocate]
  exact if_pos hentry

/-- A directory is no file of its own. -/
theorem names_ne_nil (h : tree.Sound) (hsource : tree.directoryAt? source = some here)
    {names : Location} (hnames : names ∈ tree.filesBelow here) : names ≠ [] := by
  rintro rfl
  obtain ⟨content, hfile⟩ := (Tree.mem_filesBelow_iff h).mp hnames
  have hlocate := (Tree.directoryAt?_eq_some_iff.mp hsource).2
  have hhere := (Tree.locate_eq_ok_iff.mp hlocate).2.get?_of_directory h.closed tree.get?_root
  rw [List.append_nil, hhere] at hfile
  cases hfile

theorem mem_collect_iff (h : tree.Sound) (hsource : tree.directoryAt? source = some here) :
    task ∈ collect tree source build ↔
      ∃ file : ShaderFile, file.IsBelow tree here ∧ task = file.task source build := by
  rw [collect_eq hsource, List.mem_filterMap]
  constructor
  · rintro ⟨names, hnames, htask⟩
    obtain ⟨file, rfl, rfl⟩ := exists_of_ofNames? (names_ne_nil h hsource hnames) htask
    exact ⟨file, (Tree.mem_filesBelow_iff h).mp hnames, rfl⟩
  · rintro ⟨file, hfile, rfl⟩
    exact ⟨file.names, (Tree.mem_filesBelow_iff h).mpr hfile, ofNames?_names file⟩

theorem output_apart {file other : ShaderFile} (h : file ≠ other) :
    (file.task source build).output.Apart (other.task source build).output :=
  Location.apart_of_ne file.outputNames_ne_nil other.outputNames_ne_nil
    (ShaderFile.outputNames_injective.ne h)

theorem output_apart_shader (file other : ShaderFile) :
    (file.task source build).output.Apart (other.task source build).shader :=
  Location.apart_of_last_ne (file.outputName_ne_name other)

theorem pairwise_collect (h : tree.Sound) (hsource : tree.directoryAt? source = some here) :
    (collect tree source build).Pairwise fun task other => task.output.Apart other.output := by
  rw [collect_eq hsource, List.pairwise_filterMap]
  refine (tree.nodup_filesBelow here).imp_of_mem ?_
  intro names names' hnames hnames' hne task htask other hother
  obtain ⟨file, rfl, rfl⟩ := exists_of_ofNames? (names_ne_nil h hsource hnames) htask
  obtain ⟨file', rfl, rfl⟩ := exists_of_ofNames? (names_ne_nil h hsource hnames') hother
  exact output_apart fun heq => hne (congrArg ShaderFile.names heq)

theorem covers_collect (h : tree.Sound) (hsource : tree.directoryAt? source = some here) :
    Covers tree here source build (collect tree source build) where
  nodup := by
    refine (pairwise_collect h hsource).imp ?_
    rintro task _ hapart rfl
    exact hapart.1 rfl
  mem_iff task := mem_collect_iff h hsource
  unique file hfile task := by
    have hleads {file : ShaderFile} (hfile : file.IsBelow tree here) :
        tree.LeadsTo (file.task source build).shader (here ++ file.names) := by
      obtain ⟨content, hentry⟩ := hfile
      exact h.closed.leadsTo_join (Tree.directoryAt?_eq_some_iff.mp hsource).2 file.names_ne_nil
        hentry
    rw [mem_collect_iff h hsource]
    constructor
    · rintro ⟨⟨other, hother, rfl⟩, hthere⟩
      have hsame := List.append_cancel_left (hthere.unique (hleads hother))
      rw [ShaderFile.names_injective hsame]
    · rintro rfl
      exact ⟨⟨file, hfile, rfl⟩, hleads hfile⟩
  outputs_apart := pairwise_collect h hsource
  shaders_apart := by
    intro task htask other hother
    obtain ⟨file, -, rfl⟩ := (mem_collect_iff h hsource).mp htask
    obtain ⟨file', -, rfl⟩ := (mem_collect_iff h hsource).mp hother
    exact output_apart_shader file file'

/-- A source that is a file is the only one. -/
theorem eq_nil_of_mem_filesBelow (h : tree.Sound) {content : ByteArray}
    (hsource : tree.locate source.steps = .ok (.taken here (.file content))) {names : Location}
    (hnames : names ∈ tree.filesBelow here) : names = [] := by
  by_contra hne
  obtain ⟨other, hfile⟩ := (Tree.mem_filesBelow_iff h).mp hnames
  have hdirectory := h.closed.directory_of_append (hfile ▸ Option.some_ne_none _) hne
  rw [(Tree.locate_eq_ok_iff.mp hsource).2.get?_of_file rfl] at hdirectory
  cases hdirectory

/-- No task is there twice, whatever the source is. -/
theorem nodup_collect (h : tree.Sound) (source build : Path) :
    (collect tree source build).Nodup := by
  rw [collect]
  split
  · next here entry hsource =>
      split
      · next hentry =>
          cases entry with
          | directory =>
              have hempty : source.text.isEmpty = false := by
                rw [Tree.hasEntry, hsource] at hentry
                simpa using hentry
              have hdirectory := Tree.directoryAt?_eq_some_iff.mpr ⟨hempty, hsource⟩
              rw [← collect_eq hdirectory]
              exact (covers_collect h hdirectory).nodup
          | file content =>
              refine List.pairwise_filterMap.mpr ((tree.nodup_filesBelow here).imp_of_mem ?_)
              intro names names' hnames hnames' hne
              rw [eq_nil_of_mem_filesBelow h hsource hnames,
                eq_nil_of_mem_filesBelow h hsource hnames'] at hne
              exact absurd rfl hne
      · exact List.nodup_nil
  · exact List.nodup_nil

end Directory

end CompileTask

end ShaderLayout
