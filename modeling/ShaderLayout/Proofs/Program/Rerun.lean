import ShaderLayout.Program.Run
import ShaderLayout.Proofs.Compile.Parallel
import ShaderLayout.Proofs.Output.Writing

/-!
A run after a run. The first one writes its files and then compiles shaders,
which may touch any file. Where what it reads is as it was, the next run prepares
the same plan. It finds all files up to date exactly when those that go to one
place agree and the compilation left them as they were written.
-/

namespace ShaderLayout

/-- How a compilation failed, if it did. -/
def Compilation.failure (compilation : Compilation) : Option Failure :=
  match compilation.outcome with
  | .error failure => some failure
  | .ok _ => none

variable {command : Command} {workspace : Workspace} {tree later : Tree}
  {configFile : Option Path} {plan : Plan}

namespace Plan

/-- The file that a configuration is read from. -/
def configPath (workspace : Workspace) : Option Path → Path
  | some path => workspace.resolve path
  | none => workspace.configFile

/-- What is read for a plan can be read as before, and a workspace without a configuration stays
without. -/
structure KeepsInputs (plan : Plan) (workspace : Workspace) (configFile : Option Path)
    (tree later : Tree) : Prop where
  config : ∀ text, tree.readText (configPath workspace configFile) = .ok text →
    later.readText (configPath workspace configFile) = .ok text
  schema : ∀ text, tree.readText plan.config.schema = .ok text →
    later.readText plan.config.schema = .ok text
  present : configFile = none →
    later.hasEntry workspace.configFile = tree.hasEntry workspace.configFile

/-- The files of a plan go to other places than what was read for it, and a workspace without a
configuration stays without. -/
structure Apart (plan : Plan) (workspace : Workspace) (configFile : Option Path)
    (tree later : Tree) : Prop where
  config : ∀ file ∈ plan.files, ∀ location,
    later.LeadsTo (configPath workspace configFile) location → ¬later.LeadsTo file.path location
  schema : ∀ file ∈ plan.files, ∀ location,
    later.LeadsTo plan.config.schema location → ¬later.LeadsTo file.path location
  present : configFile = none →
    later.hasEntry workspace.configFile = tree.hasEntry workspace.configFile

/-! ### Preparations -/

variable {config : Config}

theorem load_of_read {path : Path} (h : Config.load workspace tree path = .ok config)
    (hread : ∀ text, tree.readText path = .ok text → later.readText path = .ok text) :
    Config.load workspace later path = .ok config := by
  rw [Config.load, bind_eq_ok_iff] at h ⊢
  obtain ⟨text, htext, h⟩ := h
  exact ⟨text, mapError_eq_ok_iff.mpr (hread text (mapError_eq_ok_iff.mp htext)), h⟩

theorem loadConfig_of_read (h : (loadConfig workspace tree configFile).outcome = .ok config)
    (hread : ∀ text, tree.readText (configPath workspace configFile) = .ok text →
      later.readText (configPath workspace configFile) = .ok text)
    (hpresent : configFile = none →
      later.hasEntry workspace.configFile = tree.hasEntry workspace.configFile) :
    (loadConfig workspace later configFile).outcome = .ok config := by
  cases configFile with
  | some path =>
      rw [loadConfig, Report.outcome_ofResult, mapError_eq_ok_iff] at h ⊢
      exact load_of_read h hread
  | none =>
      rw [loadConfig, Config.loadOrStandard] at h ⊢
      rw [hpresent rfl]
      split at h
      · next hentry =>
          rw [if_pos hentry, Report.outcome_ofResult, mapError_eq_ok_iff]
          rw [Report.outcome_ofResult, mapError_eq_ok_iff] at h
          exact load_of_read h hread
      · next hentry =>
          rw [if_neg hentry]
          exact h

theorem ofConfig_eq_ok (h : (ofConfig tree config).outcome = .ok plan) :
    plan.config = config ∧ ∃ text, tree.readText config.schema = .ok text := by
  rw [ofConfig] at h
  simp only [Report.outcome_bind, Report.outcome_ofResult, bind_eq_ok_iff, mapError_eq_ok_iff] at h
  obtain ⟨_, -, text, htext, _, -, _, -, _, -, _, -, _, -, hplan⟩ := h
  cases hplan
  exact ⟨rfl, text, htext⟩

/-- What was read for a plan is read again. -/
theorem KeepsInputs.prepare (h : plan.KeepsInputs workspace configFile tree later)
    (hplan : (Plan.prepare workspace tree configFile).outcome = .ok plan) :
    (Plan.prepare workspace later configFile).outcome = .ok plan := by
  rw [Plan.prepare, Report.outcome_bind, bind_eq_ok_iff] at hplan ⊢
  obtain ⟨config, hconfig, hplan⟩ := hplan
  refine ⟨config, loadConfig_of_read hconfig h.config h.present, ?_⟩
  obtain ⟨rfl, text, htext⟩ := ofConfig_eq_ok hplan
  rw [ofConfig, htext] at hplan
  rw [ofConfig, h.schema text htext]
  exact hplan

/-- Writing files that go to other places leaves what was read. -/
theorem Apart.keepsInputs (h : plan.Apart workspace configFile tree later)
    (hgrows : tree.Grows later fun location =>
      ∃ file ∈ plan.files, later.LeadsTo file.path location) :
    plan.KeepsInputs workspace configFile tree later where
  config text htext := by
    refine Tree.readText_of_grows htext hgrows ?_
    rintro location hleads ⟨file, hfile, hplace⟩
    exact h.config file hfile location hleads hplace
  schema text htext := by
    refine Tree.readText_of_grows htext hgrows ?_
    rintro location hleads ⟨file, hfile, hplace⟩
    exact h.schema file hfile location hleads hplace
  present := h.present

/-! ### Compilations -/

/-- How the compilation of a plan can end, with the shaders compiled side by side. -/
inductive CanCompile (plan : Plan) (command : Command) (tree : Tree) :
    Tree → Except Failure Nat → Prop
  | off (hoff : plan.config.metal.compile = false) : plan.CanCompile command tree tree (.ok 0)
  | missing {asked : Tree} {answer : Except FileError CompilerResult}
      (hon : plan.config.metal.compile = true)
      (hask : command.run (Compiler.findArguments plan.config.metal.sdk) tree = (asked, answer))
      (hanswer : Compiler.answers answer = false) : plan.CanCompile command tree asked (.ok 0)
  | compiled {asked : Tree} {answer : Except FileError CompilerResult}
      {progress : Compiler.Progress} {outcome : Except Failure Nat}
      (hon : plan.config.metal.compile = true)
      (hask : command.run (Compiler.findArguments plan.config.metal.sdk) tree = (asked, answer))
      (hanswer : Compiler.answers answer = true)
      (hend : (Compiler.metal command plan.config.metal.sdk plan.includeDirectories true).CanEnd
        asked (CompileTask.collect asked plan.config.metal.sourceDirectory
          plan.config.metal.buildDirectory) progress outcome) :
      plan.CanCompile command tree progress.tree outcome

theorem compileShaders_of_off (h : plan.config.metal.compile = false) (command : Command)
    (tree : Tree) : plan.compileShaders command tree = ⟨tree, [], .ok 0⟩ := by
  rw [compileShaders]
  exact if_neg (Bool.eq_false_iff.mp h)

theorem compileShaders_of_on (h : plan.config.metal.compile = true) (command : Command)
    (tree : Tree) :
    let compilation := plan.config.metal.compileShaders command plan.includeDirectories tree
    (plan.compileShaders command tree).tree = compilation.tree ∧
      (plan.compileShaders command tree).outcome = compilation.outcome := by
  intro compilation
  rw [compileShaders, if_pos h]
  cases houtcome : compilation.outcome with
  | error failure => simp only [compilation, houtcome, and_self]
  | ok count => simp only [compilation, houtcome, and_self]

/-- Compiling one shader after another is one of the ways. -/
theorem canCompile_compileShaders (plan : Plan) (command : Command) (tree : Tree) :
    plan.CanCompile command tree (plan.compileShaders command tree).tree
      (plan.compileShaders command tree).outcome := by
  cases hcompile : plan.config.metal.compile with
  | false =>
      rw [compileShaders_of_off hcompile]
      exact .off hcompile
  | true =>
      obtain ⟨htree, houtcome⟩ := compileShaders_of_on hcompile command tree
      rw [htree, houtcome, MetalOptions.compileShaders]
      rcases hask : command.run (Compiler.findArguments plan.config.metal.sdk) tree with
        ⟨asked, answer⟩
      dsimp only
      cases hanswer : Compiler.answers answer with
      | false => exact .missing hcompile hask hanswer
      | true =>
          let compiler :=
            Compiler.metal command plan.config.metal.sdk plan.includeDirectories true
          let tasks := CompileTask.collect asked plan.config.metal.sourceDirectory
            plan.config.metal.buildDirectory
          obtain ⟨progress, hend, hprogress, -⟩ :=
            compiler.canEnd_compileAll asked (List.Perm.refl tasks)
          have hdirectory : compiler.compileDirectory asked plan.config.metal.sourceDirectory
              plan.config.metal.buildDirectory = compiler.compileAll asked tasks := if_pos rfl
          rw [hdirectory, ← hprogress]
          exact .compiled hcompile hask hanswer hend

/-! ### Runs -/

theorem compare_eq_none_iff (plan : Plan) (tree : Tree) :
    ((plan.compare tree).onTree tree).failure = none ↔
      GeneratedFile.stale tree plan.files = [] := by
  rw [compare]
  by_cases hstale : GeneratedFile.stale tree plan.files = []
  · rw [if_neg (not_not.mpr hstale)]
    exact iff_of_true rfl hstale
  · rw [if_pos hstale]
    exact iff_of_false nofun hstale

/-- A plan is carried out up to the first failure in writing, or else compiled. -/
theorem carryOut_eq (plan : Plan) (command : Command) (tree : Tree) :
    (∀ cause, (GeneratedFile.writeAll tree plan.files).failure = some cause →
      (plan.carryOut command tree).failure = some cause ∧
        (plan.carryOut command tree).tree = (GeneratedFile.writeAll tree plan.files).tree) ∧
    ((GeneratedFile.writeAll tree plan.files).failure = none →
      let compilation :=
        plan.compileShaders command (GeneratedFile.writeAll tree plan.files).tree
      (plan.carryOut command tree).failure = compilation.failure ∧
        (plan.carryOut command tree).tree = compilation.tree) := by
  constructor
  · intro cause hfailure
    simp only [carryOut, hfailure, and_self]
  · intro hfailure compilation
    rw [Compilation.failure]
    simp only [carryOut, hfailure, compilation]
    cases (plan.compileShaders command (GeneratedFile.writeAll tree plan.files).tree).outcome with
    | error cause => exact ⟨rfl, rfl⟩
    | ok count => exact ⟨rfl, rfl⟩

/-- The files of a plan last: those that go to one place agree, and what comes after their writing
leaves them as they are. -/
structure Lasts (plan : Plan) (tree later : Tree) : Prop where
  agree : GeneratedFile.Agree (GeneratedFile.writeAll tree plan.files).tree plan.files
  kept : ∀ file ∈ plan.files,
    later.readText file.path = (GeneratedFile.writeAll tree plan.files).tree.readText file.path

theorem lasts_iff (h : (GeneratedFile.writeAll tree plan.files).failure = none) :
    plan.Lasts tree later ↔ GeneratedFile.stale later plan.files = [] := by
  rw [(GeneratedFile.settled_writeAll h).stale_eq_nil_iff later]
  exact ⟨fun hlasts => ⟨hlasts.agree, hlasts.kept⟩, fun ⟨hagree, hkept⟩ => ⟨hagree, hkept⟩⟩

end Plan

namespace Request

/-- A run that writes can succeed with a plan and leave a tree, its shaders being compiled side by
side. -/
structure CanLeave (command : Command) (workspace : Workspace) (configFile : Option Path)
    (tree : Tree) (plan : Plan) (later : Tree) : Prop where
  prepared : (Plan.prepare workspace tree configFile).outcome = .ok plan
  written : (GeneratedFile.writeAll tree plan.files).failure = none
  compiled : ∃ count,
    plan.CanCompile command (GeneratedFile.writeAll tree plan.files).tree later (.ok count)

/-- A run that writes would find all its files up to date and write none. -/
def Idle (workspace : Workspace) (configFile : Option Path) (tree : Tree) : Prop :=
  ∃ plan, (Plan.prepare workspace tree configFile).outcome = .ok plan ∧
    (GeneratedFile.writeAll tree plan.files).failure = none ∧
    (GeneratedFile.writeAll tree plan.files).written = []

variable (hplan : (Plan.prepare workspace tree configFile).outcome = .ok plan)
include hplan

theorem run_check_iff :
    (run ⟨configFile, true⟩ command workspace tree).failure = none ↔
      GeneratedFile.stale tree plan.files = [] := by
  rw [run, hplan]
  exact plan.compare_eq_none_iff tree

theorem run_write_eq (command : Command) :
    (run ⟨configFile, false⟩ command workspace tree).failure =
        (plan.carryOut command tree).failure ∧
      (run ⟨configFile, false⟩ command workspace tree).tree =
        (plan.carryOut command tree).tree := by
  rw [run, hplan]
  exact ⟨rfl, rfl⟩

theorem idle_iff : Idle workspace configFile tree ↔ GeneratedFile.stale tree plan.files = [] := by
  rw [← GeneratedFile.writeAll_idle_iff]
  constructor
  · rintro ⟨found, hfound, hidle⟩
    cases hplan.symm.trans hfound
    exact hidle
  · exact fun hidle => ⟨plan, hplan, hidle⟩

omit hplan

/-- A generated file that is removed is missed: the comparison fails, and a run has to write. -/
theorem removed_file_is_missed {file : GeneratedFile} (hfile : file ∈ plan.files)
    (hplan : (Plan.prepare workspace (tree.remove file.path) configFile).outcome = .ok plan) :
    (run ⟨configFile, true⟩ command workspace (tree.remove file.path)).failure ≠ none ∧
      ¬Idle workspace configFile (tree.remove file.path) := by
  have hstale : GeneratedFile.stale (tree.remove file.path) plan.files ≠ [] := fun hnil =>
    GeneratedFile.not_isUpToDate_remove (GeneratedFile.stale_eq_nil_iff.mp hnil file hfile)
  exact ⟨mt (run_check_iff hplan).mp hstale, mt (idle_iff hplan).mp hstale⟩

/-- A run that succeeds leaves one of the trees that it can leave. -/
theorem exists_canLeave_run
    (hrun : (run ⟨configFile, false⟩ command workspace tree).failure = none) :
    ∃ plan, CanLeave command workspace configFile tree plan
      (run ⟨configFile, false⟩ command workspace tree).tree := by
  cases hplan : (Plan.prepare workspace tree configFile).outcome with
  | error cause =>
      rw [run, hplan] at hrun
      cases hrun
  | ok plan =>
      obtain ⟨hfailure, htree⟩ := run_write_eq hplan command
      obtain ⟨hfailed, hwrote⟩ := plan.carryOut_eq command tree
      rw [hfailure] at hrun
      cases hwritten : (GeneratedFile.writeAll tree plan.files).failure with
      | some cause => cases hrun.symm.trans (hfailed cause hwritten).1
      | none =>
          obtain ⟨hcompiled, hleft⟩ := hwrote hwritten
          have hcan := plan.canCompile_compileShaders command
            (GeneratedFile.writeAll tree plan.files).tree
          rw [← hleft, ← htree] at hcan
          rw [hcompiled, Compilation.failure] at hrun
          split at hrun
          · cases hrun
          · next count houtcome =>
              rw [houtcome] at hcan
              exact ⟨plan, hplan, hwritten, count, hcan⟩

/-- A run that succeeds, its shaders compiled in whatever order and whatever their compiler does,
leaves its files up to date, with nothing to write for the next run, exactly when files that go to
one place agree and the compilation leaves them as they were written, provided that the
configuration and the schema can be read as before. The next run then comes to compiling at once. -/
theorem run_settles_iff (command : Command) (workspace : Workspace) (tree : Tree)
    (configFile : Option Path) :
    ((run ⟨configFile, false⟩ command workspace tree).failure = none →
      ∃ plan, CanLeave command workspace configFile tree plan
        (run ⟨configFile, false⟩ command workspace tree).tree) ∧
    ∀ plan later, CanLeave command workspace configFile tree plan later →
      plan.KeepsInputs workspace configFile tree later →
        ((run ⟨configFile, true⟩ command workspace later).failure = none ↔
          plan.Lasts tree later) ∧
        (Idle workspace configFile later ↔ plan.Lasts tree later) ∧
        (plan.Lasts tree later →
          (run ⟨configFile, false⟩ command workspace later).failure =
              (plan.compileShaders command later).failure ∧
            (run ⟨configFile, false⟩ command workspace later).tree =
              (plan.compileShaders command later).tree) := by
  refine ⟨exists_canLeave_run, fun plan later hleave hkeeps => ?_⟩
  have hagain := hkeeps.prepare hleave.prepared
  rw [run_check_iff hagain, idle_iff hagain, Plan.lasts_iff hleave.written]
  refine ⟨Iff.rfl, Iff.rfl, fun hstale => ?_⟩
  obtain ⟨hfailure, htree⟩ := run_write_eq hagain command
  obtain ⟨hcompiled, hleft⟩ := (plan.carryOut_eq command later).2
    (GeneratedFile.writeAll_idle_iff.mpr hstale).1
  rw [GeneratedFile.tree_writeAll_of_stale_eq_nil hstale] at hcompiled hleft
  exact ⟨hfailure.trans hcompiled, htree.trans hleft⟩

/-! ### Two outputs at one path -/

/-- A configuration that sends two outputs to one file. -/
def sharedConfig : String :=
  "schema = \"/s.toml\"\n[[outputs]]\ntarget = \"rust\"\npath = \"/shared\"\n" ++
    "[[outputs]]\ntarget = \"msl\"\npath = \"/shared\"\n"

def sharedTree : Tree where
  entries := [([⟨"g.toml", by decide⟩], .file sharedConfig.toUTF8),
    ([⟨"s.toml", by decide⟩], .file "[contract]\nname = \"T\"\n".toUTF8)]
  distinct := by decide

/-- The place of both outputs. -/
def sharedName : FileName := ⟨"shared", by decide⟩

/-- A run with the configuration plans two different files at the path. -/
theorem exists_sharedPlan : ∃ plan first second,
    (Plan.prepare ⟨⟨"/"⟩⟩ sharedTree (some ⟨"/g.toml"⟩)).outcome = .ok plan ∧
      plan.config.schema = ⟨"/s.toml"⟩ ∧ plan.config.metal.compile = false ∧
      plan.files = [first, second] ∧ (∀ file ∈ plan.files, file.path = ⟨"/shared"⟩) ∧
      first.content ≠ second.content := by
  have hplan : ((Plan.prepare ⟨⟨"/"⟩⟩ sharedTree (some ⟨"/g.toml"⟩)).outcome.toOption.map
      fun plan => (plan.config.schema, plan.config.metal.compile, plan.files.map (·.path),
        decide (plan.files.map (·.content)).Nodup)) =
      some (⟨"/s.toml"⟩, false, [⟨"/shared"⟩, ⟨"/shared"⟩], true) := by
    decide +kernel
  cases houtcome : (Plan.prepare ⟨⟨"/"⟩⟩ sharedTree (some ⟨"/g.toml"⟩)).outcome with
  | error failure =>
      rw [houtcome] at hplan
      cases hplan
  | ok plan =>
      rw [houtcome] at hplan
      simp only [Except.toOption, Option.map_some, Option.some.injEq, Prod.mk.injEq,
        decide_eq_true_eq] at hplan
      obtain ⟨hschema, hcompile, hpaths, hcontents⟩ := hplan
      obtain ⟨first, rest, hfiles, hfirst, hrest⟩ := List.map_eq_cons_iff.mp hpaths
      obtain ⟨second, rest, rfl, hsecond, hnil⟩ := List.map_eq_cons_iff.mp hrest
      rw [List.map_eq_nil_iff.mp hnil] at hfiles
      rw [hfiles] at hcontents
      refine ⟨plan, first, second, rfl, hschema, hcompile, hfiles, ?_,
        fun heq => (List.nodup_cons.mp hcontents).1 (List.mem_singleton.mpr heq)⟩
      rw [hfiles, List.forall_mem_cons, List.forall_mem_singleton]
      exact ⟨hfirst, hsecond⟩

/-- A file at the path is written, unless a directory is there. -/
theorem write_shared {tree : Tree} {file : GeneratedFile} (hpath : file.path = ⟨"/shared"⟩)
    (hentry : tree.get? [sharedName] ≠ some .directory) :
    file.write tree = (tree.insert [sharedName] (.file file.content.toUTF8), .ok ()) := by
  have hparent : Path.parent? ⟨"/shared"⟩ = some ⟨"/"⟩ := by decide +kernel
  have hsteps : Path.steps ⟨"/shared"⟩ = [sharedName.text] := by decide +kernel
  have hslash : Path.endsInSlash ⟨"/shared"⟩ = false := by decide +kernel
  have hclean : [sharedName.text].any (·.toList.contains '\x00') = false := by decide +kernel
  have hprepare : file.prepare tree = (tree, .ok ()) := by
    rw [GeneratedFile.prepare, hpath, hparent]
    rfl
  have hlocate {place : Place} (h : tree.Reaches [] [sharedName.text] place) :
      tree.locate (Path.steps ⟨"/shared"⟩) = .ok place :=
    Tree.locate_eq_ok_iff.mpr (hsteps ▸ ⟨hclean, h⟩)
  have hwrite (content : ByteArray) : tree.write ⟨"/shared"⟩ content =
      .ok (tree.insert [sharedName] (.file content)) := by
    cases hget : tree.get? [sharedName] with
    | none =>
        rw [Tree.write, hlocate (.free hget), hslash]
        rfl
    | some entry =>
        cases entry with
        | file before =>
            rw [Tree.write, hlocate (.file hget), hslash]
            rfl
        | directory => exact absurd hget hentry
  rw [GeneratedFile.write, hprepare]
  simp only [hpath, hwrite]

theorem writeAll_shared {tree : Tree} {files : List GeneratedFile}
    (hpaths : ∀ file ∈ files, file.path = ⟨"/shared"⟩)
    (hentry : tree.get? [sharedName] ≠ some .directory) :
    (GeneratedFile.writeAll tree files).failure = none := by
  induction files generalizing tree with
  | nil => rfl
  | cons file rest ih =>
      obtain ⟨hpath, hpaths⟩ := List.forall_mem_cons.mp hpaths
      rw [GeneratedFile.writeAll]
      split
      · exact ih hpaths hentry
      · rw [write_shared hpath hentry]
        refine ih hpaths ?_
        rw [Tree.get?_insert_self tree _ (List.cons_ne_nil _ _)]
        intro hdirectory
        cases hdirectory

/-- Outputs at the path go to other places than the configuration and the schema. -/
theorem apart_shared (hschema : plan.config.schema = ⟨"/s.toml"⟩)
    (hpaths : ∀ file ∈ plan.files, file.path = ⟨"/shared"⟩) (later : Tree) :
    plan.Apart ⟨⟨"/"⟩⟩ (some ⟨"/g.toml"⟩) sharedTree later := by
  have hinput (name : FileName) {input : Path} (hsteps : input.steps = [name.text])
      (hne : name ≠ sharedName) (file : GeneratedFile) (hfile : file ∈ plan.files)
      (location : Location) (hleads : later.LeadsTo input location) :
      ¬later.LeadsTo file.path location := by
    intro hleads'
    rw [hpaths file hfile] at hleads'
    have hshared : location = [sharedName] := hleads'.eq_of_steps (by decide +kernel)
    exact hne (List.cons.inj ((hleads.eq_of_steps hsteps).symm.trans hshared)).1
  refine ⟨hinput ⟨"g.toml", by decide⟩ (by decide +kernel) (by decide), ?_, nofun⟩
  rw [hschema]
  exact hinput ⟨"s.toml", by decide⟩ (by decide +kernel) (by decide)

/-- Two outputs at one path are never up to date both: the check fails right after the run, and the
next run writes again. -/
theorem shared_outputs_stay_stale :
    let later := (run ⟨some ⟨"/g.toml"⟩, false⟩ .missing ⟨⟨"/"⟩⟩ sharedTree).tree
    (run ⟨some ⟨"/g.toml"⟩, false⟩ .missing ⟨⟨"/"⟩⟩ sharedTree).failure = none ∧
      (run ⟨some ⟨"/g.toml"⟩, true⟩ .missing ⟨⟨"/"⟩⟩ later).failure ≠ none ∧
      ¬Idle ⟨⟨"/"⟩⟩ (some ⟨"/g.toml"⟩) later := by
  obtain ⟨plan, first, second, hplan, hschema, hcompile, hfiles, hpaths, hcontent⟩ :=
    exists_sharedPlan
  have hwritten : (GeneratedFile.writeAll sharedTree plan.files).failure = none :=
    writeAll_shared hpaths nofun
  obtain ⟨hfailure, htree⟩ := run_write_eq hplan .missing
  obtain ⟨hcompiled, hleft⟩ := (plan.carryOut_eq .missing sharedTree).2 hwritten
  rw [Plan.compileShaders_of_off hcompile] at hcompiled hleft
  have hrun := hfailure.trans hcompiled
  obtain ⟨hleaves, hsettles⟩ :=
    run_settles_iff .missing ⟨⟨"/"⟩⟩ sharedTree (some ⟨"/g.toml"⟩)
  obtain ⟨found, hleave⟩ := hleaves hrun
  cases hplan.symm.trans hleave.prepared
  intro later
  have hsettled := GeneratedFile.settled_writeAll hwritten
  have hlater : later = (GeneratedFile.writeAll sharedTree plan.files).tree := htree.trans hleft
  rw [← hlater] at hsettled
  have hlasts : ¬plan.Lasts sharedTree later := by
    rintro ⟨hagree, -⟩
    rw [← hlater] at hagree
    have hfirst : first ∈ plan.files := hfiles ▸ List.mem_cons_self
    have hsecond : second ∈ plan.files :=
      hfiles ▸ List.mem_cons_of_mem _ (List.mem_singleton_self _)
    obtain ⟨location, hleads⟩ := hsettled.leads first hfirst
    refine hcontent (hagree first hfirst second hsecond location hleads ?_)
    rwa [hpaths second hsecond, ← hpaths first hfirst]
  obtain ⟨hcheck, hagain, -⟩ :=
    hsettles plan later hleave ((apart_shared hschema hpaths later).keepsInputs hsettled.grows)
  exact ⟨hrun, mt hcheck.mp hlasts, mt hagain.mp hlasts⟩

/-! ### A shader compiled over an output -/

/-- A command with a compiler that copies each shader. -/
def copyingCommand : Command where
  run arguments tree :=
    match arguments.reverse with
    | shader :: output :: "-o" :: _ =>
      match tree.read ⟨shader⟩ with
      | .error error => (tree, .error error)
      | .ok content =>
        match tree.write ⟨output⟩ content with
        | .error error => (tree, .error error)
        | .ok tree => (tree, .ok ⟨true, .empty, .empty⟩)
    | _ => (tree, .ok ⟨true, .empty, .empty⟩)

/-- A configuration that sends its output to where a shader is compiled. -/
def compiledConfig : String :=
  "schema = \"/s.toml\"\n[[outputs]]\ntarget = \"msl\"\npath = \"/b/types.air\"\n" ++
    "[metal]\ncompile = true\nsrc_dir = \"/a\"\nbuild_dir = \"/b\"\n"

def compiledTree : Tree where
  entries := [([⟨"g.toml", by decide⟩], .file compiledConfig.toUTF8),
    ([⟨"s.toml", by decide⟩], .file "[contract]\nname = \"T\"\n".toUTF8),
    ([⟨"a", by decide⟩], .directory),
    ([⟨"a", by decide⟩, ⟨"types.metal", by decide⟩], .file .empty)]
  distinct := by decide

/-- That files of one place agree is not enough: here is one file only, but it does not outlast the
compilation. -/
theorem compiled_output_stays_stale :
    let outcome := run ⟨some ⟨"/g.toml"⟩, false⟩ copyingCommand ⟨⟨"/"⟩⟩ compiledTree
    outcome.failure = none ∧
      (run ⟨some ⟨"/g.toml"⟩, true⟩ copyingCommand ⟨⟨"/"⟩⟩ outcome.tree).failure ≠ none := by
  decide +kernel

end Request

end ShaderLayout
