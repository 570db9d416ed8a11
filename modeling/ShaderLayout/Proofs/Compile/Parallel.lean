import Mathlib.Data.Multiset.MapFold
import Mathlib.Logic.Relation
import ShaderLayout.Compile.Compiler
import ShaderLayout.Proofs.Compile.Task

/-!
Tasks done side by side. Each task makes the directory of its output and then has
the compiler run, and between these two steps others may do theirs. After a
failure tasks that wait may be left out, but what is running comes to its end. A
compilation in any order of the tasks is one of these.
-/

namespace ShaderLayout

namespace Compiler

/-! ### The halves of a task -/

/-- The second half of a task, when the directory of its output is there. -/
def finish (compiler : Compiler) (tree : Tree) (task : CompileTask) : Tree × Report Unit :=
  match compiler.run task tree with
  | (tree, .error error) => (tree, .fail (.file error))
  | (tree, .ok result) => (tree, compiler.judge task result)

variable {compiler : Compiler} {tree : Tree} {task : CompileTask}

theorem compile_eq (compiler : Compiler) (tree : Tree) (task : CompileTask) :
    compiler.compile tree task =
      match Compiler.prepare tree task with
      | (tree, .error error) => (tree, .fail (.file error))
      | (tree, .ok ()) => compiler.finish tree task :=
  rfl

theorem outcome_judge (compiler : Compiler) (task : CompileTask) (result : CompilerResult) :
    (compiler.judge task result).outcome =
      if result.succeeded then .ok () else .error (.notCompiled compiler.name task.shader) := by
  rw [judge]
  cases result.stdout.isEmpty <;> cases result.stderr.isEmpty <;> cases result.succeeded <;> rfl

/-- The second half of a task succeeds exactly when the compiler does. -/
theorem finish_eq_ok_iff : (compiler.finish tree task).2.outcome = .ok () ↔
    ∃ result, (compiler.run task tree).2 = .ok result ∧ result.succeeded = true := by
  rw [finish]
  split
  · next later error hrun => simp [hrun, Report.fail]
  · next later result hrun => simp [hrun, outcome_judge]

/-- A task fails somewhere: the directory of its output cannot be made, or the compiler fails. -/
def FailsWith (compiler : Compiler) (task : CompileTask) (failure : Failure) : Prop :=
  ∃ tree, (∃ error, (Compiler.prepare tree task).2 = .error error ∧ failure = .file error) ∨
    (compiler.finish tree task).2.outcome = .error failure

/-! ### Steps -/

/-- How far tasks have come. -/
structure Progress where
  tree : Tree
  notices : List Notice
  waiting : Multiset CompileTask
  /-- The directories of their outputs are made. -/
  running : Multiset CompileTask
  compiled : Multiset CompileTask
  failed : Multiset (CompileTask × Failure)

namespace Progress

def start (tree : Tree) (tasks : List CompileTask) : Progress :=
  ⟨tree, [], tasks, 0, 0, 0⟩

/-- Nothing goes on any more: everything is done, or a failure made an end. -/
def AtRest (progress : Progress) : Prop :=
  progress.running = 0 ∧ (progress.waiting = 0 ∨ progress.failed ≠ 0)

/-- What is returned at the end: the number of tasks, or one of the failures if there are any. -/
def Returns (progress : Progress) (count : Nat) : Except Failure Nat → Prop
  | .ok number => progress.failed = 0 ∧ number = count
  | .error failure => ∃ task, (task, failure) ∈ progress.failed

theorem atRest_of_mem_failed {progress : Progress} (hrunning : progress.running = 0)
    {entry : CompileTask × Failure} (h : entry ∈ progress.failed) : progress.AtRest :=
  ⟨hrunning, .inr fun hfailed => Multiset.notMem_zero entry (hfailed ▸ h)⟩

/-- How many steps there can still be. -/
def remaining (progress : Progress) : Nat :=
  2 * progress.waiting.card + progress.running.card

end Progress

/-- A step of any of the tasks. -/
inductive Step (compiler : Compiler) : Progress → Progress → Prop
  | prepare {progress : Progress} {task : CompileTask} {rest : Multiset CompileTask} {tree : Tree}
      (hwaiting : progress.waiting = task ::ₘ rest)
      (hprepare : Compiler.prepare progress.tree task = (tree, .ok ())) :
      compiler.Step progress
        { progress with
          tree := tree
          notices := progress.notices ++ [startNotice task]
          waiting := rest
          running := task ::ₘ progress.running }
  | obstruct {progress : Progress} {task : CompileTask} {rest : Multiset CompileTask} {tree : Tree}
      {error : FileError} (hwaiting : progress.waiting = task ::ₘ rest)
      (hprepare : Compiler.prepare progress.tree task = (tree, .error error)) :
      compiler.Step progress
        { progress with
          tree := tree
          notices := progress.notices ++ [startNotice task]
          waiting := rest
          failed := (task, .file error) ::ₘ progress.failed }
  | succeed {progress : Progress} {task : CompileTask} {rest : Multiset CompileTask} {tree : Tree}
      {report : Report Unit} (hrunning : progress.running = task ::ₘ rest)
      (hfinish : compiler.finish progress.tree task = (tree, report))
      (houtcome : report.outcome = .ok ()) :
      compiler.Step progress
        { progress with
          tree := tree
          notices := progress.notices ++ report.notices
          running := rest
          compiled := task ::ₘ progress.compiled }
  | fail {progress : Progress} {task : CompileTask} {rest : Multiset CompileTask} {tree : Tree}
      {report : Report Unit} {failure : Failure} (hrunning : progress.running = task ::ₘ rest)
      (hfinish : compiler.finish progress.tree task = (tree, report))
      (houtcome : report.outcome = .error failure) :
      compiler.Step progress
        { progress with
          tree := tree
          notices := progress.notices ++ report.notices
          running := rest
          failed := (task, failure) ::ₘ progress.failed }

abbrev Steps (compiler : Compiler) : Progress → Progress → Prop :=
  Relation.ReflTransGen compiler.Step

/-- How doing tasks side by side can end, and what is returned then. -/
structure CanEnd (compiler : Compiler) (tree : Tree) (tasks : List CompileTask)
    (progress : Progress) (outcome : Except Failure Nat) : Prop where
  steps : compiler.Steps (.start tree tasks) progress
  rest : progress.AtRest
  returns : progress.Returns tasks.length outcome

variable {progress next : Progress} {tasks : Multiset CompileTask}

/-! ### What steps keep -/

/-- Every task is in one place, and is there for a reason. -/
structure Accounts (compiler : Compiler) (tasks : Multiset CompileTask)
    (progress : Progress) : Prop where
  all : progress.waiting + progress.running + progress.compiled + progress.failed.map Prod.fst =
    tasks
  compiled : ∀ task ∈ progress.compiled, ∃ tree result,
    (compiler.run task tree).2 = .ok result ∧ result.succeeded = true
  failed : ∀ entry ∈ progress.failed, compiler.FailsWith entry.1 entry.2

namespace Accounts

theorem start (compiler : Compiler) (tree : Tree) (tasks : List CompileTask) :
    compiler.Accounts tasks (.start tree tasks) where
  all := by simp [Progress.start]
  compiled := nofun
  failed := nofun

theorem step (h : compiler.Accounts tasks progress) (hstep : compiler.Step progress next) :
    compiler.Accounts tasks next := by
  have hall := h.all
  cases hstep with
  | prepare hwaiting hprepare =>
      refine ⟨?_, h.compiled, h.failed⟩
      rw [← hall, hwaiting]
      simp
  | obstruct hwaiting hprepare =>
      refine ⟨?_, h.compiled, Multiset.forall_mem_cons.mpr ⟨⟨progress.tree, .inl ?_⟩, h.failed⟩⟩
      · rw [← hall, hwaiting]
        simp
      · exact ⟨_, by rw [hprepare], rfl⟩
  | succeed hrunning hfinish houtcome =>
      refine ⟨?_, Multiset.forall_mem_cons.mpr ⟨⟨progress.tree, ?_⟩, h.compiled⟩, h.failed⟩
      · rw [← hall, hrunning]
        simp
      · exact finish_eq_ok_iff.mp (by rw [hfinish, houtcome])
  | fail hrunning hfinish houtcome =>
      refine ⟨?_, h.compiled, Multiset.forall_mem_cons.mpr ⟨⟨progress.tree, .inr ?_⟩, h.failed⟩⟩
      · rw [← hall, hrunning]
        simp
      · rw [hfinish, houtcome]

theorem steps (h : compiler.Accounts tasks progress) (hsteps : compiler.Steps progress next) :
    compiler.Accounts tasks next := by
  induction hsteps with
  | refl => exact h
  | tail _ hstep ih => exact ih.step hstep

end Accounts

/-! ### Coming to an end -/

theorem Step.remaining_lt (h : compiler.Step progress next) :
    next.remaining < progress.remaining := by
  cases h with
  | prepare hwaiting _ | obstruct hwaiting _ =>
      simp only [Progress.remaining, hwaiting, Multiset.card_cons]
      omega
  | succeed hrunning _ _ | fail hrunning _ _ =>
      simp only [Progress.remaining, hrunning, Multiset.card_cons]
      omega

theorem wellFounded_step (compiler : Compiler) :
    WellFounded fun next progress => compiler.Step progress next :=
  Subrelation.wf Step.remaining_lt (measure Progress.remaining).wf

/-- As long as something goes on, there is a step. -/
theorem exists_step (compiler : Compiler) (h : ¬progress.AtRest) :
    ∃ next, compiler.Step progress next := by
  rcases progress.running.empty_or_exists_mem with hrunning | ⟨task, htask⟩
  · have hne : progress.waiting ≠ 0 := fun hwaiting => h ⟨hrunning, .inl hwaiting⟩
    obtain ⟨task, htask⟩ := Multiset.exists_mem_of_ne_zero hne
    obtain ⟨rest, hwaiting⟩ := Multiset.exists_cons_of_mem htask
    rcases hprepare : Compiler.prepare progress.tree task with ⟨tree, error | ⟨⟩⟩
    · exact ⟨_, .obstruct hwaiting hprepare⟩
    · exact ⟨_, .prepare hwaiting hprepare⟩
  · obtain ⟨rest, hrunning⟩ := Multiset.exists_cons_of_mem htask
    rcases hfinish : compiler.finish progress.tree task with ⟨tree, report⟩
    cases houtcome : report.outcome with
    | error failure => exact ⟨_, .fail hrunning hfinish houtcome⟩
    | ok done => exact ⟨_, .succeed hrunning hfinish houtcome⟩

theorem exists_atRest (compiler : Compiler) (progress : Progress) :
    ∃ last, compiler.Steps progress last ∧ last.AtRest := by
  induction progress using compiler.wellFounded_step.induction with
  | _ progress ih =>
      by_cases hrest : progress.AtRest
      · exact ⟨progress, .refl, hrest⟩
      · obtain ⟨next, hstep⟩ := compiler.exists_step hrest
        obtain ⟨last, hsteps, hlast⟩ := ih next hstep
        exact ⟨last, .head hstep hsteps, hlast⟩

theorem Progress.exists_returns (progress : Progress) (count : Nat) :
    ∃ outcome, progress.Returns count outcome := by
  rcases progress.failed.empty_or_exists_mem with hfailed | ⟨⟨task, failure⟩, hfailed⟩
  · exact ⟨.ok count, hfailed, rfl⟩
  · exact ⟨.error failure, task, hfailed⟩

/-- What doing tasks side by side comes to, in whatever order their steps are. -/
structure Settles (compiler : Compiler) (tree : Tree) (tasks : List CompileTask) : Prop where
  /-- Steps come to an end, and there is one to come to from everywhere. -/
  terminates : WellFounded fun next progress => compiler.Step progress next
  ends : ∀ progress, compiler.Steps (.start tree tasks) progress →
    ∃ last outcome, compiler.Steps progress last ∧ compiler.CanEnd tree tasks last outcome
  /-- A number is returned only if it is that of the tasks, and each was compiled once. -/
  ok : ∀ progress number, compiler.CanEnd tree tasks progress (.ok number) →
    number = tasks.length ∧
      ∀ task, progress.compiled.count task = (if task ∈ tasks then 1 else 0) ∧
        (task ∈ tasks → ∃ before result,
          (compiler.run task before).2 = .ok result ∧ result.succeeded = true)
  /-- If nothing failed, their number is returned. -/
  succeeds : ∀ progress outcome, compiler.CanEnd tree tasks progress outcome →
    progress.failed = 0 → outcome = .ok tasks.length
  /-- If anything failed, what is returned is the failure of a task. -/
  error : ∀ progress outcome, compiler.CanEnd tree tasks progress outcome →
    progress.failed ≠ 0 →
      ∃ failure, outcome = .error failure ∧ ∃ task ∈ tasks, compiler.FailsWith task failure

theorem settles (compiler : Compiler) (tree : Tree) {tasks : List CompileTask}
    (hnodup : tasks.Nodup) : compiler.Settles tree tasks where
  terminates := compiler.wellFounded_step
  ends progress hsteps := by
    obtain ⟨last, hlast, hrest⟩ := compiler.exists_atRest progress
    obtain ⟨outcome, hreturns⟩ := last.exists_returns tasks.length
    exact ⟨last, outcome, hlast, hsteps.trans hlast, hrest, hreturns⟩
  ok := by
    rintro progress number ⟨hsteps, ⟨hrunning, hwaiting⟩, hfailed, hnumber⟩
    have haccounts := (Accounts.start compiler tree tasks).steps hsteps
    have hcompiled : progress.compiled = tasks := by
      have hall := haccounts.all
      rw [hrunning, hwaiting.resolve_right (not_not_intro hfailed), hfailed] at hall
      simpa using hall
    refine ⟨hnumber, fun task => ⟨?_, fun htask => ?_⟩⟩
    · rw [hcompiled, Multiset.coe_count]
      split
      · next htask => exact List.count_eq_one_of_mem hnodup htask
      · next htask => exact List.count_eq_zero_of_not_mem htask
    · exact haccounts.compiled task (hcompiled ▸ htask)
  succeeds := by
    rintro progress outcome ⟨-, -, hreturns⟩ hfailed
    cases outcome with
    | ok number => rw [hreturns.2]
    | error failure =>
        obtain ⟨task, hmem⟩ := hreturns
        exact absurd (hfailed ▸ hmem) (Multiset.notMem_zero _)
  error := by
    rintro progress outcome ⟨hsteps, -, hreturns⟩ hfailed
    have haccounts := (Accounts.start compiler tree tasks).steps hsteps
    cases outcome with
    | ok number => exact absurd hreturns.1 hfailed
    | error failure =>
        obtain ⟨task, hmem⟩ := hreturns
        refine ⟨failure, rfl, task, ?_, haccounts.failed (task, failure) hmem⟩
        have htask : task ∈ (tasks : Multiset CompileTask) := by
          rw [← haccounts.all]
          exact Multiset.mem_add.mpr (.inr (Multiset.mem_map_of_mem Prod.fst hmem))
        exact htask

/-! ### One task after another -/

section Alone

variable {later : Tree} {report : Report Unit} {notices : List Notice}
  {rest compiled : Multiset CompileTask}

theorem steps_of_compile_ok (h : compiler.compile tree task = (later, report))
    (houtcome : report.outcome = .ok ()) :
    compiler.Steps ⟨tree, notices, task ::ₘ rest, 0, compiled, 0⟩
      ⟨later, notices ++ startNotice task :: report.notices, rest, 0, task ::ₘ compiled, 0⟩ := by
  rw [compile_eq] at h
  rcases hprepare : Compiler.prepare tree task with ⟨prepared, error | ⟨⟩⟩ <;> rw [hprepare] at h
  · cases h
    cases houtcome
  · rw [← List.singleton_append, ← List.append_assoc]
    exact .tail (.single (.prepare rfl hprepare)) (.succeed rfl h houtcome)

theorem steps_of_compile_error {failure : Failure}
    (h : compiler.compile tree task = (later, report))
    (houtcome : report.outcome = .error failure) :
    compiler.Steps ⟨tree, notices, task ::ₘ rest, 0, compiled, 0⟩
      ⟨later, notices ++ startNotice task :: report.notices, rest, 0, compiled,
        (task, failure) ::ₘ 0⟩ := by
  rw [compile_eq] at h
  rcases hprepare : Compiler.prepare tree task with ⟨prepared, error | ⟨⟩⟩ <;> rw [hprepare] at h
  · cases h
    cases houtcome
    exact .single (.obstruct rfl hprepare)
  · rw [← List.singleton_append, ← List.append_assoc]
    exact .tail (.single (.prepare rfl hprepare)) (.fail rfl h houtcome)

end Alone

/-- Done in some order, one after another, tasks come to an end as if done side by side. -/
theorem exists_steps_compileAll (compiler : Compiler) (order : List CompileTask) (tree : Tree)
    (notices : List Notice) (compiled : Multiset CompileTask) :
    ∃ progress, compiler.Steps ⟨tree, notices, order, 0, compiled, 0⟩ progress ∧
      progress.AtRest ∧ progress.tree = (compiler.compileAll tree order).tree ∧
      progress.notices = notices ++ (compiler.compileAll tree order).notices ∧
      progress.Returns order.length (compiler.compileAll tree order).outcome := by
  induction order generalizing tree notices compiled with
  | nil => exact ⟨_, .refl, ⟨rfl, .inl rfl⟩, rfl, (List.append_nil notices).symm, rfl, rfl⟩
  | cons task rest ih =>
      rcases hcompile : compiler.compile tree task with ⟨later, report⟩
      rw [compileAll, ← Multiset.cons_coe]
      simp only [hcompile]
      cases houtcome : report.outcome with
      | error failure =>
          have hfailed := Multiset.mem_cons_self (task, failure) 0
          exact ⟨_, steps_of_compile_error hcompile houtcome,
            Progress.atRest_of_mem_failed rfl hfailed, rfl, rfl, task, hfailed⟩
      | ok done =>
          obtain ⟨progress, hsteps, hrest, htree, hnotices, hreturns⟩ :=
            ih later (notices ++ startNotice task :: report.notices) (task ::ₘ compiled)
          refine ⟨progress, (steps_of_compile_ok hcompile houtcome).trans hsteps, hrest, htree,
            hnotices.trans (List.append_assoc ..), ?_⟩
          revert hreturns
          cases (compiler.compileAll later rest).outcome with
          | error failure => exact id
          | ok number => exact fun h => ⟨h.1, congrArg (· + 1) h.2⟩

/-- A compilation in any order of the tasks is one that they can come to side by side. -/
theorem canEnd_compileAll (compiler : Compiler) (tree : Tree) {order tasks : List CompileTask}
    (h : order.Perm tasks) : ∃ progress,
      compiler.CanEnd tree tasks progress (compiler.compileAll tree order).outcome ∧
        progress.tree = (compiler.compileAll tree order).tree ∧
        progress.notices = (compiler.compileAll tree order).notices := by
  obtain ⟨progress, hsteps, hrest, htree, hnotices, hreturns⟩ :=
    compiler.exists_steps_compileAll order tree [] 0
  rw [Multiset.coe_eq_coe.mpr h] at hsteps
  exact ⟨progress, ⟨hsteps, hrest, h.length_eq ▸ hreturns⟩, htree, hnotices⟩

end Compiler

/-- The shaders of a directory, however deep they are, have one task each, with outputs of their
own. If there is a compiler, doing the tasks side by side or in any order comes to an end, and their
number is returned only if each was compiled once. Without one nothing is done. -/
theorem shaders_compile_once (tree : Tree) (htree : tree.Sound) (source build : Path) :
    (∀ here, tree.directoryAt? source = some here →
      CompileTask.Covers tree here source build (CompileTask.collect tree source build)) ∧
    ∀ compiler : Compiler,
      (compiler.isAvailable = true →
        compiler.Settles tree (CompileTask.collect tree source build) ∧
        (∀ order : List CompileTask, order.Perm (CompileTask.collect tree source build) →
          ∃ progress, compiler.CanEnd tree (CompileTask.collect tree source build) progress
              (compiler.compileAll tree order).outcome ∧
            progress.tree = (compiler.compileAll tree order).tree ∧
            progress.notices = (compiler.compileAll tree order).notices) ∧
        compiler.compileDirectory tree source build =
          compiler.compileAll tree (CompileTask.collect tree source build)) ∧
      (compiler.isAvailable = false →
        compiler.compileDirectory tree source build = ⟨tree, [compiler.skipNotice], .ok 0⟩) := by
  refine ⟨fun here hsource => CompileTask.covers_collect htree hsource,
    fun compiler => ⟨fun havailable => ⟨?_, ?_, ?_⟩, fun havailable => ?_⟩⟩
  · exact compiler.settles tree (CompileTask.nodup_collect htree source build)
  · exact fun order horder => compiler.canEnd_compileAll tree horder
  · exact if_pos havailable
  · exact if_neg (Bool.eq_false_iff.mp havailable)

/-- Shaders at two depths, one with dots in its name, beside a file that has no extension. -/
def passesTree : Tree :=
  ((Tree.empty.place ⟨"passes/a.metal"⟩ .empty).place ⟨"passes/late/b.v2.metal"⟩ .empty).place
    ⟨"passes/.metal"⟩ .empty

/-- A compiler that takes everything. -/
def Compiler.lenient : Compiler :=
  ⟨"metal", true, fun _ tree => (tree, .ok ⟨true, .empty, .empty⟩)⟩

/-- The outputs go into a directory among the shaders. -/
theorem passes_compile_once :
    (CompileTask.collect passesTree ⟨"passes"⟩ ⟨"passes/late"⟩).map (·.output.text) =
        ["passes/late/late/b.v2.air", "passes/late/a.air"] ∧
      CompileTask.Covers passesTree [⟨"passes", by decide⟩] ⟨"passes"⟩ ⟨"passes/late"⟩
        (CompileTask.collect passesTree ⟨"passes"⟩ ⟨"passes/late"⟩) ∧
      Compiler.lenient.Settles passesTree
        (CompileTask.collect passesTree ⟨"passes"⟩ ⟨"passes/late"⟩) ∧
      (Compiler.lenient.compileDirectory passesTree ⟨"passes"⟩ ⟨"passes/late"⟩).outcome.toOption =
        some 2 ∧
      ((Compiler.missing "metal").compileDirectory passesTree ⟨"passes"⟩ ⟨"passes/late"⟩).tree =
        passesTree := by
  have hsound : passesTree.Sound := ((Tree.sound_empty.place _ _).place _ _).place _ _
  have hsource : passesTree.directoryAt? ⟨"passes"⟩ = some [⟨"passes", by decide⟩] := by
    decide +kernel
  obtain ⟨hcovers, hcompilers⟩ :=
    shaders_compile_once passesTree hsound ⟨"passes"⟩ ⟨"passes/late"⟩
  refine ⟨by decide +kernel, hcovers _ hsource,
    ((hcompilers .lenient).1 rfl).1, by decide +kernel, ?_⟩
  rw [(hcompilers (.missing "metal")).2 rfl]

end ShaderLayout
