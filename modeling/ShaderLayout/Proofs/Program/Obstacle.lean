import ShaderLayout.Proofs.Portability.Interchange
import ShaderLayout.Proofs.Program.Rerun
import ShaderLayout.Proofs.Shader.Verification

/-!
What keeps a run from writing. Each step of its preparation can meet an obstacle:
the configuration, the schema, the sides that share the blocks, and each output
that is generated or verified. A run that meets one fails as one of them and
leaves the tree as it was; a run that meets none has a plan in which everything
checks out, and only then are files written.
-/

namespace ShaderLayout

namespace Report

variable {α : Type} {work : α → Report Unit} {items : List α}

@[simp] theorem outcome_give (notices : List Notice) : (give notices).outcome = pure () := rfl

@[simp] theorem outcome_notice (level : NoticeLevel) (source : NoticeSource) (text : String) :
    (notice level source text).outcome = pure () := rfl

theorem outcome_forM : (items.forM work).outcome = items.forM fun item => (work item).outcome := by
  induction items with
  | nil => rfl
  | cons item items ih =>
      show (work item >>= fun _ => items.forM work).outcome = _
      rw [outcome_bind, ih]
      rfl

end Report

variable {workspace : Workspace} {tree : Tree} {configFile : Option Path} {config : Config}
  {text : String} {contract : Contract} {output : Output} {plan : Plan}

namespace Plan

/-- What a run reads: its configuration, the text of the schema, and the contract that the schema
is accepted as. -/
structure Reads (workspace : Workspace) (tree : Tree) (configFile : Option Path) (config : Config)
    (text : String) (contract : Contract) : Prop where
  loaded : (loadConfig workspace tree configFile).outcome = .ok config
  read : tree.readText config.schema = .ok text
  accepted : ∃ schema, Schema.ofText text = .ok schema ∧ schema.validate = .ok contract

/-- What keeps a run from writing, each with the failure that it makes. One output is enough,
however many others are fine. -/
inductive Obstacle (workspace : Workspace) (tree : Tree) (configFile : Option Path) :
    Failure → Prop
  | config {cause : Failure} (h : (loadConfig workspace tree configFile).outcome = .error cause) :
      Obstacle workspace tree configFile cause
  | schemaFile {config : Config} {cause : FileError}
      (hloaded : (loadConfig workspace tree configFile).outcome = .ok config)
      (h : tree.readText config.schema = .error cause) :
      Obstacle workspace tree configFile (.unreadable config.schema cause)
  | schemaText {config : Config} {text : String} {cause : LayoutError}
      (hloaded : (loadConfig workspace tree configFile).outcome = .ok config)
      (hread : tree.readText config.schema = .ok text) (h : Schema.ofText text = .error cause) :
      Obstacle workspace tree configFile (.layout cause)
  | schema {config : Config} {text : String} {schema : Schema} {cause : LayoutError}
      (hloaded : (loadConfig workspace tree configFile).outcome = .ok config)
      (hread : tree.readText config.schema = .ok text) (hschema : Schema.ofText text = .ok schema)
      (h : schema.validate = .error cause) :
      Obstacle workspace tree configFile (.layout cause)
  | sides {config : Config} {text : String} {contract : Contract} {cause : LayoutError}
      (hreads : Reads workspace tree configFile config text contract)
      (h : contract.checkPortability (config.rules contract) = .error cause) :
      Obstacle workspace tree configFile (.layout cause)
  | output {config : Config} {text : String} {contract : Contract} {output : Output}
      {fault : Bindings.MemberFault}
      (hreads : Reads workspace tree configFile config text contract)
      (houtput : output ∈ config.outputs)
      (h : output.target.text (generation config contract text) = .error fault) :
      Obstacle workspace tree configFile (.notGenerated output.target output.path fault)
  | shader {config : Config} {text : String} {contract : Contract} {output : Output}
      {content : String} {cause : LayoutError}
      (hreads : Reads workspace tree configFile config text contract)
      (houtput : output ∈ config.outputs) (htarget : output.target = .wgsl)
      (hcontent : output.target.text (generation config contract text) = .ok content)
      (h : contract.checkShader content = .error cause) :
      Obstacle workspace tree configFile (.notVerified output.path cause)

/-- A file is what a generation gives for an output. -/
structure Generates (generation : Generation) (output : Output) (file : GeneratedFile) : Prop where
  target : file.target = output.target
  path : file.path = output.path
  content : output.target.text generation = .ok file.content

/-- A plan in which everything checks out: all sides lay out the blocks alike, and there is a file
for each output, verified if it is a shader module. -/
structure ChecksOut (plan : Plan) (workspace : Workspace) (tree : Tree) (configFile : Option Path)
    (text : String) : Prop where
  reads : Reads workspace tree configFile plan.config text plan.contract
  sides : plan.contract.AgreesUnder
    (plan.contract.hostRules :: plan.config.outputs.map (·.target.rules plan.contract))
  files : List.Forall₂ (Generates (generation plan.config plan.contract text)) plan.config.outputs
    plan.files
  shaders : ∀ file ∈ plan.files, file.target = .wgsl →
    plan.contract.checkShader file.content = .ok ()

/-! ### Steps of a preparation -/

theorem generate_eq_ok_iff {generation : Generation} {file : GeneratedFile} :
    output.generate generation = .ok file ↔ Generates generation output file := by
  rw [Output.generate, bind_eq_ok_iff]
  constructor
  · rintro ⟨content, hcontent, hfile⟩
    cases hfile
    exact ⟨rfl, rfl, mapError_eq_ok_iff.mp hcontent⟩
  · rintro ⟨htarget, hpath, hcontent⟩
    refine ⟨file.content, mapError_eq_ok_iff.mpr hcontent, ?_⟩
    rw [← htarget, ← hpath]
    rfl

theorem outcome_verify {file : GeneratedFile} :
    (file.verify contract).outcome =
      (contract.checkShader file.content).mapError (.notVerified file.path) := by
  rw [GeneratedFile.verify]
  simp only [Report.outcome_bind, Report.outcome_give, Report.outcome_ofResult,
    Report.outcome_notice]
  cases contract.checkShader file.content <;> rfl

/-- The steps of a preparation, without what they tell. -/
theorem outcome_prepare : (prepare workspace tree configFile).outcome = do
    let config ← (loadConfig workspace tree configFile).outcome
    let text ← (tree.readText config.schema).mapError (.unreadable config.schema)
    let schema ← (Schema.ofText text).mapError .layout
    let contract ← schema.validate.mapError .layout
    (contract.checkPortability (config.rules contract)).mapError .layout
    let files ← Output.generateAll (generation config contract text) config.outputs
    (files.filter fun file => file.target = .wgsl).forM fun file =>
      (contract.checkShader file.content).mapError (.notVerified file.path)
    return ⟨config, contract, files⟩ := by
  have hid (result : Except Failure (List GeneratedFile)) : result.mapError id = result := by
    cases result <;> rfl
  rw [prepare, Report.outcome_bind]
  refine bind_congr fun config => ?_
  simp only [ofConfig, readContract, checkSides, GeneratedFile.verifyAll, Report.outcome_bind,
    Report.outcome_forM, Report.outcome_notice, Report.outcome_ofResult, Report.outcome_give,
    outcome_verify, hid, bind_assoc, pure_bind]
  rfl

/-! ### Plans and obstacles -/

theorem agreesUnder_rules_iff : contract.AgreesUnder (config.rules contract) ↔
    contract.AgreesUnder (contract.hostRules :: config.outputs.map (·.target.rules contract)) :=
  ⟨fun h => h.of_subset fun _ => Config.mem_rules.mpr,
    fun h => h.of_subset fun _ => Config.mem_rules.mp⟩

/-- A preparation comes to a plan exactly when everything in it checks out. -/
theorem outcome_prepare_eq_ok_iff : (prepare workspace tree configFile).outcome = .ok plan ↔
    ∃ text, plan.ChecksOut workspace tree configFile text := by
  have hsides (config : Config) (contract : Contract) :=
    (contract.checkPortability_eq_ok_iff (config.rules contract)).trans agreesUnder_rules_iff
  have hshaders (contract : Contract) (files : List GeneratedFile) :
      ((files.filter fun file => file.target = .wgsl).forM fun file =>
        (contract.checkShader file.content).mapError (Failure.notVerified file.path)) = .ok () ↔
      ∀ file ∈ files, file.target = .wgsl → contract.checkShader file.content = .ok () := by
    rw [forM_eq_ok_iff]
    simp only [mapError_eq_ok_iff, List.mem_filter, decide_eq_true_eq, and_imp]
  rw [outcome_prepare]
  simp only [bind_eq_ok_iff, mapError_eq_ok_iff, Output.generateAll, mapM_eq_ok_iff,
    generate_eq_ok_iff, hsides, hshaders]
  constructor
  · rintro ⟨config, hconfig, text, htext, schema, hschema, contract, hcontract, _, hagrees, files,
      hfiles, _, hverified, hplan⟩
    cases hplan
    exact ⟨text, ⟨hconfig, htext, schema, hschema, hcontract⟩, hagrees, hfiles, hverified⟩
  · rintro ⟨text, ⟨hconfig, htext, schema, hschema, hcontract⟩, hagrees, hfiles, hverified⟩
    exact ⟨plan.config, hconfig, text, htext, schema, hschema, plan.contract, hcontract, (),
      hagrees, plan.files, hfiles, (), hverified, rfl⟩

/-- A preparation fails as an obstacle that it meets. -/
theorem obstacle_of_outcome_prepare {cause : Failure}
    (h : (prepare workspace tree configFile).outcome = .error cause) :
    Obstacle workspace tree configFile cause := by
  rw [outcome_prepare] at h
  rcases bind_eq_error_iff.mp h with hload | ⟨config, hload, h⟩
  · exact .config hload
  rcases bind_eq_error_iff.mp h with hfile | ⟨text, htext, h⟩
  · obtain ⟨error, herror, rfl⟩ := mapError_eq_error_iff.mp hfile
    exact .schemaFile hload herror
  rw [mapError_eq_ok_iff] at htext
  rcases bind_eq_error_iff.mp h with hread | ⟨schema, hschema, h⟩
  · obtain ⟨error, herror, rfl⟩ := mapError_eq_error_iff.mp hread
    exact .schemaText hload htext herror
  rw [mapError_eq_ok_iff] at hschema
  rcases bind_eq_error_iff.mp h with hvalidate | ⟨contract, hcontract, h⟩
  · obtain ⟨error, herror, rfl⟩ := mapError_eq_error_iff.mp hvalidate
    exact .schema hload htext hschema herror
  have hreads : Reads workspace tree configFile config text contract :=
    ⟨hload, htext, schema, hschema, mapError_eq_ok_iff.mp hcontract⟩
  rcases bind_eq_error_iff.mp h with hsides | ⟨_, -, h⟩
  · obtain ⟨error, herror, rfl⟩ := mapError_eq_error_iff.mp hsides
    exact .sides hreads herror
  rcases bind_eq_error_iff.mp h with hgenerate | ⟨files, hfiles, h⟩
  · obtain ⟨output, houtput, hgenerate⟩ := exists_of_mapM_eq_error hgenerate
    rcases bind_eq_error_iff.mp hgenerate with hcontent | ⟨_, -, ⟨⟩⟩
    obtain ⟨fault, hfault, rfl⟩ := mapError_eq_error_iff.mp hcontent
    exact .output hreads houtput hfault
  rcases bind_eq_error_iff.mp h with hverify | ⟨_, -, ⟨⟩⟩
  obtain ⟨before, file, after, hsplit, -, hverify⟩ := exists_of_forM_eq_error hverify
  obtain ⟨error, herror, rfl⟩ := mapError_eq_error_iff.mp hverify
  have hfile : file ∈ files.filter fun file => file.target = .wgsl :=
    hsplit ▸ List.mem_append_right before List.mem_cons_self
  obtain ⟨hfile, htarget⟩ := List.mem_filter.mp hfile
  obtain ⟨output, houtput, hgenerates⟩ :=
    exists_related_of_mem (mapM_eq_ok_iff.mp hfiles).flip hfile
  obtain ⟨htarget', hpath, hcontent⟩ := generate_eq_ok_iff.mp hgenerates
  rw [hpath]
  exact .shader hreads houtput (htarget'.symm.trans (of_decide_eq_true htarget)) hcontent herror

variable {other : Config} {otherText : String} {otherContract : Contract}

/-- A run reads one thing. -/
theorem Reads.unique (h : Reads workspace tree configFile config text contract)
    (h' : Reads workspace tree configFile other otherText otherContract) :
    config = other ∧ text = otherText ∧ contract = otherContract := by
  obtain ⟨hload, htext, schema, hschema, hcontract⟩ := h
  obtain ⟨hload', htext', schema', hschema', hcontract'⟩ := h'
  cases hload.symm.trans hload'
  cases htext.symm.trans htext'
  cases hschema.symm.trans hschema'
  cases hcontract.symm.trans hcontract'
  exact ⟨rfl, rfl, rfl⟩

/-- Where everything checks out there is no obstacle. -/
theorem ChecksOut.not_obstacle (h : plan.ChecksOut workspace tree configFile text)
    {cause : Failure} : ¬Obstacle workspace tree configFile cause := by
  obtain ⟨hload, htext, schema, hschema, hcontract⟩ := h.reads
  intro hobstacle
  cases hobstacle with
  | config hcause => cases hload.symm.trans hcause
  | schemaFile hloaded hcause =>
      cases hload.symm.trans hloaded
      cases htext.symm.trans hcause
  | schemaText hloaded hread hcause =>
      cases hload.symm.trans hloaded
      cases htext.symm.trans hread
      cases hschema.symm.trans hcause
  | schema hloaded hread hparsed hcause =>
      cases hload.symm.trans hloaded
      cases htext.symm.trans hread
      cases hschema.symm.trans hparsed
      cases hcontract.symm.trans hcause
  | sides hreads hcause =>
      obtain ⟨rfl, -, rfl⟩ := h.reads.unique hreads
      have hagrees := agreesUnder_rules_iff.mpr h.sides
      cases ((Contract.checkPortability_eq_ok_iff _ _).mpr hagrees).symm.trans hcause
  | output hreads houtput hfault =>
      obtain ⟨rfl, rfl, rfl⟩ := h.reads.unique hreads
      obtain ⟨file, -, hgenerates⟩ := exists_related_of_mem h.files houtput
      cases hgenerates.content.symm.trans hfault
  | shader hreads houtput htarget hcontent hcause =>
      obtain ⟨rfl, rfl, rfl⟩ := h.reads.unique hreads
      obtain ⟨file, hfile, hgenerates⟩ := exists_related_of_mem h.files houtput
      cases hgenerates.content.symm.trans hcontent
      cases (h.shaders file hfile (hgenerates.target.trans htarget)).symm.trans hcause

end Plan

/-! ### Runs -/

namespace Request

variable {request : Request} {command : Command}

/-- A comparison leaves the tree alone, whatever it finds. -/
theorem tree_run_of_check (h : request.check = true) :
    (request.run command workspace tree).tree = tree := by
  rw [run]
  cases (Plan.prepare workspace tree request.configFile).outcome with
  | error cause => rfl
  | ok plan =>
      simp only [h, if_true]
      rw [Report.onTree]
      split <;> rfl

theorem run_of_outcome_prepare {cause : Failure}
    (h : (Plan.prepare workspace tree request.configFile).outcome = .error cause) :
    (request.run command workspace tree).failure = some cause ∧
      (request.run command workspace tree).tree = tree := by
  rw [run, h]
  exact ⟨rfl, rfl⟩

/-- A run changes the tree only without comparison, and only when everything checks out: then it
writes, and compiles when all is written. Where it meets an obstacle it ends in a failure that one
of its obstacles makes, with the tree as it was. -/
theorem run_changes_only_what_checks_out (request : Request) (command : Command)
    (workspace : Workspace) (tree : Tree) :
    (request.check = true → (request.run command workspace tree).tree = tree) ∧
    ((∃ cause, Plan.Obstacle workspace tree request.configFile cause) →
      ∃ cause, Plan.Obstacle workspace tree request.configFile cause ∧
        (request.run command workspace tree).failure = some cause ∧
        (request.run command workspace tree).tree = tree) ∧
    ((¬∃ cause, Plan.Obstacle workspace tree request.configFile cause) →
      ∃ plan text, Plan.ChecksOut plan workspace tree request.configFile text ∧
        (request.check = false →
          let writing := GeneratedFile.writeAll tree plan.files
          (∀ cause, writing.failure = some cause →
            (request.run command workspace tree).failure = some cause ∧
              (request.run command workspace tree).tree = writing.tree) ∧
          (writing.failure = none →
            let compilation := plan.compileShaders command writing.tree
            (request.run command workspace tree).failure = compilation.failure ∧
              (request.run command workspace tree).tree = compilation.tree))) := by
  refine ⟨tree_run_of_check, ?_, ?_⟩
  · rintro ⟨cause, hobstacle⟩
    cases houtcome : (Plan.prepare workspace tree request.configFile).outcome with
    | ok plan =>
        obtain ⟨text, hchecks⟩ := Plan.outcome_prepare_eq_ok_iff.mp houtcome
        exact absurd hobstacle hchecks.not_obstacle
    | error failure =>
        exact ⟨failure, Plan.obstacle_of_outcome_prepare houtcome, run_of_outcome_prepare houtcome⟩
  · intro hfree
    cases houtcome : (Plan.prepare workspace tree request.configFile).outcome with
    | error failure => exact absurd ⟨failure, Plan.obstacle_of_outcome_prepare houtcome⟩ hfree
    | ok plan =>
        obtain ⟨text, hchecks⟩ := Plan.outcome_prepare_eq_ok_iff.mp houtcome
        refine ⟨plan, text, hchecks, fun hwrite => ?_⟩
        obtain ⟨configFile, check⟩ := request
        cases hwrite
        obtain ⟨hfailure, htree⟩ := run_write_eq houtcome command
        rw [hfailure, htree]
        exact plan.carryOut_eq command tree

/-! A module that is refused, beside a header that is fine. -/

def viewsConfigText : String :=
  "schema = \"/s.toml\"\n[[outputs]]\ntarget = \"msl\"\npath = \"/types.h\"\n" ++
    "[[outputs]]\ntarget = \"wgsl\"\npath = \"/types.wgsl\"\n"

def viewsText : String :=
  "[contract]\nname = \"Views\"\n[bindings]\nbuffers = [\"camera\"]\n[[blocks]]\n" ++
    "name = \"Camera\"\nslot = \"camera\"\n" ++
    "fields = [\x7b name = \"target\", type = \"float4\" \x7d]\n"

theorem isFileName_config : isFileName "g.toml" = true := by decide

theorem isFileName_schema : isFileName "s.toml" = true := by decide

def viewsTree : Tree where
  entries := [([⟨"g.toml", isFileName_config⟩], .file viewsConfigText.toUTF8),
    ([⟨"s.toml", isFileName_schema⟩], .file viewsText.toUTF8)]
  distinct := by decide

def viewsConfig : Config where
  schema := ⟨"/s.toml"⟩
  outputs := [⟨.msl, ⟨"/types.h"⟩⟩, ⟨.wgsl, ⟨"/types.wgsl"⟩⟩]
  metal := ⟨false, "macosx", ⟨"/engine/shader/src"⟩, ⟨"/engine/shader/.build"⟩⟩

theorem reads_views : Plan.Reads ⟨⟨"/"⟩⟩ viewsTree (some ⟨"/g.toml"⟩) viewsConfig viewsText
    Schema.viewsContract := by
  have of_toOption {ε α : Type} {result : Except ε α} {value : α}
      (h : result.toOption = some value) : result = .ok value := by
    cases result with
    | error error => cases h
    | ok found => exact congrArg Except.ok (Option.some.inj h)
  refine ⟨of_toOption (by decide +kernel), of_toOption (by decide +kernel), Schema.views,
    of_toOption (by decide +kernel), Schema.validate_views⟩

/-- The header alone could be written, but the module beside it is refused, and nothing is. -/
theorem views_run_writes_nothing :
    (∃ path cause, Plan.Obstacle ⟨⟨"/"⟩⟩ viewsTree (some ⟨"/g.toml"⟩) (.notVerified path cause)) ∧
      (∃ cause, (run ⟨some ⟨"/g.toml"⟩, false⟩ .missing ⟨⟨"/"⟩⟩ viewsTree).failure = some cause) ∧
      (run ⟨some ⟨"/g.toml"⟩, false⟩ .missing ⟨⟨"/"⟩⟩ viewsTree).tree = viewsTree ∧
      (run ⟨some ⟨"/g.toml"⟩, true⟩ .missing ⟨⟨"/"⟩⟩ sharedTree).tree = sharedTree ∧
      ∃ plan : Plan, (run ⟨some ⟨"/g.toml"⟩, false⟩ .missing ⟨⟨"/"⟩⟩ sharedTree).tree =
        (GeneratedFile.writeAll sharedTree plan.files).tree := by
  have hlegible : ¬Schema.viewsContract.Legible := by decide +kernel
  obtain ⟨hlegible', -⟩ | ⟨-, fault, hrefused⟩ := Shader.checkShader_lines
    (Plan.generation viewsConfig Schema.viewsContract viewsText)
    (Schema.wellNamed_of_validate Schema.validate_views)
    (Shader.isLineEnd_of_any_eq_false (by decide +kernel))
  · exact absurd hlegible' hlegible
  let output : Output := ⟨.wgsl, ⟨"/types.wgsl"⟩⟩
  have houtput : output ∈ viewsConfig.outputs := by decide
  have hobstacle : Plan.Obstacle ⟨⟨"/"⟩⟩ viewsTree (some ⟨"/g.toml"⟩)
      (.notVerified ⟨"/types.wgsl"⟩ (.shaderMalformed fault)) :=
    .shader reads_views houtput rfl rfl hrefused
  obtain ⟨-, hstopped, -⟩ :=
    run_changes_only_what_checks_out ⟨some ⟨"/g.toml"⟩, false⟩ .missing ⟨⟨"/"⟩⟩ viewsTree
  obtain ⟨cause, -, hfailure, htree⟩ := hstopped ⟨_, hobstacle⟩
  obtain ⟨hcompared, -, -⟩ :=
    run_changes_only_what_checks_out ⟨some ⟨"/g.toml"⟩, true⟩ .missing ⟨⟨"/"⟩⟩ sharedTree
  obtain ⟨-, -, hfree⟩ :=
    run_changes_only_what_checks_out ⟨some ⟨"/g.toml"⟩, false⟩ .missing ⟨⟨"/"⟩⟩ sharedTree
  obtain ⟨shared, _, _, hshared, -, hcompile, -, hpaths, -⟩ := exists_sharedPlan
  obtain ⟨text, hchecks⟩ := Plan.outcome_prepare_eq_ok_iff.mp hshared
  obtain ⟨plan, text', hchecks', hwrites⟩ := hfree fun ⟨_, hmet⟩ => hchecks.not_obstacle hmet
  cases hshared.symm.trans (Plan.outcome_prepare_eq_ok_iff.mpr ⟨text', hchecks'⟩)
  obtain ⟨-, hleft⟩ := (hwrites rfl).2 (writeAll_shared hpaths nofun)
  rw [Plan.compileShaders_of_off hcompile] at hleft
  exact ⟨⟨_, _, hobstacle⟩, ⟨cause, hfailure⟩, htree, hcompared rfl, shared, hleft⟩

end Request

end ShaderLayout
