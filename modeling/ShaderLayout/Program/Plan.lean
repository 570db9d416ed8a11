import ShaderLayout.Config.Decode
import ShaderLayout.Contract.Check
import ShaderLayout.Output.Generated
import ShaderLayout.Schema.Decode
import ShaderLayout.Schema.Numbering

/-!
Preparation of a run. It reads the configuration and the schema, holds the
contract against the rules of all sides, and generates and verifies all files.
It only looks at the tree of files, so a failure in it leaves everything as it
was.
-/

namespace ShaderLayout

/-- What a preparation comes to: files that only have to be written. -/
structure Plan where
  config : Config
  contract : Contract
  files : List GeneratedFile

/-- The rules of all sides that share the blocks of a contract, the host's first. -/
def Config.rules (config : Config) (contract : Contract) : List LayoutRules :=
  (contract.hostRules :: config.targets.map (·.rules contract)).eraseDups

namespace Plan

/-- The configuration that was asked for, or that of the workspace. -/
def loadConfig (workspace : Workspace) (tree : Tree) : Option Path → Report Config
  | some path => Report.ofResult id (Config.load workspace tree (workspace.resolve path))
  | none => Config.loadOrStandard workspace tree workspace.configFile

/-- Reads the contract from the text of a schema. -/
def readContract (text : String) : Report Contract := do
  let schema ← Report.ofResult .layout (Schema.ofText text)
  Report.give schema.notices
  Report.ofResult .layout schema.validate

def contractText (contract : Contract) : String :=
  s!"Contract `{contract.name}`: {contract.slots.length} slots, {contract.blocks.length} blocks, " ++
    s!"{contract.vertexInputs.length} vertex layouts"

/-- Checks that all sides lay out the blocks alike. -/
def checkSides (config : Config) (contract : Contract) : Report Unit := do
  let rules := config.rules contract
  Report.ofResult .layout (contract.checkPortability rules)
  Report.notice .info .program
    ("Layouts are identical under " ++ Text.commaSeparated (rules.map (·.name)))

/-- What to generate from, with the text of the schema. -/
def generation (config : Config) (contract : Contract) (text : String) : Generation :=
  ⟨contract, config.schema.name?.getD "layout.toml", some text⟩

/-- Prepares the run that a configuration asks for. -/
def ofConfig (tree : Tree) (config : Config) : Report Plan := do
  Report.notice .info .program ("Schema: " ++ Text.literal config.schema.text)
  let text ← Report.ofResult (.unreadable config.schema) (tree.readText config.schema)
  let contract ← readContract text
  Report.notice .info .program (contractText contract)
  checkSides config contract
  let files ← Report.ofResult id
    (Output.generateAll (generation config contract text) config.outputs)
  GeneratedFile.verifyAll contract files
  return ⟨config, contract, files⟩

def prepare (workspace : Workspace) (tree : Tree) (configFile : Option Path) : Report Plan := do
  ofConfig tree (← loadConfig workspace tree configFile)

end Plan

end ShaderLayout
