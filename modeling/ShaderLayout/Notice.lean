/-!
Notices: what a run tells its user besides its result. Each notice names the
part that gives it, so that a reader of the log can tell checks of the schema
from the generation of files.
-/

namespace ShaderLayout

inductive NoticeLevel where
  | error | warning | info | debug
  deriving DecidableEq, Repr

/-- The part of the system that gives a notice. -/
inductive NoticeSource where
  | schema | generator | program
  deriving DecidableEq, Repr

structure Notice where
  level : NoticeLevel
  source : NoticeSource
  text : String
  deriving DecidableEq, Repr

namespace NoticeLevel

def name : NoticeLevel → String
  | .error => "ERROR"
  | .warning => "WARN"
  | .info => "INFO"
  | .debug => "DEBUG"

/-- How much there is to show down to a level. -/
def rank : NoticeLevel → Nat
  | .error => 1
  | .warning => 2
  | .info => 3
  | .debug => 4

end NoticeLevel

def NoticeSource.name : NoticeSource → String
  | .schema => "prism_layout_schema"
  | .generator => "prism_shader_gen"
  | .program => "shader_gen"

end ShaderLayout
