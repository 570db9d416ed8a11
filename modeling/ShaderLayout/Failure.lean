import ShaderLayout.Bindings.Member
import ShaderLayout.Error
import ShaderLayout.File.Path
import ShaderLayout.Target.Basic

/-!
Why a generation fails, as a whole. A failure says what was being done and
carries the cause behind it; its chain tells both, from the outermost on.
-/

namespace ShaderLayout

inductive Failure where
  | layout (cause : LayoutError)
  | malformedConfig (fault : Toml.Fault)
  /-- Reading the configuration in that file failed. -/
  | inConfig (path : Path) (cause : Failure)
  | unreadable (path : Path) (cause : FileError)
  | notGenerated (target : Target) (path : Path) (fault : Bindings.MemberFault)
  | notVerified (path : Path) (cause : LayoutError)
  | directoryNotMade (path : Path) (cause : FileError)
  | notWritten (path : Path) (cause : FileError)
  | outOfDate (count : Nat)
  | notCompiled (compiler : String) (shader : Path)
  | file (cause : FileError)

/-- The texts of an error and of the cause behind it. -/
def LayoutError.chain (error : LayoutError) : List String :=
  error.message :: error.cause?.toList

namespace Failure

/-- The layout error behind a failure, if it is one. -/
def layoutError? : Failure → Option LayoutError
  | .layout cause | .notVerified _ cause => some cause
  | .inConfig _ cause => cause.layoutError?
  | _ => none

/-- What was being done, then each cause in front of the layout error, if there is one. -/
def context : Failure → List String
  | .layout _ => []
  | .malformedConfig fault => ["invalid shader-gen config", fault.message]
  | .inConfig path cause => s!"in {path.text}" :: cause.context
  | .unreadable path cause => [s!"failed to read {path.text}", cause.message]
  | .notGenerated target path fault =>
    [s!"failed to emit {target.name} for {path.text}", fault.message]
  | .notVerified path _ => [s!"{path.text} failed verification"]
  | .directoryNotMade path cause => [s!"failed to create {path.text}", cause.message]
  | .notWritten path cause => [s!"failed to write {path.text}", cause.message]
  | .outOfDate count => [s!"{count} generated file(s) are out of date, run shader-gen"]
  | .notCompiled compiler shader => [s!"{compiler} failed to compile {shader.text}"]
  | .file cause => [cause.message]

/-- What failed, then each cause behind it. -/
def chain (failure : Failure) : List String :=
  failure.context ++ failure.layoutError?.toList.flatMap LayoutError.chain

/-- The whole chain in one line. -/
def message (failure : Failure) : String := ": ".intercalate failure.chain

end Failure

end ShaderLayout
