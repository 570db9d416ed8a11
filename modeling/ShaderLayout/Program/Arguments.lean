import ShaderLayout.Program.Run

/-!
Arguments of the program: at most one configuration file, `--check` at most
once, and a request for help. They are read from left to right; the first fault
or the first request for help ends the reading.
-/

namespace ShaderLayout

inductive UsageFault where
  | unexpected (argument : String)
  | repeated (option : String)
  | emptyValue
  deriving DecidableEq, Repr

def UsageFault.message : UsageFault → String
  | .unexpected argument => s!"error: unexpected argument '{argument}' found"
  | .repeated option => s!"error: the argument '{option}' cannot be used multiple times"
  | .emptyValue => "error: a value is required for '[CONFIG]' but none was supplied"

/-- What the arguments ask for. -/
inductive Invocation where
  | help
  | run (request : Request)
  deriving DecidableEq, Repr

namespace Request

/-- Takes an argument as the configuration file. -/
def takeFile (request : Request) (argument : String) : Except UsageFault Request :=
  if request.configFile.isSome then .error (.unexpected argument)
  else if argument.isEmpty then .error .emptyValue
  else .ok { request with configFile := some ⟨argument⟩ }

end Request

namespace Invocation

/-- Reads arguments of which some have been taken already. -/
def read (request : Request) : List String → Except UsageFault Invocation
  | [] => .ok (.run request)
  | argument :: rest =>
    match argument.toList with
    | ['-', '-'] => do
      return .run (← rest.foldlM Request.takeFile request)
    | '-' :: '-' :: _ =>
      if argument = "--help" then .ok .help
      else if argument = "--check" then
        if request.check then .error (.repeated argument)
        else read { request with check := true } rest
      else .error (.unexpected argument)
    | '-' :: 'h' :: _ => .ok .help
    | '-' :: _ :: _ => .error (.unexpected argument)
    | _ => do read (← request.takeFile argument) rest

def ofArguments (arguments : List String) : Except UsageFault Invocation :=
  read ⟨none, false⟩ arguments

end Invocation

end ShaderLayout
