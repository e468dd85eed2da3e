import DeviceQualifier.Command.Decode
import DeviceQualifier.Command.Validate
import DeviceQualifier.Value.Reader

namespace DeviceQualifier

open Command

def load (path : Validate.Path) : IO (Except Validate.LoadFault Value) := do
  try
    let text ← IO.FS.readFile path.text
    match Value.Reader.read? text with
    | some v => pure (.ok v)
    | none => pure (.error (.unreadable "not a document"))
  catch
    | .noFileOrDirectory .. => pure (.error (.notFound path))
    | e => pure (.error (.unreadable (toString e)))

def finish (outcome : Outcome) : IO UInt32 := do
  IO.print outcome.stdout
  IO.eprint outcome.stderr
  pure (UInt32.ofNat outcome.exit)

def brokenOff : Outcome := ⟨1, "", "Broken off\n"⟩

def validateCommand (args : List String) : IO UInt32 := do
  match Validate.request? args with
  | none => finish (Outcome.refused Validate.usage)
  | some .help => finish ⟨0, Validate.usage, ""⟩
  | some (.validate path verbose json) =>
    match Validate.run path verbose json (← load path) with
    | .ok outcome => finish outcome
    | .error _ => finish brokenOff

def decodeCommand (args : List String) : IO UInt32 :=
  match Decode.answer args with
  | .ok outcome => finish outcome
  | .error _ => finish brokenOff

end DeviceQualifier

open DeviceQualifier in
def main : List String → IO UInt32
  | "decode" :: args => decodeCommand args
  | "validate" :: args => validateCommand args
  | _ => finish (Command.Outcome.refused (Command.Decode.usage ++ Command.Validate.usage))
