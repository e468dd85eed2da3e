import DeviceQualifier.Command.Options
import DeviceQualifier.Config.Summary
import DeviceQualifier.Descriptor.Decoder
import DeviceQualifier.Value.Printer
import DeviceQualifier.Wire.Record

/-!
The command that decodes descriptors. Each is handled on its own; one that is rejected is reported
and makes the command fail, but does not stop it.
-/
namespace DeviceQualifier.Command.Decode

inductive Mode where
  | text | hex | json
  deriving DecidableEq, Repr

inductive Flag where
  | help | json | hex
  deriving DecidableEq, Repr

def switches : Switches Flag :=
  [("-h", .help), ("--help", .help), ("--json", .json), ("--hex", .hex)]

def usage : String := "usage: decode [-h] [--json | --hex] descriptor [descriptor ...]\n"

inductive Request where
  | help
  | decode (mode : Mode) (descriptors : List String)
  deriving DecidableEq, Repr

/-- The two output forms exclude each other, and at least one descriptor is needed. -/
def request? (args : List String) : Option Request :=
  match parse switches args with
  | none => none
  | some (flags, descriptors) =>
    if flags.contains .json && flags.contains .hex then none
    else if flags.contains .help then some .help
    else if descriptors.isEmpty then none
    else if flags.contains .json then some (.decode .json descriptors)
    else if flags.contains .hex then some (.decode .hex descriptors)
    else some (.decode .text descriptors)

/-- A descriptor with what became of it. -/
structure Entry where
  descriptor : String
  result : Except Descriptor.DecodeError Config

/-- Why the command breaks off. -/
inductive Interruption where
  | fault (f : Descriptor.Fault)
  | write (f : Wire.WriteFault)
  deriving DecidableEq, Repr

def entry (descriptor : String) : Except Interruption Entry :=
  match Descriptor.decode descriptor with
  | .ok r => .ok ⟨descriptor, .ok r⟩
  | .error (.rejected e) => .ok ⟨descriptor, .error e⟩
  | .error (.fault f) => .error (.fault f)

def Entry.isRejected (e : Entry) : Bool :=
  match e.result with
  | .ok _ => false
  | .error _ => true

def Entry.complaint (e : Entry) : String :=
  match e.result with
  | .ok _ => ""
  | .error err => "Error: " ++ err.message ++ "\n"

/-- All fields of a record. -/
def recordValue (r : Config) : Value :=
  .object (r.fields.map fun (f, d) => (f.name, d.toValue))

def Entry.value (e : Entry) : Value :=
  match e.result with
  | .ok r => recordValue r
  | .error _ => .null

/-- The lines that the text and hex modes print for an entry. -/
def Entry.lines (mode : Mode) (e : Entry) : Except Interruption String :=
  match e.result, mode with
  | .error _, _ => .ok ""
  | .ok _, .json => .ok ""
  | .ok r, .hex =>
    match Wire.writeHex r with
    | .ok digits => .ok (e.descriptor ++ ": " ++ digits ++ "\n")
    | .error f => .error (.write f)
  | .ok r, .text => .ok (e.descriptor ++ ":\n" ++ r.summary ++ "\n")

/-- The records by descriptor; a repeated descriptor has one place. -/
def collected (entries : List Entry) : Value :=
  .object (entries.foldl (fun fields e => Value.putField e.descriptor e.value fields) [])

def run (mode : Mode) (descriptors : List String) : Except Interruption Outcome := do
  let entries ← descriptors.mapM entry
  let lines ← entries.mapM (·.lines mode)
  let document := if mode = .json then (collected entries).pretty ++ "\n" else ""
  pure {
    exit := if entries.any (·.isRejected) then 1 else 0
    stdout := String.join lines ++ document
    stderr := String.join (entries.map (·.complaint)) }

/-- The outcome for command arguments. -/
def answer (args : List String) : Except Interruption Outcome :=
  match request? args with
  | none => .ok (Outcome.refused usage)
  | some .help => .ok ⟨0, usage, ""⟩
  | some (.decode mode descriptors) => run mode descriptors

end DeviceQualifier.Command.Decode
