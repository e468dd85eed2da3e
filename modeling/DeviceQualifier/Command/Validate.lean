import DeviceQualifier.Command.Options
import DeviceQualifier.Value.Printer
import DeviceQualifier.Vectors.Report

namespace DeviceQualifier.Command.Validate

inductive Flag where
  | help | verbose | json
  deriving DecidableEq, Repr

def switches : Switches Flag :=
  [("-h", .help), ("--help", .help), ("-v", .verbose), ("--verbose", .verbose),
    ("--json", .json)]

def usage : String := "usage: validate [-h] [-v] [--json] vectors\n"

/-- A path as it is shown: no part is empty or stays where it is. Two slashes in front are kept
apart from one, and more of them count as one. -/
structure Path where
  root : List Char
  parts : List (List Char)
  deriving DecidableEq, Repr

namespace Path

def ofText (s : String) : Path :=
  let slashes := s.toList.takeWhile (· == '/')
  let root := if slashes.length = 2 then slashes else slashes.take 1
  ⟨root, (s.toList.splitOn '/').filter fun part => !part.isEmpty && part != ['.']⟩

def text (path : Path) : String :=
  match path.root ++ ['/'].intercalate path.parts with
  | [] => "."
  | cs => String.ofList cs

end Path

inductive Request where
  | help
  | validate (path : Path) (verbose json : Bool)
  deriving DecidableEq, Repr

/-- Exactly one document is named. -/
def request? (args : List String) : Option Request :=
  match parse switches args with
  | none => none
  | some (flags, operands) =>
    if flags.contains .help then some .help
    else
      match operands with
      | [path] =>
        some (.validate (.ofText path) (flags.contains .verbose) (flags.contains .json))
      | _ => none

/-- Why a document cannot be loaded. -/
inductive LoadFault where
  | notFound (path : Path)
  | unreadable (text : String)
  deriving DecidableEq, Repr

def LoadFault.message : LoadFault → String
  | notFound path => "[Errno 2] No such file or directory: " ++ Text.Quoted.render path.text
  | unreadable text => text

/-- The outcome for a loaded document, or for the fault in loading it. -/
def run (path : Path) (verbose json : Bool) (doc : Except LoadFault Value) :
    Except Vectors.Obstacle Outcome :=
  match doc with
  | .error f => .ok ⟨1, "", "Error loading vectors: " ++ f.message ++ "\n"⟩
  | .ok doc => do
    let result ← Vectors.validate doc
    let exit := if result.allPassed then 0 else 1
    if json then pure ⟨exit, result.toValue.pretty ++ "\n", ""⟩
    else
      let heading := Vectors.ended ["Validating: " ++ path.text, Vectors.rule '=']
      pure ⟨exit, heading ++ result.report verbose, ""⟩

end DeviceQualifier.Command.Validate
