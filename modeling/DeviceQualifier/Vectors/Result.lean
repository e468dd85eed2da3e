import DeviceQualifier.Descriptor.Decoder
import DeviceQualifier.Value.Literal
import DeviceQualifier.Vectors.Structure

namespace DeviceQualifier.Vectors

inductive Problem where
  | decodeFailed (e : Descriptor.DecodeError)
  | notRejected
  | unknownField (name : String)
  | wrongValue (name : String) (expected : Value) (actual : Datum)
  | wrongWire (expected actual : String)
  deriving Repr

def Problem.message : Problem → String
  | decodeFailed e => "Decode failed: " ++ e.message
  | notRejected => "Expected descriptor to be rejected"
  | unknownField name => "Unknown field: '" ++ name ++ "'"
  | wrongValue name expected actual =>
    name ++ ": expected " ++ expected.literal ++ ", got " ++ actual.toValue.literal
  | wrongWire expected actual => "wire: expected " ++ expected ++ ", got " ++ actual

structure TestResult where
  name : Value
  passed : Bool
  descriptor : String
  description : Value
  expected : Value
  actual : List (String × Datum)
  errors : List Problem
  deriving Repr

structure ValidationResult where
  flaws : List Flaw
  results : List TestResult
  deriving Repr

namespace ValidationResult

def fileValid (v : ValidationResult) : Bool := v.flaws.isEmpty

def passedCount (v : ValidationResult) : Nat := v.results.countP (·.passed)

def failedCount (v : ValidationResult) : Nat := v.results.countP (!·.passed)

def total (v : ValidationResult) : Nat := v.results.length

def allPassed (v : ValidationResult) : Bool := v.fileValid && v.failedCount == 0

end ValidationResult

end DeviceQualifier.Vectors
