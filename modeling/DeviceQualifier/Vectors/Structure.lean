import DeviceQualifier.Value.Literal

/-!
The shape of a vector document. Flaws of a vector depend on that vector and its place only, and
come in document order.
-/
namespace DeviceQualifier.Vectors

inductive Flaw where
  | notMapping
  | noVectors
  | vectorsNotList
  | notObject (index : Nat)
  | noName (index : Nat)
  | noDescriptor (index : Nat) (label : String)
  | descriptorNotText (index : Nat) (label : String)
  | validNotBool (index : Nat) (label : String)
  | expectedNotObject (index : Nat) (label : String)
  | expectsOfInvalid (index : Nat) (label : String)
  deriving DecidableEq, Repr

def Flaw.message : Flaw → String
  | notMapping => "Vector file must be a mapping"
  | noVectors => "Missing required field: 'test_vectors'"
  | vectorsNotList => "'test_vectors' must be an array"
  | notObject index => "Test vector " ++ toString index ++ ": must be an object"
  | noName index => "Test vector " ++ toString index ++ ": missing 'name'"
  | noDescriptor index label =>
    "Test vector " ++ toString index ++ " (" ++ label ++ "): missing 'descriptor'"
  | descriptorNotText index label =>
    "Test vector " ++ toString index ++ " (" ++ label ++ "): 'descriptor' must be a string"
  | validNotBool index label =>
    "Test vector " ++ toString index ++ " (" ++ label ++ "): 'valid' must be true or false"
  | expectedNotObject index label =>
    "Test vector " ++ toString index ++ " (" ++ label ++ "): 'expected' must be an object"
  | expectsOfInvalid index label =>
    "Test vector " ++ toString index ++ " (" ++ label ++
      "): invalid descriptor cannot have 'expected' or 'wire'"

def flawIf (violated : Bool) (flaw : Flaw) : List Flaw := if violated then [flaw] else []

def isFalse : Value → Bool
  | .bool false => true
  | _ => false

/-- The flaws of the vector at a place, one for each condition it violates. -/
def vectorFlaws (index : Nat) : Value → List Flaw
  | .object fields =>
    let name := fields.lookup "name"
    let label := (name.map Value.display).getD "?"
    let descriptor := fields.lookup "descriptor"
    let valid := fields.lookup "valid"
    let expected := fields.lookup "expected"
    let wire := fields.lookup "wire"
    flawIf name.isNone (.noName index) ++
    flawIf descriptor.isNone (.noDescriptor index label) ++
    flawIf (descriptor.any (!·.isText)) (.descriptorNotText index label) ++
    flawIf (valid.any (!·.isBool)) (.validNotBool index label) ++
    flawIf (expected.any (!·.isObject)) (.expectedNotObject index label) ++
    flawIf (valid.any isFalse && (expected.isSome || wire.isSome)) (.expectsOfInvalid index label)
  | _ => [.notObject index]

/-- The flaws of vectors from a place on. -/
def flawsFrom (index : Nat) : List Value → List Flaw
  | [] => []
  | v :: rest => vectorFlaws index v ++ flawsFrom (index + 1) rest

def flaws : Value → List Flaw
  | .object fields =>
    match fields.lookup "test_vectors" with
    | none => [.noVectors]
    | some (.list vectors) => flawsFrom 0 vectors
    | some _ => [.vectorsNotList]
  | _ => [.notMapping]

end DeviceQualifier.Vectors
