import DeviceQualifier.Config.View
import DeviceQualifier.Vectors.Result
import DeviceQualifier.Wire.Record

/-!
Running vectors: each names a descriptor and says what its record must hold, or that it must be
rejected.
-/
namespace DeviceQualifier.Vectors

/-- Why a vector cannot be run at all. -/
inductive Obstacle where
  | descriptorNotText
  | expectedNotObject
  | fault (f : Descriptor.Fault)
  | write (f : Wire.WriteFault)
  deriving DecidableEq, Repr

/-- The datum under a name, in its place if the name is known and else at the end. -/
def addMissing (actual : List (String × Datum)) (name : String) (d : Datum) :
    List (String × Datum) :=
  if actual.any (·.1 == name) then actual else actual ++ [(name, d)]

/-- What is known of the record after the expected names, and what they got wrong. -/
def compareFields (r : Config) (actual : List (String × Datum)) :
    List (String × Value) → List (String × Datum) × List Problem
  | [] => (actual, [])
  | (name, expected) :: rest =>
    match r.read? name with
    | none =>
      let (actual, problems) := compareFields r actual rest
      (actual, .unknownField name :: problems)
    | some d =>
      let (actual, problems) := compareFields r (addMissing actual name d) rest
      (actual, if d.agrees expected then problems else .wrongValue name expected d :: problems)

/-- The digits of a wire form: spaces and case do not count. -/
def wireDigits (v : Value) : String :=
  Text.upper (String.ofList (v.display.toList.filter (· != ' ')))

def compareWire (r : Config) (wire : Option Value) : Except Obstacle (List Problem) :=
  match wire with
  | none => .ok []
  | some v =>
    match Wire.writeHex r with
    | .error f => .error (.write f)
    | .ok actual =>
      .ok (if wireDigits v = actual then [] else [.wrongWire (wireDigits v) actual])

def changedNames (r : Config) : List (String × Datum) := r.changes.map fun (f, d) => (f.name, d)

/-- The fields of an expectation. -/
def expectedFields : Value → Except Obstacle (List (String × Value))
  | .object fields => .ok fields
  | _ => .error .expectedNotObject

/-- A decoded record against the expectations of its vector. -/
def judge (r : Config) (expected : Value) (wire : Option Value) :
    Except Obstacle (List (String × Datum) × List Problem) := do
  let fields ← expectedFields expected
  let (actual, problems) := compareFields r (changedNames r) fields
  let more ← compareWire r wire
  pure (actual, problems ++ more)

/-- Runs the vector with the given fields. A rejected descriptor and one that should have been
rejected settle the verdict by themselves; all others are judged by their problems. -/
def runVector (vector : List (String × Value)) : Except Obstacle TestResult :=
  let expected := match vector.lookup "expected" with
    | some v => if v.truthy then v else .object []
    | none => .object []
  let wanted := ((vector.lookup "valid").map Value.truthy).getD true
  let result (passed : Bool) (descriptor : String) (actual : List (String × Datum))
      (errors : List Problem) : TestResult :=
    { name := (vector.lookup "name").getD (.text "unnamed")
      passed
      descriptor
      description := (vector.lookup "description").getD (.text "")
      expected
      actual
      errors }
  match (vector.lookup "descriptor").getD (.text "") with
  | .text descriptor =>
    match Descriptor.decode descriptor with
    | .error (.fault f) => .error (.fault f)
    | .error (.rejected e) =>
      .ok (if wanted then result false descriptor [] [.decodeFailed e]
        else result true descriptor [] [])
    | .ok r =>
      if wanted then
        (judge r expected (vector.lookup "wire")).map fun (actual, errors) =>
          result errors.isEmpty descriptor actual errors
      else .ok (result false descriptor (changedNames r) [.notRejected])
  | _ => .error .descriptorNotText

/-- The vectors of a document without flaws. -/
def vectorsOf (doc : Value) : List (List (String × Value)) :=
  match doc.field? "test_vectors" with
  | some (.list vectors) => vectors.filterMap fun
    | .object fields => some fields
    | _ => none
  | _ => []

/-- No vector is run when the document has a flaw. -/
def validate (doc : Value) : Except Obstacle ValidationResult :=
  if (flaws doc).isEmpty then
    ((vectorsOf doc).mapM runVector).map fun results => ⟨[], results⟩
  else .ok ⟨flaws doc, []⟩

end DeviceQualifier.Vectors
