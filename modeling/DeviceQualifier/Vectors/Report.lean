import DeviceQualifier.Vectors.Run

namespace DeviceQualifier.Vectors

def datumFields (entries : List (String × Datum)) : Value :=
  .object (entries.map fun (name, d) => (name, d.toValue))

def TestResult.toValue (t : TestResult) : Value := .object [
  ("name", t.name),
  ("passed", .bool t.passed),
  ("descriptor", .text t.descriptor),
  ("description", t.description),
  ("expected", t.expected),
  ("actual", datumFields t.actual),
  ("errors", .list (t.errors.map fun p => .text p.message))]

def ValidationResult.toValue (v : ValidationResult) : Value := .object [
  ("file_valid", .bool v.fileValid),
  ("file_errors", .list (v.flaws.map fun f => .text f.message)),
  ("tests_passed", .int v.passedCount),
  ("tests_failed", .int v.failedCount),
  ("total_tests", .int v.total),
  ("all_passed", .bool v.allPassed),
  ("test_results", .list (v.results.map (·.toValue)))]

def passMark : String := String.singleton (Char.ofNat 0x2713)
def failMark : String := String.singleton (Char.ofNat 0x2717)

/-- A line across the report. -/
def rule (c : Char) : String := String.ofList (List.replicate 50 c)

/-- The heading of a test, and its details if it failed or all details are wanted. -/
def TestResult.lines (verbose : Bool) (t : TestResult) : List String :=
  let heading :=
    if t.passed then passMark ++ " " ++ t.name.display ++ ": PASS"
    else failMark ++ " " ++ t.name.display ++ ": FAIL"
  let details :=
    ["    Descriptor: " ++ Text.Quoted.render t.descriptor] ++
    (if t.description.truthy then ["    Description: " ++ t.description.display] else []) ++
    t.errors.map (fun p => "    ERROR: " ++ p.message) ++
    (if verbose && t.passed && !t.actual.isEmpty then
      ["    Actual: " ++ (datumFields t.actual).literal] else []) ++
    [""]
  heading :: (if verbose || !t.passed then details else [])

def ValidationResult.verdict (v : ValidationResult) : String :=
  if v.allPassed then "PASSED: All " ++ toString v.total ++ " tests passed"
  else "FAILED: " ++ toString v.failedCount ++ " of " ++ toString v.total ++ " tests failed"

def ValidationResult.lines (verbose : Bool) (v : ValidationResult) : List String :=
  if !v.fileValid then
    "Vector file: INVALID" :: v.flaws.map fun f => "  - " ++ f.message
  else if v.total = 0 then ["Vector file: VALID", "", "No test vectors found."]
  else
    ["Vector file: VALID", "",
      "Test Vectors: " ++ toString v.passedCount ++ "/" ++ toString v.total ++ " passed",
      rule '-'] ++
    v.results.flatMap (·.lines verbose) ++
    [rule '-', v.verdict]

/-- Every line is ended, the last one too. -/
def ended (lines : List String) : String := String.join (lines.map (· ++ "\n"))

def ValidationResult.report (verbose : Bool) (v : ValidationResult) : String :=
  ended (v.lines verbose)

end DeviceQualifier.Vectors
