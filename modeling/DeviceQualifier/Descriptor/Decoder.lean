import DeviceQualifier.Descriptor.Category

/-!
Decoding a descriptor: every matcher has one turn at the cursor, in order, and all tokens have to
be taken by the end.
-/
namespace DeviceQualifier.Descriptor

/-- The text of a rejected descriptor, with the token where it was given up and a reason. -/
def unrecognized (descriptor : String) (token reason : Option String) : String :=
  let place := match token with
    | some t => " at '" ++ t ++ "'"
    | none => ""
  let cause := match reason with
    | some text => if text = "" then "" else ": " ++ text
    | none => ""
  "Unrecognized descriptor '" ++ descriptor ++ "'" ++ place ++ cause

structure DecodeError where
  descriptor : String
  token : String
  reason : Option Locale.TagFault
  deriving DecidableEq, Repr

def DecodeError.message (e : DecodeError) : String :=
  unrecognized e.descriptor (some e.token) (e.reason.map (·.message))

/-- A descriptor is rejected, or a matcher is at fault. -/
inductive Failure where
  | rejected (e : DecodeError)
  | fault (f : Fault)
  deriving DecidableEq, Repr

/-- Where the matchers stopped: at the end, with tokens left over, or in an attempt. -/
inductive Stop where
  | leftOver (token : String)
  | malformed (token : String) (reason : Locale.TagFault)
  | fault (f : Fault)
  deriving DecidableEq, Repr

/-- Gives each matcher its turn at the tokens that are left. -/
def run : List Matcher → List String → Config → Except Stop Config
  | _, [], r => .ok r
  | [], token :: _, _ => .error (.leftOver token)
  | m :: rest, token :: more, r =>
    match m.attempt (token :: more) r with
    | .error (.locale e) => .error (.malformed token e.fault)
    | .error f => .error (.fault f)
    | .ok (taken, r) => run rest ((token :: more).drop taken) r

@[simp] theorem run_nil (ms : List Matcher) (r : Config) : run ms [] r = .ok r := by
  cases ms <;> rfl

def Stop.failure (descriptor : String) : Stop → Failure
  | leftOver token => .rejected ⟨descriptor, token, none⟩
  | malformed token reason => .rejected ⟨descriptor, token, some reason⟩
  | fault f => .fault f

def decodeWith (matchers : List Matcher) (descriptor : String) : Except Failure Config :=
  (run matchers (tokens descriptor) Config.unspecified).mapError (Stop.failure descriptor)

def decode (descriptor : String) : Except Failure Config :=
  decodeWith canonicalMatchers descriptor

/-- Whether a descriptor decodes; a matcher at fault leaves the question open. -/
def isValidWith (matchers : List Matcher) (descriptor : String) : Except Fault Bool :=
  match decodeWith matchers descriptor with
  | .ok _ => .ok true
  | .error (.rejected _) => .ok false
  | .error (.fault f) => .error f

def isValid (descriptor : String) : Except Fault Bool := isValidWith canonicalMatchers descriptor

/-- What a decoder in use says of a descriptor that it decodes and then checks. -/
structure Trial where
  outcome : Except Failure Config
  verdict : Except Fault Bool
  /-- How many records the decoder has completed so far, those of its checks included. -/
  completed : Nat

def trial (matchers : List Matcher) (completed : Nat) (descriptor : String) : Trial :=
  let outcome := decodeWith matchers descriptor
  let count := match outcome with
    | .ok _ => 2
    | .error _ => 0
  ⟨outcome, isValidWith matchers descriptor, completed + count⟩

/-- Descriptors in turn, all given to the same decoder. -/
def trials (matchers : List Matcher) (completed : Nat) : List String → List Trial
  | [] => []
  | d :: rest =>
    let t := trial matchers completed d
    t :: trials matchers t.completed rest

end DeviceQualifier.Descriptor
