import DeviceQualifier.Descriptor.Vocabulary
import DeviceQualifier.Descriptor.Write

/-!
Rules recognise tokens at the cursor and say what they write. What a rule recognises does not
depend on the configuration that is written to.
-/
namespace DeviceQualifier.Descriptor

inductive Rule where
  | named (target : Target) (vocabulary : Vocabulary)
  | numeric (target : Target) (vocabulary : Vocabulary) (form : NumberForm)
  | pixels
  | version
  | locale
  | undefined
  | undefinedToken
  deriving DecidableEq, Repr

/-- Tokens recognised at the cursor: how many, and what they write. -/
structure Match where
  taken : Nat
  writes : List Write
  deriving DecidableEq, Repr

def Match.apply (m : Match) (r : Config) : Config := m.writes.foldl Write.apply r

namespace Rule

/-- A token that has a value writes it. -/
def writing (target : Target) : Option Int → Except Fault (Option (List Write))
  | none => .ok none
  | some value => (target.write value).map fun w => some [w]

def recognizeNamed (target : Target) (v : Vocabulary) (token : String) :
    Except Fault (Option (List Write)) :=
  writing target (v.code? token)

def number (digits : String) : Except Fault (Option Int) :=
  (readNumber digits).mapError .numeral

/-- Words go before numbers. -/
def recognizeNumeric (target : Target) (v : Vocabulary) (form : NumberForm) (token : String) :
    Except Fault (Option (List Write)) :=
  match v.code? token with
  | some code => writing target (some code)
  | none =>
    match form.digits? token with
    | none => .ok none
    | some digits => (number digits).bind fun n => writing target (n.bind form.conversion.apply)

/-- The two runs of digits around the letter x. -/
def sides? (token : String) : Option (String × String) :=
  let width := token.toList.takeWhile Char.isDigit
  match token.toList.dropWhile Char.isDigit with
  | 'x' :: height =>
    if isDigits width && isDigits height then some (String.ofList width, String.ofList height)
    else none
  | _ => none

/-- The larger side comes first. -/
def recognizePixels (token : String) : Except Fault (Option (List Write)) :=
  if token = wildcard then .ok (some [.number .screenWidth 0, .number .screenHeight 0])
  else
    match sides? token with
    | none => .ok none
    | some (w, h) => do
      let width ← number w
      let height ← number h
      match width, height with
      | some width, some height =>
        if width < height then .ok none
        else .ok (some [.number .screenWidth width, .number .screenHeight height])
      | _, _ => .ok none

def versionForm : NumberForm := ⟨"v", "", .plain⟩

/-- The minor version cannot be written; it is always taken back to zero. -/
def recognizeVersion (token : String) : Except Fault (Option (List Write)) :=
  if token = wildcard then .ok (some [.number .sdkVersion 0, .number .minorVersion 0])
  else
    match versionForm.digits? token with
    | none => .ok none
    | some digits =>
      (number digits).map fun n =>
        n.map fun sdk => [.number .sdkVersion sdk, .number .minorVersion 0]

/-- A locale replaces all parts of the one before. -/
def recognizeLocale (tokens : List String) : Except Fault (Option Match) :=
  let reading := Locale.Reading.ofTokens tokens
  match reading.outcome with
  | .error e => .error (.locale e)
  | .ok 0 => .ok none
  | .ok taken => .ok (some ⟨taken, [.locale (reading.onto Locale.unspecified)]⟩)

/-- Rules for single tokens look at the first one only. -/
def onToken (recognize : String → Except Fault (Option (List Write))) :
    List String → Except Fault (Option Match)
  | [] => .error .noToken
  | token :: _ => (recognize token).map fun writes => writes.map fun ws => ⟨1, ws⟩

/-- What a rule makes of the tokens from the cursor on. -/
def recognize : Rule → List String → Except Fault (Option Match)
  | named target v => onToken (recognizeNamed target v)
  | numeric target v form => onToken (recognizeNumeric target v form)
  | pixels => onToken recognizePixels
  | version => onToken recognizeVersion
  | locale => recognizeLocale
  | undefined => fun _ => .error .undefined
  | undefinedToken => onToken fun _ => .error .undefined

def label : Rule → String
  | named .. => "FieldMatcher"
  | numeric .. => "NumberMatcher"
  | pixels => "ScreenSizeMatcher"
  | version => "VersionMatcher"
  | locale => "LocaleMatcher"
  | undefined => "QualifierMatcher"
  | undefinedToken => "TokenMatcher"

/-- The vocabulary of the rules that have one. -/
def vocabulary? : Rule → Option Vocabulary
  | named _ v => some v
  | numeric _ v _ => some v
  | _ => none

end Rule

end DeviceQualifier.Descriptor
