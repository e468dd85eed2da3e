import DeviceQualifier.Descriptor.Token

namespace DeviceQualifier.Descriptor

/-- The token that takes a category back to its unspecified value. -/
def wildcard : String := "any"

/-- The words of a category. A word without a code is not recognised, nor is the wildcard without
one. -/
structure Vocabulary where
  words : List (String × Option Int)
  any : Option Int
  deriving DecidableEq, Repr

def Vocabulary.code? (v : Vocabulary) (token : String) : Option Int :=
  if token = wildcard then v.any else (v.words.lookup token).join

/-- Every word with its code; the wildcard replaces a word of its own spelling. -/
def Vocabulary.entries (v : Vocabulary) : List (String × Option Int) :=
  v.words.filter (·.1 != wildcard) ++ [(wildcard, v.any)]

/-- How the digits of a numeric token become a value. -/
inductive Conversion where
  | plain
  /-- Zero is a network code of its own and is stored as the largest number, which cannot be
  written itself. -/
  | networkCode
  deriving DecidableEq, Repr

def Conversion.apply : Conversion → Int → Option Int
  | plain, n => some n
  | networkCode, n => if n = largest then none else some (if n = 0 then largest else n)

/-- Digits between two marks. -/
structure NumberForm where
  opening : String
  closing : String
  conversion : Conversion
  deriving DecidableEq, Repr

def NumberForm.digits? (form : NumberForm) (token : String) : Option String :=
  match between? form.opening form.closing token with
  | some cs => if isDigits cs then some (String.ofList cs) else none
  | none => none

end DeviceQualifier.Descriptor
