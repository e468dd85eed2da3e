import DeviceQualifier.Locale.Basic
import DeviceQualifier.Text.Blank
import DeviceQualifier.Text.Case

namespace DeviceQualifier.Locale

def isLetter (c : Char) : Bool := 'a' ≤ c && c ≤ 'z'
def isDigit (c : Char) : Bool := '0' ≤ c && c ≤ '9'
def isLetterOrDigit (c : Char) : Bool := isLetter c || isDigit c

/-- Two or three small letters. -/
def isLanguage (cs : List Char) : Bool :=
  cs.all isLetter && (cs.length == 2 || cs.length == 3)

namespace Part

def name : Part → String
  | language => "language"
  | region => "region"
  | script => "script"
  | variant => "variant"

/-- The lower-case subtags of a kind that the stored record has room for. -/
def accepts (p : Part) (subtag : String) : Bool :=
  let cs := subtag.toList
  match p with
  | language => isLanguage cs
  | region => (cs.all isLetter && cs.length == 2) || (cs.all isDigit && cs.length == 3)
  | script => cs.all isLetter && cs.length == 4
  | variant => cs.all isLetterOrDigit && 4 ≤ cs.length && cs.length ≤ 8

/-- Languages are kept in lower case, regions in upper case, scripts capitalized, and variants as
they are; only scripts keep surrounding blanks. -/
def spell (p : Part) (s : String) : String :=
  match p with
  | language => Text.lower (Text.trim s)
  | region => Text.upper (Text.trim s)
  | script => Text.capitalize s
  | variant => Text.trim s

end Part

/-- Stores the spelling of `s` as one part. -/
def store (l : Locale) (p : Part) (s : String) : Locale := l.setPart p (some (p.spell s))

theorem part_store (l : Locale) (p q : Part) (s : String) :
    (l.store p s).part q = if q = p then some (p.spell s) else l.part q :=
  part_setPart l p q _

end DeviceQualifier.Locale
