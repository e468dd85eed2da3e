import DeviceQualifier.Text.Case
import DeviceQualifier.Text.Numeral
import DeviceQualifier.Text.Quoted

namespace DeviceQualifier.Descriptor

/-- The non-empty pieces between hyphens, in lower case. -/
def tokens (descriptor : String) : List String :=
  (((Text.lowerChars descriptor.toList).splitOn '-').filter (!·.isEmpty)).map String.ofList

def largest : Int := 0xFFFF

/-- Text that no integer is written as. -/
structure NotANumeral where
  text : String
  deriving DecidableEq, Repr

def NotANumeral.message (e : NotANumeral) : String :=
  "invalid literal for int() with base 10: " ++ Text.Quoted.render e.text

/-- The integer a text stands for, if it fits sixteen bits. Leading zeros do not count; more than
five characters after them are too many to fit. -/
def readNumber (text : String) : Except NotANumeral (Option Int) :=
  let significant := text.toList.dropWhile (· == '0')
  if 5 < significant.length then .ok none
  else if significant.isEmpty then .ok (some 0)
  else
    match Text.Numeral.readInteger (String.ofList significant) with
    | none => .error ⟨String.ofList significant⟩
    | some n => .ok (if n ≤ largest then some n else none)

/-- A run of ASCII digits that is not empty. -/
def isDigits (cs : List Char) : Bool := cs.all Char.isDigit && !cs.isEmpty

/-- What stands between two marks at the ends of a text. -/
def between? (opening closing : String) (text : String) : Option (List Char) :=
  let cs := text.toList
  let first := opening.toList
  let last := closing.toList
  if first.isPrefixOf cs ∧ last.isSuffixOf (cs.drop first.length) then
    some ((cs.drop first.length).take (cs.length - first.length - last.length))
  else none

theorem ne_empty_of_mem_tokens {d t : String} (h : t ∈ tokens d) : t ≠ "" := by
  obtain ⟨cs, hcs, rfl⟩ := List.mem_map.mp h
  have hne : cs ≠ [] := by simpa using (List.mem_filter.mp hcs).2
  intro he
  exact hne (String.ofList_injective he)

end DeviceQualifier.Descriptor
