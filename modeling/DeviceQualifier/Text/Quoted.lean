import DeviceQualifier.Text.Numeral
import DeviceQualifier.Text.PrintTable

/-!
Text between quotes, as values are shown in reports: a quote that the text does not hold is
preferred, and what cannot be printed is written by its code point.
-/
namespace DeviceQualifier.Text.Quoted

def isPrintable (c : Char) : Bool :=
  !unprintableRanges.any fun (first, last) => first ≤ c.toNat && c.toNat ≤ last

def backslash : Char := Char.ofNat 0x5C
def singleQuote : Char := Char.ofNat 0x27
def doubleQuote : Char := Char.ofNat 0x22

/-- Double quotes only for text that holds a single quote and no double one. -/
def quoteFor (cs : List Char) : Char :=
  if cs.contains singleQuote && !cs.contains doubleQuote then doubleQuote else singleQuote

/-- The shortest of the forms with two, four and eight digits that fits. -/
def codePoint (c : Char) : List Char :=
  let n := c.toNat
  let (mark, width) := if n < 0x100 then ('x', 2) else if n < 0x10000 then ('u', 4) else ('U', 8)
  backslash :: mark :: Numeral.padZeros width (Numeral.hexDigitsLower n)

def escape (quote c : Char) : List Char :=
  if c = quote ∨ c = backslash then [backslash, c]
  else if c = '\n' then [backslash, 'n']
  else if c = '\r' then [backslash, 'r']
  else if c = '\t' then [backslash, 't']
  else if isPrintable c then [c]
  else codePoint c

def render (s : String) : String :=
  let quote := quoteFor s.toList
  String.ofList (quote :: s.toList.flatMap (escape quote) ++ [quote])

end DeviceQualifier.Text.Quoted
