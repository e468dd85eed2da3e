import DeviceQualifier.Text.Blank

namespace DeviceQualifier.Text.Numeral

def hexDigitsLower (n : Nat) : List Char := Nat.toDigits 16 n

def hexDigitsUpper (n : Nat) : List Char := (hexDigitsLower n).map Char.toUpper

def padZeros (width : Nat) (cs : List Char) : List Char :=
  List.replicate (width - cs.length) '0' ++ cs

/-- At least two upper-case digits; the sign takes the place of a digit. -/
def hexWord : Int → String
  | .ofNat n => String.ofList (padZeros 2 (hexDigitsUpper n))
  | .negSucc n => String.ofList ('-' :: hexDigitsUpper (n + 1))

/-- The code points of the digit zero of every script that writes in base ten; the other nine
digits follow each. -/
def zeros : List Nat := [
  0x0030, 0x0660, 0x06F0, 0x07C0, 0x0966, 0x09E6, 0x0A66, 0x0AE6, 0x0B66, 0x0BE6, 0x0C66, 0x0CE6,
  0x0D66, 0x0DE6, 0x0E50, 0x0ED0, 0x0F20, 0x1040, 0x1090, 0x17E0, 0x1810, 0x1946, 0x19D0, 0x1A80,
  0x1A90, 0x1B50, 0x1BB0, 0x1C40, 0x1C50, 0xA620, 0xA8D0, 0xA900, 0xA9D0, 0xA9F0, 0xAA50, 0xABF0,
  0xFF10, 0x104A0, 0x10D30, 0x11066, 0x110F0, 0x11136, 0x111D0, 0x112F0, 0x11450, 0x114D0, 0x11650,
  0x116C0, 0x11730, 0x118E0, 0x11950, 0x11C50, 0x11D50, 0x11DA0, 0x16A60, 0x16AC0, 0x16B50,
  0x1D7CE, 0x1D7D8, 0x1D7E2, 0x1D7EC, 0x1D7F6, 0x1E140, 0x1E2F0, 0x1E950, 0x1FBF0]

def digit? (c : Char) : Option Nat :=
  zeros.findSome? fun z => if z ≤ c.toNat ∧ c.toNat < z + 10 then some (c.toNat - z) else none

/-- Continues a number whose digits so far are worth `acc`. A single underscore may stand between
two digits. -/
def continueDigits (acc : Nat) : List Char → Option Nat
  | [] => some acc
  | '_' :: c :: rest => (digit? c).bind fun d => continueDigits (10 * acc + d) rest
  | c :: rest => (digit? c).bind fun d => continueDigits (10 * acc + d) rest

def readDigits : List Char → Option Nat
  | [] => none
  | c :: rest => (digit? c).bind fun d => continueDigits d rest

/-- White space that may surround a written integer: the ASCII separators are not among it. -/
def isMargin (c : Char) : Bool := isBlank c && !(0x1C ≤ c.toNat && c.toNat ≤ 0x1F)

/-- An optional sign and at least one digit of any script, with margins. -/
def readInteger (s : String) : Option Int :=
  match trimBy isMargin s.toList with
  | '+' :: ds => (readDigits ds).map Int.ofNat
  | '-' :: ds => (readDigits ds).map fun n => -Int.ofNat n
  | ds => (readDigits ds).map Int.ofNat

end DeviceQualifier.Text.Numeral
