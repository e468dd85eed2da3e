import DeviceQualifier.Wire.Slot

/-!
Language and region codes in two bytes. One or two characters are stored as they are. Three are
stored as distances from a base character, five bits each, with the high bit of the first byte set.
-/
namespace DeviceQualifier.Wire.Code

/-- The two bytes for three distances below 32. -/
def packDistances (first second third : Nat) : List UInt8 :=
  [UInt8.ofNat (0x80 + third * 4 + second / 8), UInt8.ofNat (second % 8 * 32 + first)]

/-- How far a character lies above the base, if five bits can tell. -/
def distance? (base : Char) (b : UInt8) : Option Nat :=
  if base.toNat ≤ b.toNat ∧ b.toNat - base.toNat < 32 then some (b.toNat - base.toNat) else none

def packBytes (base : Char) (text : String) : List UInt8 → Except TextFault (List UInt8)
  | [a, b, c] =>
    match distance? base a, distance? base b, distance? base c with
    | some first, some second, some third => .ok (packDistances first second third)
    | _, _, _ => .error (.outsideBase text base)
  | raw => .ok (filled 2 raw)

def pack (base : Char) (code : Option String) : Except TextFault (List UInt8) :=
  match code with
  | none => .ok (filled 2 [])
  | some text => (asciiBytes .code text).bind (packBytes base text)

def isPacked (a : UInt8) : Bool := 0x80 ≤ a

/-- The characters at the three distances that two bytes hold. -/
def unpackDistances (base : Char) (a b : UInt8) : List Char :=
  [b.toNat % 32, b.toNat / 32 + a.toNat % 4 * 8, a.toNat / 4 % 32].map fun d =>
    Char.ofNat (base.toNat + d)

/-- The code stored in two bytes; none when the first is zero. -/
def unpackPair (base : Char) (a b : UInt8) : Option String :=
  if isPacked a then some (String.ofList (unpackDistances base a b))
  else if a = 0 then none
  else some (String.ofList (([a, b].filter (· != 0)).map asciiChar))

/-- A byte that the code needs is missing. -/
inductive Missing where
  | byte
  deriving DecidableEq, Repr

/-- The code at the start of some bytes. One byte will do unless it announces three characters. -/
def unpack (base : Char) : List UInt8 → Except Missing (Option String)
  | [] => .error .byte
  | [a] => if isPacked a then .error .byte else .ok (unpackPair base a 0)
  | a :: b :: _ => .ok (unpackPair base a b)

end DeviceQualifier.Wire.Code
