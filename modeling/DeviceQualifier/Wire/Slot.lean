/-!
Text in a binary record: plain ASCII in slots of a fixed width, filled up with zeros. Text that does
not fit is refused, never cut.
-/
namespace DeviceQualifier.Wire

/-- The texts that a record stores. -/
inductive Slot where
  | code | script | variant
  deriving DecidableEq, Repr

namespace Slot

def title : Slot → String
  | code => "Code"
  | script => "Locale script"
  | variant => "Locale variant"

def width : Slot → Nat
  | code => 3
  | script => 4
  | variant => 8

end Slot

inductive TextFault where
  | notAscii (slot : Slot) (text : String)
  | tooLong (slot : Slot) (text : String)
  | outsideBase (text : String) (base : Char)
  deriving DecidableEq, Repr

def TextFault.message : TextFault → String
  | notAscii slot text => slot.title ++ " '" ++ text ++ "' is not ASCII"
  | tooLong slot text =>
    slot.title ++ " '" ++ text ++ "' is longer than " ++ toString slot.width ++ " characters"
  | outsideBase text base =>
    "Code '" ++ text ++ "' cannot be packed relative to '" ++ String.singleton base ++ "'"

def isAscii (c : Char) : Bool := c.toNat < 0x80

/-- The bytes of a text, if it is ASCII and short enough for its slot. -/
def asciiBytes (slot : Slot) (text : String) : Except TextFault (List UInt8) :=
  let cs := text.toList
  if !cs.all isAscii then .error (.notAscii slot text)
  else if slot.width < cs.length then .error (.tooLong slot text)
  else .ok (cs.map fun c => UInt8.ofNat c.toNat)

/-- The bytes of a text that may be absent; absent and empty text have none. -/
def slotBytes (slot : Slot) (text : Option String) : Except TextFault (List UInt8) :=
  match text with
  | none => .ok []
  | some s => asciiBytes slot s

/-- Exactly `width` bytes: those of `raw`, then zeros. -/
def filled (width : Nat) (raw : List UInt8) : List UInt8 :=
  (List.range width).map fun i => raw.getD i 0

theorem length_filled (width : Nat) (raw : List UInt8) : (filled width raw).length = width := by
  rw [filled, List.length_map, List.length_range]

/-- The replacement character stands for every byte outside ASCII. -/
def asciiChar (b : UInt8) : Char :=
  if b < 0x80 then Char.ofNat b.toNat else Char.ofNat 0xFFFD

/-- The text up to the first zero, if there is any. -/
def slotText (bytes : List UInt8) : Option String :=
  match bytes.takeWhile (· != 0) with
  | [] => none
  | used => some (String.ofList (used.map asciiChar))

end DeviceQualifier.Wire
