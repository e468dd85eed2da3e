import DeviceQualifier.Config.Field
import DeviceQualifier.Text.Hex
import DeviceQualifier.Wire.Code

/-!
The binary record of a configuration: sixty-four bytes, little-endian. A reader accepts any record
that declares at least the size up to which fields are stored.
-/
namespace DeviceQualifier.Wire

/-- Bytes of a record. -/
def recordSize : Nat := 64

/-- Bytes of the shortest record; no field is stored past it. -/
def leastSize : Nat := 52

def languageBase : Char := 'a'
def regionBase : Char := '0'

/-- The numbers that take two bytes; the others take one. -/
def isWide : NumField → Bool
  | .mcc | .mnc | .density | .screenWidth | .screenHeight | .sdkVersion | .minorVersion
  | .smallestScreenWidthDp | .screenWidthDp | .screenHeightDp => true
  | _ => false

def numbers : List NumField :=
  Field.all.filterMap fun
    | .number f => some f
    | .text _ => none

/-- Neither negative nor too large for its bytes. -/
def fits (f : NumField) (n : Int) : Bool := 0 ≤ n && n < if isWide f then 0x10000 else 0x100

def numbersFit (r : Config) : Bool := numbers.all fun f => fits f (r.get f)

inductive WriteFault where
  | text (fault : TextFault)
  | number
  deriving DecidableEq, Repr

def byte (n : Int) : UInt8 := UInt8.ofNat n.toNat

def word (n : Int) : List UInt8 := [UInt8.ofNat (n.toNat % 256), UInt8.ofNat (n.toNat / 256)]

/-- The whole record, given the bytes of its texts. The last fourteen bytes hold nothing of a
configuration. -/
def layout (r : Config) (language region script variant : List UInt8) : List UInt8 :=
  [64, 0, 0, 0] ++
  word r.mcc ++ word r.mnc ++
  language ++ region ++
  [byte r.orientation, byte r.touchscreen] ++ word r.density ++
  [byte r.keyboard, byte r.navigation, byte r.inputFlags, 0] ++
  word r.screenWidth ++ word r.screenHeight ++
  word r.sdkVersion ++ word r.minorVersion ++
  [byte r.screenLayout, byte r.uiMode] ++ word r.smallestScreenWidthDp ++
  word r.screenWidthDp ++ word r.screenHeightDp ++
  filled 4 script ++
  filled 8 variant ++
  [byte r.screenLayout2, byte r.colorMode] ++
  filled 14 []

/-- Texts are checked before numbers, in the order in which they are stored. -/
def write (r : Config) : Except WriteFault (List UInt8) := do
  let language ← (Code.pack languageBase r.locale.language).mapError .text
  let region ← (Code.pack regionBase r.locale.region).mapError .text
  let script ← (slotBytes .script r.locale.script).mapError .text
  let variant ← (slotBytes .variant r.locale.variant).mapError .text
  if numbersFit r then .ok (layout r language region script variant) else .error .number

/-- The record as upper-case hexadecimal digits. -/
def writeHex (r : Config) : Except WriteFault String := (write r).map Text.Hex.renderUpper

inductive ReadFault where
  | tooShort (length : Nat)
  | wrongSize (size length : Nat)
  deriving DecidableEq, Repr

def ReadFault.message : ReadFault → String
  | tooShort length =>
    "Need at least " ++ toString leastSize ++ " bytes, got " ++ toString length
  | wrongSize size length =>
    "Invalid record size " ++ toString size ++ " for " ++ toString length ++ " bytes"

/-- Past the end every byte is zero. -/
def byteAt (data : List UInt8) (i : Nat) : UInt8 := data.getD i 0

def numberAt (data : List UInt8) (i : Nat) : Int := Int.ofNat (byteAt data i).toNat

def wordAt (data : List UInt8) (i : Nat) : Int :=
  Int.ofNat ((byteAt data i).toNat + 256 * (byteAt data (i + 1)).toNat)

def sizeOf (data : List UInt8) : Nat :=
  (byteAt data 0).toNat + 256 * ((byteAt data 1).toNat +
    256 * ((byteAt data 2).toNat + 256 * (byteAt data 3).toNat))

def slice (data : List UInt8) (start count : Nat) : List UInt8 := (data.drop start).take count

/-- The configuration in the bytes of a record. -/
def parse (data : List UInt8) : Config where
  mcc := wordAt data 4
  mnc := wordAt data 6
  locale := {
    language := Code.unpackPair languageBase (byteAt data 8) (byteAt data 9)
    region := Code.unpackPair regionBase (byteAt data 10) (byteAt data 11)
    script := slotText (slice data 36 4)
    variant := slotText (slice data 40 8) }
  orientation := numberAt data 12
  touchscreen := numberAt data 13
  density := wordAt data 14
  keyboard := numberAt data 16
  navigation := numberAt data 17
  inputFlags := numberAt data 18
  screenWidth := wordAt data 20
  screenHeight := wordAt data 22
  sdkVersion := wordAt data 24
  minorVersion := wordAt data 26
  screenLayout := numberAt data 28
  uiMode := numberAt data 29
  smallestScreenWidthDp := wordAt data 30
  screenWidthDp := wordAt data 32
  screenHeightDp := wordAt data 34
  screenLayout2 := numberAt data 48
  colorMode := numberAt data 49

/-- Only the bytes within the declared size are read. -/
def read (data : List UInt8) : Except ReadFault Config :=
  if data.length < leastSize then .error (.tooShort data.length)
  else
    let size := sizeOf data
    if size < leastSize ∨ data.length < size then .error (.wrongSize size data.length)
    else .ok (parse (data.take size))

end DeviceQualifier.Wire
