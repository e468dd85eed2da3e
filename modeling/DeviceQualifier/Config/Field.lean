import DeviceQualifier.Bits
import DeviceQualifier.Config.Basic
import DeviceQualifier.Value.Basic

namespace DeviceQualifier

def NumField.name : NumField → String
  | .mcc => "mcc"
  | .mnc => "mnc"
  | .orientation => "orientation"
  | .touchscreen => "touchscreen"
  | .density => "density"
  | .keyboard => "keyboard"
  | .navigation => "navigation"
  | .inputFlags => "input_flags"
  | .screenWidth => "screen_width"
  | .screenHeight => "screen_height"
  | .sdkVersion => "sdk_version"
  | .minorVersion => "minor_version"
  | .screenLayout => "screen_layout"
  | .uiMode => "ui_mode"
  | .smallestScreenWidthDp => "smallest_screen_width_dp"
  | .screenWidthDp => "screen_width_dp"
  | .screenHeightDp => "screen_height_dp"
  | .screenLayout2 => "screen_layout2"
  | .colorMode => "color_mode"

/-- The five words that hold several parts and are written through masks. -/
def NumField.isPacked : NumField → Bool
  | .screenLayout | .screenLayout2 | .colorMode | .uiMode | .inputFlags => true
  | _ => false

def Locale.Part.fieldName : Locale.Part → String
  | .language => "language"
  | .region => "region"
  | .script => "locale_script"
  | .variant => "locale_variant"

inductive Field where
  | number (f : NumField)
  | text (p : Locale.Part)
  deriving DecidableEq, Repr

namespace Field

def name : Field → String
  | number f => f.name
  | text p => p.fieldName

/-- Record order. -/
def all : List Field := [
  number .mcc, number .mnc,
  text .language, text .region, text .script, text .variant,
  number .orientation, number .touchscreen, number .density,
  number .keyboard, number .navigation, number .inputFlags,
  number .screenWidth, number .screenHeight, number .sdkVersion, number .minorVersion,
  number .screenLayout, number .uiMode, number .smallestScreenWidthDp,
  number .screenWidthDp, number .screenHeightDp,
  number .screenLayout2, number .colorMode]

def named? (name : String) : Option Field := all.find? (·.name == name)

end Field

/-- What a field holds. -/
inductive Datum where
  | number (n : Int)
  | text (s : Option String)
  deriving DecidableEq, Repr

namespace Datum

def toValue : Datum → Value
  | number n => .int n
  | text none => .null
  | text (some s) => .text s

/-- A number agrees with every value that is equal to it, and absent text with null. -/
def agrees : Datum → Value → Bool
  | number n, v => v.whole? == some n
  | text none, .null => true
  | text (some s), .text t => s == t
  | text _, _ => false

end Datum

namespace Config

def field (r : Config) : Field → Datum
  | .number f => .number (r.get f)
  | .text p => .text (r.locale.part p)

/-- Writes a datum to a field of its own kind; other data leave the configuration as it is. -/
def put (r : Config) : Field → Datum → Config
  | .number f, .number n => r.set f n
  | .text p, .text s => { r with locale := r.locale.setPart p s }
  | _, _ => r

def setBits (r : Config) (f : NumField) (mask value : Int) : Config :=
  r.set f (Bits.setBits (r.get f) mask value)

/-- All fields with what they hold, in record order. -/
def fields (r : Config) : List (Field × Datum) := Field.all.map fun f => (f, r.field f)

/-- The fields that differ from the unspecified configuration, in record order. -/
def changes (r : Config) : List (Field × Datum) :=
  r.fields.filter fun (f, d) => d != unspecified.field f

/-- The unspecified configuration with some fields written. -/
def ofFields (entries : List (Field × Datum)) : Config :=
  entries.foldl (fun r (f, d) => r.put f d) unspecified

theorem get_setBits (r : Config) (f g : NumField) (mask value : Int) :
    (r.setBits f mask value).get g =
      if g = f then Bits.setBits (r.get f) mask value else r.get g :=
  get_set r f g _

/-- A field reads back what was put there, and the others keep what they held. -/
theorem field_put (r q : Config) (f g : Field) :
    (r.put f (q.field f)).field g = if g = f then q.field f else r.field g := by
  cases f with
  | number f =>
    cases g with
    | number g =>
      simp only [put, field, get_set, Field.number.injEq]
      split <;> rfl
    | text p => simp [put, field]
  | text p =>
    cases g with
    | number g => cases g <;> rfl
    | text q =>
      simp only [put, field, Locale.part_setPart, Field.text.injEq]
      split <;> rfl

end Config
end DeviceQualifier
