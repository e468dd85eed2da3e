import DeviceQualifier.Config.Field

/-!
Views of a configuration: each cuts a packed word down to one of its parts, in place. Names cover
the views and the stored fields alike.
-/
namespace DeviceQualifier

inductive View where
  | layoutDirection | screenLayoutSize | screenLayoutLong | screenRound | wideColorGamut | hdr
  | uiModeType | uiModeNight | keysHidden | navHidden
  deriving DecidableEq, Repr

namespace View

def all : List View := [
  layoutDirection, screenLayoutSize, screenLayoutLong, screenRound, wideColorGamut, hdr,
  uiModeType, uiModeNight, keysHidden, navHidden]

def name : View → String
  | layoutDirection => "layout_direction"
  | screenLayoutSize => "screen_layout_size"
  | screenLayoutLong => "screen_layout_long"
  | screenRound => "screen_round"
  | wideColorGamut => "wide_color_gamut"
  | hdr => "hdr"
  | uiModeType => "ui_mode_type"
  | uiModeNight => "ui_mode_night"
  | keysHidden => "keys_hidden"
  | navHidden => "nav_hidden"

def word : View → NumField
  | layoutDirection | screenLayoutSize | screenLayoutLong => .screenLayout
  | screenRound => .screenLayout2
  | wideColorGamut | hdr => .colorMode
  | uiModeType | uiModeNight => .uiMode
  | keysHidden | navHidden => .inputFlags

/-- The places of the word that belong to the view. Views of one word share no place. -/
def mask : View → Int
  | layoutDirection => 0xC0
  | screenLayoutSize => 0x0F
  | screenLayoutLong => 0x30
  | screenRound => 0x03
  | wideColorGamut => 0x03
  | hdr => 0x0C
  | uiModeType => 0x0F
  | uiModeNight => 0x30
  | keysHidden => 0x03
  | navHidden => 0x0C

/-- The lowest place of the view in its word. -/
def shift : View → Nat
  | layoutDirection => 6
  | screenLayoutLong | uiModeNight => 4
  | hdr | navHidden => 2
  | _ => 0

def named? (name : String) : Option View := all.find? (·.name == name)

end View

namespace Config

/-- The part of its word that a view shows, in place. -/
def view (r : Config) (v : View) : Int := Bits.conj (r.get v.word) v.mask

/-- The datum of the field or view with a name. -/
def read? (r : Config) (name : String) : Option Datum :=
  match Field.named? name with
  | some f => some (r.field f)
  | none => (View.named? name).map fun v => .number (r.view v)

end Config
end DeviceQualifier
