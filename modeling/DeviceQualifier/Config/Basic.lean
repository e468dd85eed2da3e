import DeviceQualifier.Locale.Basic

/-!
The device configuration that a descriptor asks for. Every field starts at its unspecified value.
`get_set` says that a write to a number reads back and leaves the others alone; `ext_fields` says
that the fields are all there is.
-/
namespace DeviceQualifier

structure Config where
  mcc : Int
  mnc : Int
  locale : Locale
  orientation : Int
  touchscreen : Int
  density : Int
  keyboard : Int
  navigation : Int
  inputFlags : Int
  screenWidth : Int
  screenHeight : Int
  sdkVersion : Int
  minorVersion : Int
  screenLayout : Int
  uiMode : Int
  smallestScreenWidthDp : Int
  screenWidthDp : Int
  screenHeightDp : Int
  screenLayout2 : Int
  colorMode : Int
  deriving DecidableEq, Repr

inductive NumField where
  | mcc | mnc | orientation | touchscreen | density | keyboard | navigation | inputFlags
  | screenWidth | screenHeight | sdkVersion | minorVersion | screenLayout | uiMode
  | smallestScreenWidthDp | screenWidthDp | screenHeightDp | screenLayout2 | colorMode
  deriving DecidableEq, Repr

namespace Config

def unspecified : Config where
  mcc := 0
  mnc := 0
  locale := Locale.unspecified
  orientation := 0
  touchscreen := 0
  density := 0
  keyboard := 0
  navigation := 0
  inputFlags := 0
  screenWidth := 0
  screenHeight := 0
  sdkVersion := 0
  minorVersion := 0
  screenLayout := 0
  uiMode := 0
  smallestScreenWidthDp := 0
  screenWidthDp := 0
  screenHeightDp := 0
  screenLayout2 := 0
  colorMode := 0

def isDefault (r : Config) : Bool := r == unspecified

def get (r : Config) : NumField → Int
  | .mcc => r.mcc
  | .mnc => r.mnc
  | .orientation => r.orientation
  | .touchscreen => r.touchscreen
  | .density => r.density
  | .keyboard => r.keyboard
  | .navigation => r.navigation
  | .inputFlags => r.inputFlags
  | .screenWidth => r.screenWidth
  | .screenHeight => r.screenHeight
  | .sdkVersion => r.sdkVersion
  | .minorVersion => r.minorVersion
  | .screenLayout => r.screenLayout
  | .uiMode => r.uiMode
  | .smallestScreenWidthDp => r.smallestScreenWidthDp
  | .screenWidthDp => r.screenWidthDp
  | .screenHeightDp => r.screenHeightDp
  | .screenLayout2 => r.screenLayout2
  | .colorMode => r.colorMode

def set (r : Config) (f : NumField) (n : Int) : Config :=
  match f with
  | .mcc => { r with mcc := n }
  | .mnc => { r with mnc := n }
  | .orientation => { r with orientation := n }
  | .touchscreen => { r with touchscreen := n }
  | .density => { r with density := n }
  | .keyboard => { r with keyboard := n }
  | .navigation => { r with navigation := n }
  | .inputFlags => { r with inputFlags := n }
  | .screenWidth => { r with screenWidth := n }
  | .screenHeight => { r with screenHeight := n }
  | .sdkVersion => { r with sdkVersion := n }
  | .minorVersion => { r with minorVersion := n }
  | .screenLayout => { r with screenLayout := n }
  | .uiMode => { r with uiMode := n }
  | .smallestScreenWidthDp => { r with smallestScreenWidthDp := n }
  | .screenWidthDp => { r with screenWidthDp := n }
  | .screenHeightDp => { r with screenHeightDp := n }
  | .screenLayout2 => { r with screenLayout2 := n }
  | .colorMode => { r with colorMode := n }

theorem get_set (r : Config) (f g : NumField) (n : Int) :
    (r.set f n).get g = if g = f then n else r.get g := by
  cases f <;> cases g <;> rfl

@[simp] theorem locale_set (r : Config) (f : NumField) (n : Int) :
    (r.set f n).locale = r.locale := by
  cases f <;> rfl

theorem ext_fields {r q : Config} (hl : r.locale = q.locale) (h : ∀ f, r.get f = q.get f) :
    r = q := by
  cases r
  cases q
  simp only [mk.injEq]
  exact ⟨h .mcc, h .mnc, hl, h .orientation, h .touchscreen, h .density, h .keyboard,
    h .navigation, h .inputFlags, h .screenWidth, h .screenHeight, h .sdkVersion, h .minorVersion,
    h .screenLayout, h .uiMode, h .smallestScreenWidthDp, h .screenWidthDp, h .screenHeightDp,
    h .screenLayout2, h .colorMode⟩

end Config
end DeviceQualifier
