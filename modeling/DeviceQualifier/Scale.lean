import DeviceQualifier.Value.Literal

/-!
The scales of a configuration: the coded steps that a field or a part of a packed word can take,
with the word that asks for each in a descriptor.
-/
namespace DeviceQualifier

structure Step where
  name : String
  code : Int
  word : Option String
  deriving DecidableEq, Repr

structure Scale where
  name : String
  steps : List Step
  deriving DecidableEq, Repr

namespace Scale

/-- The words of a scale with their codes. Steps without a word cannot be asked for. -/
def words (s : Scale) : List (String × Int) :=
  s.steps.filterMap fun step => step.word.map fun word => (word, step.code)

/-- The first step whose code equals a value. -/
def lookup? (s : Scale) (v : Value) : Option Step :=
  v.whole?.bind fun n => s.steps.find? (·.code == n)

def unknownCode (s : Scale) (v : Value) : String :=
  v.literal ++ " is not a valid " ++ s.name

def orientation : Scale := ⟨"Orientation", [
  ⟨"ANY", 0, none⟩, ⟨"PORT", 1, some "port"⟩, ⟨"LAND", 2, some "land"⟩,
  ⟨"SQUARE", 3, some "square"⟩]⟩

def touchscreen : Scale := ⟨"Touchscreen", [
  ⟨"ANY", 0, none⟩, ⟨"NOTOUCH", 1, some "notouch"⟩, ⟨"STYLUS", 2, some "stylus"⟩,
  ⟨"FINGER", 3, some "finger"⟩]⟩

/-- Dots per inch; the two largest codes are not densities of a screen. -/
def density : Scale := ⟨"Density", [
  ⟨"DEFAULT", 0, none⟩, ⟨"LOW", 120, some "ldpi"⟩, ⟨"MEDIUM", 160, some "mdpi"⟩,
  ⟨"TV", 213, some "tvdpi"⟩, ⟨"HIGH", 240, some "hdpi"⟩, ⟨"XHIGH", 320, some "xhdpi"⟩,
  ⟨"XXHIGH", 480, some "xxhdpi"⟩, ⟨"XXXHIGH", 640, some "xxxhdpi"⟩,
  ⟨"ANY", 0xFFFE, some "anydpi"⟩, ⟨"NONE", 0xFFFF, some "nodpi"⟩]⟩

def keyboard : Scale := ⟨"Keyboard", [
  ⟨"ANY", 0, none⟩, ⟨"NOKEYS", 1, some "nokeys"⟩, ⟨"QWERTY", 2, some "qwerty"⟩,
  ⟨"TWELVEKEY", 3, some "12key"⟩]⟩

def navigation : Scale := ⟨"Navigation", [
  ⟨"ANY", 0, none⟩, ⟨"NONAV", 1, some "nonav"⟩, ⟨"DPAD", 2, some "dpad"⟩,
  ⟨"TRACKBALL", 3, some "trackball"⟩, ⟨"WHEEL", 4, some "wheel"⟩]⟩

def keysHidden : Scale := ⟨"KeysHidden", [
  ⟨"ANY", 0x00, none⟩, ⟨"NO", 0x01, some "keysexposed"⟩, ⟨"YES", 0x02, some "keyshidden"⟩,
  ⟨"SOFT", 0x03, some "keyssoft"⟩]⟩

def navHidden : Scale := ⟨"NavHidden", [
  ⟨"ANY", 0x00, none⟩, ⟨"NO", 0x04, some "navexposed"⟩, ⟨"YES", 0x08, some "navhidden"⟩]⟩

def screenSize : Scale := ⟨"ScreenSize", [
  ⟨"ANY", 0x00, none⟩, ⟨"SMALL", 0x01, some "small"⟩, ⟨"NORMAL", 0x02, some "normal"⟩,
  ⟨"LARGE", 0x03, some "large"⟩, ⟨"XLARGE", 0x04, some "xlarge"⟩]⟩

def screenLong : Scale := ⟨"ScreenLong", [
  ⟨"ANY", 0x00, none⟩, ⟨"NO", 0x10, some "notlong"⟩, ⟨"YES", 0x20, some "long"⟩]⟩

def layoutDir : Scale := ⟨"LayoutDir", [
  ⟨"ANY", 0x00, none⟩, ⟨"LTR", 0x40, some "ldltr"⟩, ⟨"RTL", 0x80, some "ldrtl"⟩]⟩

def screenRound : Scale := ⟨"ScreenRound", [
  ⟨"ANY", 0x00, none⟩, ⟨"NO", 0x01, some "notround"⟩, ⟨"YES", 0x02, some "round"⟩]⟩

def wideColorGamut : Scale := ⟨"WideColorGamut", [
  ⟨"ANY", 0x00, none⟩, ⟨"NO", 0x01, some "nowidecg"⟩, ⟨"YES", 0x02, some "widecg"⟩]⟩

def hdr : Scale := ⟨"Hdr", [
  ⟨"ANY", 0x00, none⟩, ⟨"NO", 0x04, some "lowdr"⟩, ⟨"YES", 0x08, some "highdr"⟩]⟩

/-- The plain type is the state of a device without a special role; no word asks for it. -/
def uiModeType : Scale := ⟨"UiModeType", [
  ⟨"ANY", 0x00, none⟩, ⟨"NORMAL", 0x01, none⟩, ⟨"DESK", 0x02, some "desk"⟩,
  ⟨"CAR", 0x03, some "car"⟩, ⟨"TELEVISION", 0x04, some "television"⟩,
  ⟨"APPLIANCE", 0x05, some "appliance"⟩, ⟨"WATCH", 0x06, some "watch"⟩,
  ⟨"VR_HEADSET", 0x07, some "vrheadset"⟩]⟩

def uiModeNight : Scale := ⟨"UiModeNight", [
  ⟨"ANY", 0x00, none⟩, ⟨"NO", 0x10, some "notnight"⟩, ⟨"YES", 0x20, some "night"⟩]⟩

def all : List Scale := [
  orientation, touchscreen, density, keyboard, navigation, keysHidden, navHidden, screenSize,
  screenLong, layoutDir, screenRound, wideColorGamut, hdr, uiModeType, uiModeNight]

def named? (name : String) : Option Scale := all.find? (·.name == name)

end Scale
end DeviceQualifier
