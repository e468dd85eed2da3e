import DeviceQualifier.Config.View
import DeviceQualifier.Descriptor.Matcher
import DeviceQualifier.Scale

namespace DeviceQualifier.Descriptor

inductive Category where
  | mcc | mnc | locale | layoutDirection | smallestScreenWidth | screenWidth | screenHeight
  | screenLayoutSize | screenLayoutLong | screenRound | wideColorGamut | hdr | orientation
  | uiModeType | uiModeNight | density | touchscreen | keysHidden | keyboard | navHidden
  | navigation | pixels | version
  deriving DecidableEq, Repr

namespace Category

def all : List Category := [
  mcc, mnc, locale, layoutDirection, smallestScreenWidth, screenWidth, screenHeight,
  screenLayoutSize, screenLayoutLong, screenRound, wideColorGamut, hdr, orientation,
  uiModeType, uiModeNight, density, touchscreen, keysHidden, keyboard, navHidden,
  navigation, pixels, version]

/-- The words of a scale; the wildcard stands for the unspecified code. -/
def vocabulary (scale : Scale) : Vocabulary :=
  ⟨scale.words.map fun (word, code) => (word, some code), some 0⟩

def noWords : Vocabulary := ⟨[], some 0⟩

/-- The words of a scale, written to the part of a packed word that a view shows. -/
def viewed (v : View) (scale : Scale) : Matcher :=
  ⟨v.name, .named (.part v.word v.mask) (vocabulary scale)⟩

/-- The words of a scale, written to a field of its own. -/
def coded (field : NumField) (scale : Scale) : Matcher :=
  ⟨field.name, .named (.whole field) (vocabulary scale)⟩

def counted (field : NumField) (opening closing : String) (conversion : Conversion) : Matcher :=
  ⟨field.name, .numeric (.whole field) noWords ⟨opening, closing, conversion⟩⟩

def matcher : Category → Matcher
  | mcc => counted .mcc "mcc" "" .plain
  | mnc => counted .mnc "mnc" "" .networkCode
  | locale => ⟨"locale", .locale⟩
  | layoutDirection => viewed .layoutDirection .layoutDir
  | smallestScreenWidth => counted .smallestScreenWidthDp "sw" "dp" .plain
  | screenWidth => counted .screenWidthDp "w" "dp" .plain
  | screenHeight => counted .screenHeightDp "h" "dp" .plain
  | screenLayoutSize => viewed .screenLayoutSize .screenSize
  | screenLayoutLong => viewed .screenLayoutLong .screenLong
  | screenRound => viewed .screenRound .screenRound
  | wideColorGamut => viewed .wideColorGamut .wideColorGamut
  | hdr => viewed .hdr .hdr
  | orientation => coded .orientation .orientation
  | uiModeType => viewed .uiModeType .uiModeType
  | uiModeNight => viewed .uiModeNight .uiModeNight
  | density =>
    ⟨NumField.density.name, .numeric (.whole .density) (vocabulary .density) ⟨"", "dpi", .plain⟩⟩
  | touchscreen => coded .touchscreen .touchscreen
  | keysHidden => viewed .keysHidden .keysHidden
  | keyboard => coded .keyboard .keyboard
  | navHidden => viewed .navHidden .navHidden
  | navigation => coded .navigation .navigation
  | pixels => ⟨"screen_size", .pixels⟩
  | version => ⟨"version", .version⟩

end Category

def canonicalMatchers : List Matcher := Category.all.map Category.matcher

end DeviceQualifier.Descriptor
