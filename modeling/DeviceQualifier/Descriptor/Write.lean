import DeviceQualifier.Config.Field
import DeviceQualifier.Descriptor.Token
import DeviceQualifier.Locale.Reading

namespace DeviceQualifier.Descriptor

/-- What a recognised token writes to a configuration. -/
inductive Write where
  | number (field : NumField) (value : Int)
  | bits (word : NumField) (mask value : Int)
  | locale (l : Locale)
  deriving DecidableEq, Repr

def Write.apply (r : Config) : Write → Config
  | number field value => r.set field value
  | bits word mask value => r.setBits word mask value
  | locale l => { r with locale := l }

/-- Where a value goes: a whole field, or the places of a word under a mask. -/
inductive Target where
  | whole (field : NumField)
  | part (word : NumField) (mask : Int)
  deriving DecidableEq, Repr

/-- Why an attempt breaks off without an answer. -/
inductive Fault where
  /-- The cursor stands behind the last token. -/
  | noToken
  /-- The matcher has no rule. -/
  | undefined
  /-- A field that is not packed cannot be written through a mask. -/
  | notPacked (field : NumField)
  | numeral (e : NotANumeral)
  | locale (e : Locale.TagError)
  deriving DecidableEq, Repr

def Target.write (value : Int) : Target → Except Fault Write
  | whole field => .ok (.number field value)
  | part word mask =>
    if word.isPacked then .ok (.bits word mask value) else .error (.notPacked word)

end DeviceQualifier.Descriptor
