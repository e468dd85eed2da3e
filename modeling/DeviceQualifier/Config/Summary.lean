import DeviceQualifier.Config.Field
import DeviceQualifier.Value.Literal

namespace DeviceQualifier.Config

def summaryLine : Field × Datum → String
  | (.number f, .number n) =>
    "  " ++ f.name ++ ": " ++
      (if f.isPacked then "0x" ++ Text.Numeral.hexWord n else toString n)
  | (f, d) => "  " ++ f.name ++ ": " ++ d.toValue.display

def defaultLine : String := "  (default configuration)"

def summary (r : Config) : String :=
  if r.changes.isEmpty then defaultLine else "\n".intercalate (r.changes.map summaryLine)

end DeviceQualifier.Config
