import DeviceQualifier.Text.Quoted
import DeviceQualifier.Value.Basic

namespace DeviceQualifier.Value

mutual
/-- A value as reports show it: text stands in quotes inside lists and objects. -/
def literal : Value → String
  | null => "None"
  | bool b => if b then "True" else "False"
  | int n => toString n
  | real d => d.render "inf" "nan"
  | text s => Text.Quoted.render s
  | list items => "[" ++ ", ".intercalate (literalItems items) ++ "]"
  | object fields => "\x7b" ++ ", ".intercalate (literalFields fields) ++ "\x7d"

def literalItems : List Value → List String
  | [] => []
  | v :: rest => literal v :: literalItems rest

def literalFields : List (String × Value) → List String
  | [] => []
  | (name, v) :: rest => (Text.Quoted.render name ++ ": " ++ literal v) :: literalFields rest
end

def display : Value → String
  | text s => s
  | v => literal v

end DeviceQualifier.Value
