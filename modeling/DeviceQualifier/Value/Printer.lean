import DeviceQualifier.Value.Basic

/-!
Written documents: one line, or one item a line with two blanks for each level. Everything outside
ASCII is written by its UTF-16 units, so the text is plain ASCII.
-/
namespace DeviceQualifier.Value

def unitEscape (unit : Nat) : List Char :=
  backslash :: 'u' :: Text.Numeral.padZeros 4 (Text.Numeral.hexDigitsLower unit)

/-- One unit, or the two halves of a character beyond the first plane. -/
def codeEscape (n : Nat) : List Char :=
  if n < 0x10000 then unitEscape n
  else
    unitEscape (0xD800 + (n - 0x10000) / 0x400) ++ unitEscape (0xDC00 + (n - 0x10000) % 0x400)

def escapeChar (c : Char) : List Char :=
  match c.toNat with
  | 0x22 => [backslash, c]
  | 0x5C => [backslash, c]
  | 0x0A => [backslash, 'n']
  | 0x0D => [backslash, 'r']
  | 0x09 => [backslash, 't']
  | 0x08 => [backslash, 'b']
  | 0x0C => [backslash, 'f']
  | n => if 0x20 ≤ n ∧ n < 0x7F then [c] else codeEscape n

def writeText (s : String) : String :=
  String.ofList (quote :: s.toList.flatMap escapeChar ++ [quote])

mutual
def compact : Value → String
  | null => "null"
  | bool b => if b then "true" else "false"
  | int n => toString n
  | real d => d.render "Infinity" "NaN"
  | text s => writeText s
  | list items => "[" ++ ",".intercalate (compactItems items) ++ "]"
  | object fields => "\x7b" ++ ",".intercalate (compactFields fields) ++ "\x7d"

def compactItems : List Value → List String
  | [] => []
  | v :: rest => compact v :: compactItems rest

def compactFields : List (String × Value) → List String
  | [] => []
  | (name, v) :: rest => (writeText name ++ ":" ++ compact v) :: compactFields rest
end

/-- Items on lines of their own, one level in; nothing stands between the brackets when there are
no items. -/
def bracketed (opening closing : String) (depth : Nat) (items : List String) : String :=
  let margin (n : Nat) := String.ofList (List.replicate (2 * n) ' ')
  if items.isEmpty then opening ++ closing
  else
    opening ++ "\n" ++ ",\n".intercalate (items.map (margin (depth + 1) ++ ·)) ++ "\n" ++
      margin depth ++ closing

mutual
def indented (depth : Nat) : Value → String
  | list items => bracketed "[" "]" depth (indentedItems (depth + 1) items)
  | object fields => bracketed "\x7b" "\x7d" depth (indentedFields (depth + 1) fields)
  | v => compact v

def indentedItems (depth : Nat) : List Value → List String
  | [] => []
  | v :: rest => indented depth v :: indentedItems depth rest

def indentedFields (depth : Nat) : List (String × Value) → List String
  | [] => []
  | (name, v) :: rest =>
    (writeText name ++ ": " ++ indented depth v) :: indentedFields depth rest
end

def pretty (v : Value) : String := indented 0 v

end DeviceQualifier.Value
