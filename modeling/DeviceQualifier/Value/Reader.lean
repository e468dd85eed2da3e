import DeviceQualifier.Text.Hex
import DeviceQualifier.Value.Basic

/-!
Reading a written document. A step of the reader takes the text from a place on and gives back a
value with the text after it; the number of steps is bounded by the length of the text.
-/
namespace DeviceQualifier.Value.Reader

def isSpace (c : Char) : Bool := c == ' ' || c == '\t' || c == '\n' || c == '\r'

def skip (cs : List Char) : List Char := cs.dropWhile isSpace

def unit? (a b c d : Char) : Option Nat := do
  let a ← Text.Hex.digitValue? a
  let b ← Text.Hex.digitValue? b
  let c ← Text.Hex.digitValue? c
  let d ← Text.Hex.digitValue? d
  pure (((a * 16 + b) * 16 + c) * 16 + d)

def simpleEscape? (c : Char) : Option Nat :=
  match c with
  | 'n' => some 0x0A
  | 'r' => some 0x0D
  | 't' => some 0x09
  | 'b' => some 0x08
  | 'f' => some 0x0C
  | c => if c = quote ∨ c = backslash ∨ c = '/' then some c.toNat else none

/-- The codes of a text up to its closing quote, and what follows the quote. Controls stand in a
text by their escapes only. -/
def textCodes : List Char → Option (List Nat × List Char)
  | [] => none
  | c :: rest =>
    if c = quote then some ([], rest)
    else if c = backslash then
      match rest with
      | 'u' :: a :: b :: x :: y :: after => do
        let code ← unit? a b x y
        let (codes, final) ← textCodes after
        pure (code :: codes, final)
      | e :: after => do
        let code ← simpleEscape? e
        let (codes, final) ← textCodes after
        pure (code :: codes, final)
      | [] => none
    else if c.toNat < 0x20 then none
    else do
      let (codes, final) ← textCodes rest
      pure (c.toNat :: codes, final)

def isHighHalf (n : Nat) : Bool := 0xD800 ≤ n && n < 0xDC00
def isLowHalf (n : Nat) : Bool := 0xDC00 ≤ n && n < 0xE000

/-- Joins the halves of characters beyond the first plane. A half alone is no character. -/
def joinHalves : List Nat → Option (List Char)
  | [] => some []
  | n :: rest =>
    if isHighHalf n then
      match rest with
      | m :: after =>
        if isLowHalf m then
          (joinHalves after).map (Char.ofNat (0x10000 + (n - 0xD800) * 0x400 + (m - 0xDC00)) :: ·)
        else none
      | [] => none
    else if isLowHalf n then none
    else (joinHalves rest).map (Char.ofNat n :: ·)

def text? (cs : List Char) : Option (String × List Char) := do
  let (codes, rest) ← textCodes cs
  let whole ← joinHalves codes
  pure (String.ofList whole, rest)

def natOf (ds : List Char) : Nat := Nat.ofDigitChars 10 ds 0

/-- The digits at the front, one at least, and what follows them. -/
def digits? (cs : List Char) : Option (List Char × List Char) :=
  let ds := cs.takeWhile Char.isDigit
  if ds.isEmpty then none else some (ds, cs.dropWhile Char.isDigit)

/-- The digits behind a point, if there is one. -/
def fraction? : List Char → Option (List Char × List Char)
  | '.' :: after => digits? after
  | cs => some ([], cs)

def power? : List Char → Option (Int × List Char)
  | '-' :: after => (digits? after).map fun (ds, rest) => (-Int.ofNat (natOf ds), rest)
  | '+' :: after => (digits? after).map fun (ds, rest) => (Int.ofNat (natOf ds), rest)
  | after => (digits? after).map fun (ds, rest) => (Int.ofNat (natOf ds), rest)

/-- The power of ten behind a mark, if there is one. -/
def exponent? : List Char → Option (Option Int × List Char)
  | 'e' :: after | 'E' :: after => (power? after).map fun (power, rest) => (some power, rest)
  | cs => some (none, cs)

/-- The part of a number after its sign. It is an integer unless it has a point or an exponent,
and starts with a zero only if nothing else stands in front of those. -/
def unsigned? (negative : Bool) (cs : List Char) : Option (Value × List Char) := do
  let (ds, rest) ← digits? cs
  if ds.head? = some '0' ∧ ds.length ≠ 1 then none
  else
    let (fraction, rest) ← fraction? rest
    let (power, rest) ← exponent? rest
    let n := natOf (ds ++ fraction)
    if fraction.isEmpty && power.isNone then
      pure (int (if negative then -Int.ofNat n else Int.ofNat n), rest)
    else
      pure (real (Double.ofDecimal negative n (power.getD 0 - Int.ofNat fraction.length)), rest)

def number? : List Char → Option (Value × List Char)
  | '-' :: cs => unsigned? true cs
  | cs => unsigned? false cs

/-- Values that are written as words. -/
def keywords : List (String × Value) := [
  ("null", null), ("true", bool true), ("false", bool false),
  ("NaN", real .undefined), ("Infinity", real (.infinite false)),
  ("-Infinity", real (.infinite true))]

def keyword? (cs : List Char) : Option (Value × List Char) :=
  keywords.findSome? fun (word, v) =>
    if word.toList.isPrefixOf cs then some (v, cs.drop word.length) else none

mutual
def value? : Nat → List Char → Option (Value × List Char)
  | 0, _ => none
  | steps + 1, cs =>
    match skip cs with
    | [] => none
    | '[' :: rest =>
      match skip rest with
      | ']' :: after => some (list [], after)
      | _ => (items? steps rest).map fun (vs, after) => (list vs, after)
    | '{' :: rest =>
      match skip rest with
      | '}' :: after => some (object [], after)
      | _ => (fields? steps rest []).map fun (fs, after) => (object fs, after)
    | c :: rest =>
      if c = quote then (text? rest).map fun (s, after) => (text s, after)
      else (keyword? (c :: rest)).or (number? (c :: rest))

def items? : Nat → List Char → Option (List Value × List Char)
  | 0, _ => none
  | steps + 1, cs => do
    let (v, rest) ← value? steps cs
    match skip rest with
    | ',' :: after =>
      let (vs, final) ← items? steps after
      pure (v :: vs, final)
    | ']' :: after => pure ([v], after)
    | _ => none

def fields? : Nat → List Char → List (String × Value) →
    Option (List (String × Value) × List Char)
  | 0, _, _ => none
  | steps + 1, cs, known =>
    match skip cs with
    | [] => none
    | c :: rest =>
      if c = quote then do
        let (name, rest) ← text? rest
        match skip rest with
        | ':' :: rest =>
          let (v, rest) ← value? steps rest
          let known := putField name v known
          match skip rest with
          | ',' :: after => fields? steps after known
          | '}' :: after => pure (known, after)
          | _ => none
        | _ => none
      else none
end

/-- The value that a whole text is written as. -/
def read? (s : String) : Option Value := do
  let cs := s.toList
  let (v, rest) ← value? (2 * cs.length + 2) cs
  if (skip rest).isEmpty then pure v else none

end DeviceQualifier.Value.Reader
