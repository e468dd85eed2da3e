import DeviceQualifier.Text.Numeral

namespace DeviceQualifier.Text.Hex

def digitsUpper : List Char := "0123456789ABCDEF".toList
def digitsLower : List Char := "0123456789abcdef".toList

def pair (digits : List Char) (b : UInt8) : List Char :=
  [digits.getD (b.toNat / 16) '0', digits.getD (b.toNat % 16) '0']

def renderUpper (bytes : List UInt8) : String := String.ofList (bytes.flatMap (pair digitsUpper))

def renderLower (bytes : List UInt8) : String := String.ofList (bytes.flatMap (pair digitsLower))

def digitValue? (c : Char) : Option Nat :=
  if c.isDigit then some (c.toNat - 48)
  else if 'a' ≤ c ∧ c ≤ 'f' then some (c.toNat - 87)
  else if 'A' ≤ c ∧ c ≤ 'F' then some (c.toNat - 55)
  else none

def readPairs : List Char → Option (List UInt8)
  | [] => some []
  | [_] => none
  | a :: b :: rest => do
    let high ← digitValue? a
    let low ← digitValue? b
    let bytes ← readPairs rest
    pure (UInt8.ofNat (16 * high + low) :: bytes)

def read? (s : String) : Option (List UInt8) := readPairs s.toList

theorem length_pair (digits : List Char) (b : UInt8) : (pair digits b).length = 2 := rfl

theorem length_flatMap_pair (digits : List Char) (bytes : List UInt8) :
    (bytes.flatMap (pair digits)).length = 2 * bytes.length := by
  induction bytes with
  | nil => rfl
  | cons b rest ih =>
    rw [List.flatMap_cons, List.length_append, length_pair, ih, List.length_cons]
    omega

theorem digitValue?_digitsUpper : ∀ n < 16, digitValue? (digitsUpper.getD n '0') = some n := by
  decide

theorem readPairs_pair (b : UInt8) (rest : List Char) :
    readPairs (pair digitsUpper b ++ rest) = (readPairs rest).map (b :: ·) := by
  have hb : b.toNat < 256 := b.toNat_lt
  have high := digitValue?_digitsUpper (b.toNat / 16) (by omega)
  have low := digitValue?_digitsUpper (b.toNat % 16) (by omega)
  have whole : UInt8.ofNat (16 * (b.toNat / 16) + b.toNat % 16) = b := by
    rw [Nat.div_add_mod, UInt8.ofNat_toNat]
  simp only [pair, List.cons_append, List.nil_append, readPairs, high, low, Option.bind_eq_bind,
    Option.bind_some, whole]
  cases readPairs rest <;> rfl

/-- Written bytes read back. -/
theorem readPairs_flatMap_pair (bytes : List UInt8) :
    readPairs (bytes.flatMap (pair digitsUpper)) = some bytes := by
  induction bytes with
  | nil => rfl
  | cons b rest ih => rw [List.flatMap_cons, readPairs_pair, ih, Option.map_some]

end DeviceQualifier.Text.Hex
