import DeviceQualifier.Text.Numeral

/-!
Numbers of double precision. What is read is rounded to 53 significant bits; what is printed has as
few digits as are read back as the same number.
-/
namespace DeviceQualifier

/-- The integer that is nearest to a quotient. Halfway between two it is the even one. -/
def Double.roundDiv (n d : Nat) : Nat :=
  if 2 * (n % d) < d ∨ 2 * (n % d) = d ∧ n / d % 2 = 0 then n / d else n / d + 1

def Double.twoPow (n : Nat) : Nat := Nat.pow 2 n

/-- The last place of a quotient that has 53 significant bits. -/
def Double.step (n d : Nat) : Nat := twoPow ((n / d).log2 - 52)

/-- A quotient rounded to 53 significant bits. -/
def Double.round (n d : Nat) : Nat := roundDiv n (d * step n d) * step n d

/-- How often one can be halved. -/
def Double.halvings : Nat := 1074

/-- How many of the least positive number make one. -/
def Double.one : Nat := twoPow halvings

/-- How far a finite number is from zero, counted in the least positive number. -/
structure Double.Size where
  count : Nat
  rounded : Double.round count 1 = count
  bounded : count < twoPow 2098
  deriving DecidableEq, Repr

inductive Double where
  | finite (negative : Bool) (size : Double.Size)
  | infinite (negative : Bool)
  | undefined
  deriving DecidableEq, Repr

namespace Double

theorem twoPow_pos (n : Nat) : 0 < twoPow n := Nat.two_pow_pos n

theorem twoPow_add (a b : Nat) : twoPow (a + b) = twoPow a * twoPow b := Nat.pow_add 2 a b

theorem twoPow_dvd {a b : Nat} (h : a ≤ b) : twoPow a ∣ twoPow b := Nat.pow_dvd_pow 2 h

theorem lt_twoPow_of_log2_lt {n a : Nat} (h : n.log2 < a) : n < twoPow a :=
  Nat.lt_of_lt_of_le Nat.lt_log2_self (Nat.pow_le_pow_right (by decide) h)

theorem log2_lt_of_lt_twoPow {n a : Nat} (filled : n ≠ 0) (h : n < twoPow a) : n.log2 < a :=
  (Nat.log2_lt filled).mpr h

theorem roundDiv_le (n d : Nat) : roundDiv n d ≤ n / d + 1 := by
  unfold roundDiv
  split <;> omega

theorem roundDiv_mul (n : Nat) {d : Nat} (pos : 0 < d) : roundDiv (n * d) d = n := by
  rw [roundDiv, Nat.mul_mod_left, Nat.mul_div_cancel n pos, if_pos (.inl pos)]

theorem roundDiv_mul_mul {k : Nat} (pos : 0 < k) (n d : Nat) :
    roundDiv (k * n) (k * d) = roundDiv n d := by
  simp only [roundDiv, Nat.mul_mod_mul_left, Nat.mul_div_mul_left n d pos, Nat.mul_left_comm 2 k,
    Nat.mul_lt_mul_left pos, Nat.mul_left_cancel_iff pos]

/-- Rounding depends on the quotient only. -/
theorem round_mul_mul {k : Nat} (pos : 0 < k) (n d : Nat) : round (k * n) (k * d) = round n d := by
  unfold round step
  rw [Nat.mul_div_mul_left n d pos, Nat.mul_assoc, roundDiv_mul_mul pos]

/-- What is a multiple of its own last place is rounded already. -/
theorem round_eq_self {n : Nat} (h : step n 1 ∣ n) : round n 1 = n := by
  obtain ⟨m, hm⟩ := h
  have pos : 0 < step n 1 := twoPow_pos _
  rw [round, Nat.one_mul]
  generalize step n 1 = s at hm pos
  rw [hm, Nat.mul_comm s m, roundDiv_mul m pos]

/-- At most 53 bits and a power of two. -/
theorem round_scaled {m : Nat} (h : m ≤ twoPow 53) (s : Nat) :
    round (m * twoPow s) 1 = m * twoPow s := by
  apply round_eq_self
  rw [step, Nat.div_one]
  by_cases zero : m = 0
  · rw [zero, Nat.zero_mul]
    exact Nat.dvd_zero _
  · rcases Nat.lt_or_eq_of_le h with lt | rfl
    · have filled : m * twoPow s ≠ 0 := Nat.mul_ne_zero zero (Nat.ne_of_gt (twoPow_pos s))
      have bits : (m * twoPow s).log2 < 53 + s := by
        apply log2_lt_of_lt_twoPow filled
        rw [twoPow_add]
        exact Nat.mul_lt_mul_of_pos_right lt (twoPow_pos s)
      exact Nat.dvd_mul_left_of_dvd (twoPow_dvd (by omega)) m
    · have bits : (twoPow (53 + s)).log2 = 53 + s := Nat.log2_two_pow
      rw [← twoPow_add, bits]
      exact twoPow_dvd (by omega)

theorem round_round (n d : Nat) : round (round n d) 1 = round n d := by
  apply round_scaled
  have quotient : n / (d * step n d) < twoPow 53 := by
    rw [step, ← Nat.div_div_eq_div_mul, Nat.div_lt_iff_lt_mul (twoPow_pos _), ← twoPow_add]
    exact lt_twoPow_of_log2_lt (by omega)
  have next := roundDiv_le n (d * step n d)
  omega

/-- A quotient of the least positive number, rounded. -/
def ofQuotient (negative : Bool) (n d : Nat) : Double :=
  if h : round n d < twoPow 2098 then finite negative ⟨round n d, round_round n d, h⟩
  else infinite negative

/-- The number that is written with some digits and a power of ten. -/
def ofDecimal (negative : Bool) (digits : Nat) : Int → Double
  | .ofNat p => ofQuotient negative (digits * Nat.pow 10 p * one) 1
  | .negSucc p => ofQuotient negative (digits * one) (Nat.pow 10 (p + 1))

/-- The integer that a number is equal to. -/
def whole? : Double → Option Int
  | finite negative size =>
    if size.count % one = 0 then
      let n := Int.ofNat (size.count / one)
      some (if negative then -n else n)
    else none
  | _ => none

/-- The count of digits in front of the point, or of the zeros behind it, below zero. -/
def magnitude (count : Nat) : Int :=
  if one ≤ count then (Nat.toDigits 10 (count / one)).length
  else 1 - Int.ofNat (Nat.toDigits 10 ((one - 1) / count)).length

/-- The multiples of a power of ten on both sides of a number, the nearer one first. -/
def neighbours (count : Nat) (power : Int) : List Nat :=
  let (n, d) := match power with
    | .ofNat p => (count, one * Nat.pow 10 p)
    | .negSucc p => (count * Nat.pow 10 (p + 1), one)
  if roundDiv n d = n / d then [n / d, n / d + 1] else [n / d + 1, n / d]

/-- Digits that are read as a number, with the power of ten of the last one. Each step tries one
digit more; in the end all there are will do. -/
def shortest (size : Size) : Nat → Int → Nat × Int
  | 0, _ => (size.count * Nat.pow 5 halvings, -Int.ofNat halvings)
  | steps + 1, power =>
    match (neighbours size.count power).find? fun c =>
      ofDecimal false c power = finite false size with
    | some c => (c, power)
    | none => shortest size steps (power - 1)

/-- The digits that are printed, and how many of them stand in front of the point. -/
def digits (size : Size) : List Char × Int :=
  let (c, power) := shortest size 17 (magnitude size.count - 1)
  match Nat.toDigits 10 c with
  | [] => ([], power)
  | d :: ds =>
    (d :: (ds.reverse.dropWhile (· == '0')).reverse, Int.ofNat (d :: ds).length + power)

/-- The point where it belongs, with zeros up to it and a digit on each of its sides. -/
def positional (ds : List Char) (point : Int) : List Char :=
  if point ≤ 0 then '0' :: '.' :: (List.replicate (-point).toNat '0' ++ ds)
  else if ds.length ≤ point.toNat then
    ds ++ List.replicate (point.toNat - ds.length) '0' ++ ['.', '0']
  else ds.take point.toNat ++ '.' :: ds.drop point.toNat

/-- The point behind the first digit, and a power of ten. -/
def scientific (ds : List Char) (point : Int) : List Char :=
  let power := point - 1
  ds.take 1 ++ (if ds.length ≤ 1 then [] else '.' :: ds.drop 1) ++
    'e' :: (if power < 0 then '-' else '+') ::
      Text.Numeral.padZeros 2 (Nat.toDigits 10 power.natAbs)

/-- Numbers that are very large or very small have a power of ten. -/
def render (infinity nothing : String) : Double → String
  | finite negative size =>
    let (ds, point) := digits size
    let written := if -4 < point ∧ point ≤ 16 then positional ds point else scientific ds point
    String.ofList (if negative then '-' :: written else written)
  | infinite negative => if negative then "-" ++ infinity else infinity
  | undefined => nothing

end Double
end DeviceQualifier
