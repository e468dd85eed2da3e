/-!
Unbounded integers as infinite rows of bits, in two's complement, and the masked write that every
packed word of a configuration goes through. `bit_setBits` says what a write leaves at each place.
-/
namespace DeviceQualifier.Bits

/-- The bit at place `i`. Below zero, `n` has the bits of `-n - 1` turned over. -/
def bit : Int → Nat → Bool
  | .ofNat n, i => n.testBit i
  | .negSucc n, i => !n.testBit i

/-- The bits of `a` at the places where `b` has none. -/
def without (a b : Nat) : Nat := a ^^^ (a &&& b)

def conj : Int → Int → Int
  | .ofNat a, .ofNat b => .ofNat (a &&& b)
  | .ofNat a, .negSucc b => .ofNat (without a b)
  | .negSucc a, .ofNat b => .ofNat (without b a)
  | .negSucc a, .negSucc b => .negSucc (a ||| b)

def disj (a b : Int) : Int := ~~~conj (~~~a) (~~~b)

/-- `word` with the places selected by `mask` taken from `value` and all others kept. -/
def setBits (word mask value : Int) : Int :=
  disj (conj word (~~~mask)) (conj value mask)

theorem testBit_without (a b i : Nat) :
    (without a b).testBit i = (a.testBit i && !b.testBit i) := by
  simp only [without, Nat.testBit_xor, Nat.testBit_and]
  cases a.testBit i <;> cases b.testBit i <;> rfl

theorem bit_not (a : Int) (i : Nat) : bit (~~~a) i = !bit a i := by
  cases a with
  | ofNat n => rfl
  | negSucc n => exact (Bool.not_not (n.testBit i)).symm

theorem bit_conj (a b : Int) (i : Nat) : bit (conj a b) i = (bit a i && bit b i) := by
  cases a <;> cases b <;>
    simp [conj, bit, testBit_without, Nat.testBit_and, Nat.testBit_or, Bool.and_comm]

theorem bit_disj (a b : Int) (i : Nat) : bit (disj a b) i = (bit a i || bit b i) := by
  simp [disj, bit_not, bit_conj]

theorem bit_setBits (word mask value : Int) (i : Nat) :
    bit (setBits word mask value) i = if bit mask i then bit value i else bit word i := by
  simp only [setBits, bit_disj, bit_conj, bit_not]
  cases bit mask i <;> simp

/-- An integer is the row of its bits. -/
theorem eq_of_bit_eq {a b : Int} (h : ∀ i, bit a i = bit b i) : a = b := by
  have apart (m n : Nat) : ∃ i, m.testBit i = n.testBit i := by
    refine ⟨m + n, ?_⟩
    rw [Nat.testBit_lt_two_pow, Nat.testBit_lt_two_pow]
    · exact Nat.lt_of_le_of_lt (Nat.le_add_left n m) Nat.lt_two_pow_self
    · exact Nat.lt_of_le_of_lt (Nat.le_add_right m n) Nat.lt_two_pow_self
  cases a with
  | ofNat m =>
    cases b with
    | ofNat n => exact congrArg Int.ofNat (Nat.eq_of_testBit_eq h)
    | negSucc n =>
      obtain ⟨i, hi⟩ := apart m n
      have := h i
      simp [bit, hi] at this
  | negSucc m =>
    cases b with
    | ofNat n =>
      obtain ⟨i, hi⟩ := apart m n
      have := h i
      simp [bit, hi] at this
    | negSucc n =>
      exact congrArg Int.negSucc (Nat.eq_of_testBit_eq fun i => by simpa [bit] using h i)

end DeviceQualifier.Bits
