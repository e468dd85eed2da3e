import DeviceQualifier.Proofs.Text.Numeral
import DeviceQualifier.Value.Double

/-!
The digits of a number of double precision. They are looked for by reading them, so they stand for
the number, `printed_digits`; where the point is put among them makes no difference to a reader,
since only the power of ten of the last digit counts.
-/
namespace DeviceQualifier.Double

theorem pow_pos (n : Nat) : 0 < Nat.pow 10 n := Nat.pow_pos (by decide)

/-- A quotient may be cancelled. -/
theorem ofQuotient_mul_mul (negative : Bool) {k : Nat} (pos : 0 < k) (n d : Nat) :
    ofQuotient negative (k * n) (k * d) = ofQuotient negative n d := by
  simp only [ofQuotient, round_mul_mul pos]

/-- Zeros behind the last digit can go over to the power. -/
theorem ofDecimal_mul_pow (negative : Bool) (n k : Nat) (power : Int) :
    ofDecimal negative (n * Nat.pow 10 k) power = ofDecimal negative n (power + k) := by
  cases power with
  | ofNat p =>
    have sum : Int.ofNat p + k = Int.ofNat (p + k) := rfl
    have powers : Nat.pow 10 (p + k) = Nat.pow 10 k * Nat.pow 10 p := by
      rw [Nat.add_comm]
      exact Nat.pow_add 10 k p
    rw [sum, ofDecimal, ofDecimal, powers, Nat.mul_assoc n]
  | negSucc p =>
    by_cases few : k ≤ p
    · have sum : Int.negSucc p + k = Int.negSucc (p - k) := by omega
      have powers : Nat.pow 10 (p + 1) = Nat.pow 10 k * Nat.pow 10 (p - k + 1) := by
        have parts : p + 1 = k + (p - k + 1) := by omega
        rw [parts]
        exact Nat.pow_add 10 k _
      rw [sum, ofDecimal, ofDecimal, powers, Nat.mul_comm n, Nat.mul_assoc,
        ofQuotient_mul_mul negative (pow_pos k)]
    · have sum : Int.negSucc p + k = Int.ofNat (k - (p + 1)) := by
        rw [Int.ofNat_eq_natCast]
        omega
      have powers : Nat.pow 10 k = Nat.pow 10 (p + 1) * Nat.pow 10 (k - (p + 1)) := by
        have parts : k = p + 1 + (k - (p + 1)) := by omega
        rw [parts, Nat.add_sub_cancel_left]
        exact Nat.pow_add 10 _ _
      have shared := ofQuotient_mul_mul negative (pow_pos (p + 1))
        (n * Nat.pow 10 (k - (p + 1)) * one) 1
      rw [Nat.mul_one] at shared
      rw [sum, ofDecimal, ofDecimal, ← shared, powers, Nat.mul_left_comm n, Nat.mul_assoc]

theorem ofQuotient_sign {n d : Nat} {size : Size} (h : ofQuotient false n d = finite false size)
    (negative : Bool) : ofQuotient negative n d = finite negative size := by
  unfold ofQuotient at h ⊢
  split at h
  · rename_i bounded
    rw [dif_pos bounded]
    cases h
    rfl
  · cases h

theorem ofDecimal_sign {n : Nat} {power : Int} {size : Size}
    (h : ofDecimal false n power = finite false size) (negative : Bool) :
    ofDecimal negative n power = finite negative size := by
  cases power <;> exact ofQuotient_sign h negative

theorem ofQuotient_count (negative : Bool) (size : Size) :
    ofQuotient negative size.count 1 = finite negative size := by
  obtain ⟨count, rounded, bounded⟩ := size
  simp only [ofQuotient, rounded, dif_pos bounded]

/-- With as many places as there are halvings, a number can be written out. -/
theorem ofDecimal_exact (size : Size) :
    ofDecimal false (size.count * Nat.pow 5 halvings) (-Int.ofNat halvings) =
      finite false size := by
  obtain ⟨p, places⟩ : ∃ p, halvings = p + 1 := ⟨1073, rfl⟩
  have unit : one = twoPow (p + 1) := congrArg twoPow places
  have sign : -Int.ofNat (p + 1) = Int.negSucc p := rfl
  have powers : Nat.pow 10 (p + 1) = Nat.pow 5 (p + 1) * twoPow (p + 1) := Nat.mul_pow 5 2 _
  have pos : 0 < Nat.pow 5 (p + 1) * twoPow (p + 1) := powers ▸ pow_pos (p + 1)
  have shared := ofQuotient_mul_mul false pos size.count 1
  rw [Nat.mul_one, ofQuotient_count] at shared
  rw [places, sign, ofDecimal, powers, unit, ← shared, Nat.mul_assoc, Nat.mul_comm size.count]

/-- Whatever digits are settled on, they are read as the number. -/
theorem ofDecimal_shortest (size : Size) (steps : Nat) (power : Int) :
    ofDecimal false (shortest size steps power).1 (shortest size steps power).2 =
      finite false size := by
  induction steps generalizing power with
  | zero =>
    exact ofDecimal_exact size
  | succ steps ih =>
    unfold shortest
    split
    · rename_i c found
      simpa using List.find?_some found
    · exact ih (power - 1)

/-- What digits stand for, the point behind some of them. -/
def worth (negative : Bool) (ds : List Char) (point : Int) : Double :=
  ofDecimal negative (Nat.ofDigitChars 10 ds 0) (point - ds.length)

theorem worth_zeros (negative : Bool) (ds : List Char) (k : Nat) (point : Int) :
    worth negative (ds ++ List.replicate k '0') point = worth negative ds point := by
  have value : Nat.ofDigitChars 10 (ds ++ List.replicate k '0') 0 =
      Nat.ofDigitChars 10 ds 0 * Nat.pow 10 k := by
    rw [Nat.ofDigitChars_append, Nat.ofDigitChars_replicate_zero, Nat.mul_comm]
    rfl
  have behind : point - ((ds.length + k : Nat) : Int) + k = point - ds.length := by omega
  rw [worth, worth, value, List.length_append, List.length_replicate, ofDecimal_mul_pow, behind]

theorem worth_front (negative : Bool) (ds : List Char) (k : Nat) (point : Int) :
    worth negative (List.replicate k '0' ++ ds) (point + k) = worth negative ds point := by
  have value : Nat.ofDigitChars 10 (List.replicate k '0' ++ ds) 0 = Nat.ofDigitChars 10 ds 0 := by
    rw [Nat.ofDigitChars_append, Nat.ofDigitChars_replicate_zero, Nat.mul_zero]
  have behind : point + k - ((k + ds.length : Nat) : Int) = point - ds.length := by omega
  rw [worth, worth, value, List.length_append, List.length_replicate, behind]

/-- The last of the digits can be zeros. -/
theorem exists_zeros (ds : List Char) :
    ∃ k, ds = (ds.reverse.dropWhile (· == '0')).reverse ++ List.replicate k '0' := by
  have zeros : ∀ c ∈ ds.reverse.takeWhile (· == '0'), c = '0' := by
    intro c hc
    simpa using List.all_eq_true.mp List.all_takeWhile c hc
  refine ⟨(ds.reverse.takeWhile (· == '0')).length, ?_⟩
  have whole := congrArg List.reverse (@List.takeWhile_append_dropWhile _ (· == '0') ds.reverse)
  rw [List.reverse_append, List.reverse_reverse, List.eq_replicate_of_mem zeros,
    List.reverse_replicate] at whole
  exact whole.symm

/-- The digits that are printed: they stand for the number, and have a zero in front only if they
are that zero. -/
structure Printed (size : Size) (ds : List Char) (point : Int) : Prop where
  digits : ∀ c ∈ ds, c.isDigit = true
  filled : ds ≠ []
  worth : worth false ds point = finite false size
  front : ds.head? = some '0' → ds = ['0'] ∧ point = 0

/-- Nothing but zero is read as zero. -/
theorem count_eq_zero {power : Int} {size : Size}
    (h : ofDecimal false 0 power = finite false size) : size.count = 0 := by
  have none (d : Nat) : ofQuotient false 0 d = finite false size → size.count = 0 := by
    have zero : round 0 d = 0 := by
      unfold round roundDiv
      generalize d * step 0 d = e
      rw [Nat.zero_mod, Nat.zero_div, if_pos (by omega), Nat.zero_mul]
    unfold ofQuotient
    split
    · rintro ⟨⟩
      exact zero
    · nofun
  cases power with
  | ofNat p =>
    rw [ofDecimal, Nat.zero_mul, Nat.zero_mul] at h
    exact none _ h
  | negSucc p =>
    rw [ofDecimal, Nat.zero_mul] at h
    exact none _ h

theorem shortest_zero {size : Size} (zero : size.count = 0) :
    shortest size 17 (magnitude size.count - 1) = (0, -1) := by
  have known : shortest ⟨0, by decide, twoPow_pos _⟩ 17 (magnitude 0 - 1) = (0, -1) := by
    decide +kernel
  obtain ⟨count, rounded, bounded⟩ := size
  cases zero
  exact known

theorem printed_digits (size : Size) : Printed size (digits size).1 (digits size).2 := by
  have read := ofDecimal_shortest size 17 (magnitude size.count - 1)
  have zero := @shortest_zero size
  unfold digits
  generalize shortest size 17 (magnitude size.count - 1) = found at read zero
  obtain ⟨c, power⟩ := found
  obtain ⟨d, ds, hd⟩ := List.exists_cons_of_ne_nil (@Nat.toDigits_ne_nil c 10)
  obtain ⟨k, trimmed⟩ := exists_zeros ds
  have value : Nat.ofDigitChars 10 (d :: ds) 0 = c := hd ▸ Nat.ofDigitChars_ten_toDigits
  have shown : ∀ x ∈ d :: ds, x.isDigit = true := by
    intro x hx
    rw [← hd] at hx
    exact Text.Numeral.isDigit_toDigits c x hx
  simp only [hd]
  refine ⟨?_, nofun, ?_, ?_⟩
  · intro x hx
    apply shown
    rw [trimmed, ← List.cons_append]
    exact List.mem_append_left _ hx
  · rw [← worth_zeros _ _ k, List.cons_append, ← trimmed, worth, value, Int.ofNat_eq_natCast,
      Int.add_comm, Int.add_sub_cancel]
    exact read
  · intro front
    obtain rfl : d = '0' := Option.some.inj front
    have none : c = 0 := by
      apply Nat.eq_zero_of_not_pos
      intro pos
      exact Text.Numeral.head?_toDigits pos (by rw [hd, List.head?_cons])
    subst none
    cases zero (count_eq_zero read)
    cases hd
    exact ⟨rfl, rfl⟩

end DeviceQualifier.Double
