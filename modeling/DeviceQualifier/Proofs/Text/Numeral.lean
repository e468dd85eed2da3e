import DeviceQualifier.Text.Hex

/-!
Numerals tell their numbers apart. The digits of a number give it back, in base ten and in base
sixteen, and zeros in front of them change nothing; so integers that differ are written differently,
`toString_injective` and `hexWord_injective`.
-/
namespace DeviceQualifier.Text.Numeral

/-- The number that digits in base sixteen stand for. -/
def hexValue (cs : List Char) : Nat :=
  cs.foldl (fun n c => 16 * n + (Hex.digitValue? c).getD 0) 0

theorem digitChar_upper : ∀ n < 16, (Nat.digitChar n).toUpper ∈ Hex.digitsUpper ∧
    Hex.digitValue? (Nat.digitChar n).toUpper = some n := by
  decide

theorem hexValue_concat (cs : List Char) (c : Char) :
    hexValue (cs ++ [c]) = 16 * hexValue cs + (Hex.digitValue? c).getD 0 := by
  simp [hexValue]

theorem hexDigitsUpper_of_lt {n : Nat} (h : n < 16) :
    hexDigitsUpper n = [(Nat.digitChar n).toUpper] := by
  rw [hexDigitsUpper, hexDigitsLower, Nat.toDigits_of_lt_base h, List.map_singleton]

theorem hexDigitsUpper_digit {m k : Nat} (hk : k < 16) (hm : 0 < m) :
    hexDigitsUpper (16 * m + k) = hexDigitsUpper m ++ [(Nat.digitChar k).toUpper] := by
  rw [← hexDigitsUpper_of_lt hk]
  simp only [hexDigitsUpper, hexDigitsLower]
  rw [← Nat.toDigits_append_toDigits (by decide) hm hk, List.map_append]

/-- The digits of a number stand for it. -/
theorem hexValue_hexDigitsUpper (n : Nat) : hexValue (hexDigitsUpper n) = n := by
  induction n using Nat.base_induction 16 (by decide) with
  | single m hm =>
    rw [hexDigitsUpper_of_lt hm]
    simp [hexValue, (digitChar_upper m hm).2]
  | digit m k hk hm ih =>
    rw [hexDigitsUpper_digit hk hm, hexValue_concat, ih, (digitChar_upper k hk).2, Option.getD_some]

theorem mem_hexDigitsUpper {n : Nat} {c : Char} (h : c ∈ hexDigitsUpper n) :
    c ∈ Hex.digitsUpper := by
  induction n using Nat.base_induction 16 (by decide) with
  | single m hm =>
    rw [hexDigitsUpper_of_lt hm, List.mem_singleton] at h
    rw [h]
    exact (digitChar_upper m hm).1
  | digit m k hk hm ih =>
    rw [hexDigitsUpper_digit hk hm, List.mem_append, List.mem_singleton] at h
    cases h with
    | inl h => exact ih h
    | inr h =>
      rw [h]
      exact (digitChar_upper k hk).1

theorem hexValue_padZeros (width : Nat) (cs : List Char) :
    hexValue (padZeros width cs) = hexValue cs := by
  unfold padZeros
  generalize width - cs.length = count
  induction count with
  | zero => rfl
  | succ count ih =>
    rw [List.replicate_succ, List.cons_append]
    exact ih

/-- How an integer is written, given how its amount is written with no sign and with one. -/
def signed (plain amount : Nat → List Char) : Int → List Char
  | .ofNat n => plain n
  | .negSucc n => '-' :: amount (n + 1)

/-- If amounts are told apart, and none looks like a sign, so are integers. -/
theorem signed_injective {plain amount : Nat → List Char} (hp : Function.Injective plain)
    (ha : Function.Injective amount) (unsigned : ∀ n, '-' ∉ plain n) :
    Function.Injective (signed plain amount) := by
  have apart (n k : Nat) : plain n ≠ '-' :: amount k := by
    intro same
    apply unsigned n
    rw [same]
    exact List.mem_cons_self
  intro m n same
  cases m with
  | ofNat m =>
    cases n with
    | ofNat n => rw [hp same]
    | negSucc n => exact absurd same (apart m (n + 1))
  | negSucc m =>
    cases n with
    | ofNat n => exact absurd same.symm (apart n (m + 1))
    | negSucc n => rw [Nat.succ.inj (ha (List.cons.inj same).2)]

theorem not_mem_signed {plain amount : Nat → List Char} {c : Char} (sign : c ≠ '-')
    (hp : ∀ n, c ∉ plain n) (ha : ∀ n, c ∉ amount n) (n : Int) : c ∉ signed plain amount n := by
  cases n with
  | ofNat n => exact hp n
  | negSucc n =>
    intro hc
    exact (List.mem_cons.mp hc).elim sign (ha (n + 1))

theorem toList_toString (n : Int) :
    (toString n).toList = signed (Nat.toDigits 10) (Nat.toDigits 10) n := by
  cases n with
  | ofNat n => exact Nat.toList_repr
  | negSucc n => exact String.toList_append.trans (congrArg _ Nat.toList_repr)

theorem toList_hexWord (n : Int) :
    (hexWord n).toList = signed (fun n => padZeros 2 (hexDigitsUpper n)) hexDigitsUpper n := by
  cases n with
  | ofNat n => exact String.toList_ofList
  | negSucc n => exact String.toList_ofList

theorem digitChar_ne_zero : ∀ n < 10, 0 < n → Nat.digitChar n ≠ '0' := by
  decide

theorem head?_toDigits {n : Nat} (pos : 0 < n) : (Nat.toDigits 10 n).head? ≠ some '0' := by
  induction n using Nat.base_induction 10 (by decide) with
  | single m hm =>
    rw [Nat.toDigits_of_lt_base hm, List.head?_cons]
    exact fun zero => digitChar_ne_zero m hm pos (Option.some.inj zero)
  | digit m k hk hm ih =>
    obtain ⟨d, ds, hd⟩ := List.exists_cons_of_ne_nil (@Nat.toDigits_ne_nil m 10)
    rw [← Nat.toDigits_append_toDigits (by decide) hm hk, hd, List.cons_append, List.head?_cons]
    rw [hd] at ih
    exact ih hm

theorem toDigits_injective : Function.Injective (Nat.toDigits 10) := by
  intro m n same
  rw [← @Nat.ofDigitChars_ten_toDigits m, same, Nat.ofDigitChars_ten_toDigits]

theorem isDigit_toDigits (n : Nat) : ∀ c ∈ Nat.toDigits 10 n, c.isDigit = true :=
  fun _ hc => Nat.isDigit_of_mem_toDigits (by decide) (by decide) hc

theorem not_mem_toDigits {c : Char} (h : c.isDigit = false) (n : Nat) : c ∉ Nat.toDigits 10 n := by
  intro digit
  rw [isDigit_toDigits n c digit] at h
  cases h

theorem toString_injective : Function.Injective (toString : Int → String) := by
  intro m n same
  have digits := congrArg String.toList same
  rw [toList_toString, toList_toString] at digits
  exact signed_injective toDigits_injective toDigits_injective (not_mem_toDigits rfl) digits

theorem not_mem_toString {c : Char} (sign : c ≠ '-') (h : c.isDigit = false) (n : Int) :
    c ∉ (toString n).toList := by
  rw [toList_toString]
  exact not_mem_signed sign (not_mem_toDigits h) (not_mem_toDigits h) n

theorem hexDigitsUpper_injective : Function.Injective hexDigitsUpper := by
  intro m n same
  rw [← hexValue_hexDigitsUpper m, same, hexValue_hexDigitsUpper]

theorem padZeros_hexDigitsUpper_injective (width : Nat) :
    Function.Injective fun n => padZeros width (hexDigitsUpper n) := by
  intro m n same
  have values := congrArg hexValue same
  rwa [hexValue_padZeros, hexValue_padZeros, hexValue_hexDigitsUpper,
    hexValue_hexDigitsUpper] at values

theorem not_mem_hexDigitsUpper {c : Char} (h : c ∉ Hex.digitsUpper) (n : Nat) :
    c ∉ hexDigitsUpper n :=
  fun digit => h (mem_hexDigitsUpper digit)

theorem not_mem_padZeros {c : Char} (h : c ∉ Hex.digitsUpper) (width n : Nat) :
    c ∉ padZeros width (hexDigitsUpper n) := by
  intro hc
  rcases List.mem_append.mp hc with zero | digit
  · rw [List.eq_of_mem_replicate zero] at h
    exact h (by decide)
  · exact not_mem_hexDigitsUpper h n digit

theorem hexWord_injective : Function.Injective hexWord := by
  intro m n same
  have digits := congrArg String.toList same
  rw [toList_hexWord, toList_hexWord] at digits
  exact signed_injective (padZeros_hexDigitsUpper_injective 2) hexDigitsUpper_injective
    (not_mem_padZeros (by decide) 2) digits

theorem not_mem_hexWord {c : Char} (sign : c ≠ '-') (h : c ∉ Hex.digitsUpper) (n : Int) :
    c ∉ (hexWord n).toList := by
  rw [toList_hexWord]
  exact not_mem_signed sign (not_mem_padZeros h 2) (not_mem_hexDigitsUpper h) n

end DeviceQualifier.Text.Numeral
