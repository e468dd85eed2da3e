import DeviceQualifier.Proofs.Value.Double
import DeviceQualifier.Value.Printer
import DeviceQualifier.Value.Reader

/-!
Written numbers read back: an integer by its digits, `number?_toString`, and a finite number of
double precision with its point or its power of ten, `number?_render`.
-/
namespace DeviceQualifier.Value

open Reader

/-- What may stand behind a written value: nothing, a comma, or the end of the line. -/
def Ends (rest : List Char) : Prop := ∀ c, rest.head? = some c → c = ',' ∨ c = '\n'

section Parts
variable {ds fs es rest : List Char}

theorem digits?_append (digits : ∀ c ∈ ds, c.isDigit = true) (filled : ds ≠ [])
    (stop : ∀ c, rest.head? = some c → c.isDigit = false) :
    digits? (ds ++ rest) = some (ds, rest) := by
  have none : rest.takeWhile Char.isDigit = [] ∧ rest.dropWhile Char.isDigit = rest := by
    cases rest with
    | nil => exact ⟨rfl, rfl⟩
    | cons c rest =>
      have other : ¬c.isDigit = true := by simp [stop c rfl]
      exact ⟨List.takeWhile_cons_of_neg other, List.dropWhile_cons_of_neg other⟩
  rw [digits?, List.takeWhile_append_of_pos digits, List.dropWhile_append_of_pos digits, none.1,
    none.2, List.append_nil]
  simp [filled]

theorem fraction?_none (stop : rest.head? ≠ some '.') : fraction? rest = some ([], rest) := by
  unfold fraction?
  split
  · exact absurd rfl stop
  · rfl

theorem exponent?_none (small : rest.head? ≠ some 'e') (large : rest.head? ≠ some 'E') :
    exponent? rest = some (none, rest) := by
  unfold exponent?
  split
  · exact absurd rfl small
  · exact absurd rfl large
  · rfl

theorem isDigit_zeros (k : Nat) : ∀ c ∈ List.replicate k '0', c.isDigit = true := by
  intro c hc
  rw [List.eq_of_mem_replicate hc]
  rfl

theorem natOf_padZeros (width n : Nat) :
    natOf (Text.Numeral.padZeros width (Nat.toDigits 10 n)) = n := by
  rw [natOf, Text.Numeral.padZeros, Nat.ofDigitChars_append, Nat.ofDigitChars_replicate_zero,
    Nat.mul_zero]
  exact Nat.ofDigitChars_ten_toDigits

/-- Without a sign the number starts at once. -/
theorem number?_of_unsigned? {found : Value × List Char} (h : unsigned? false ds = some found) :
    number? ds = some found := by
  unfold number?
  split
  · cases h
  · exact h

variable (ends : Ends rest)
include ends

theorem Ends.other {c : Char} (h : rest.head? = some c) :
    c.isDigit = false ∧ c ≠ '.' ∧ c ≠ 'e' ∧ c ≠ 'E' := by
  rcases ends c h with rfl | rfl <;> decide

theorem Ends.exponent? : exponent? rest = some (none, rest) :=
  exponent?_none (fun h => (ends.other h).2.2.1 rfl) fun h => (ends.other h).2.2.2 rfl

theorem unsigned?_integer (negative : Bool) (digits : ∀ c ∈ ds, c.isDigit = true)
    (filled : ds ≠ []) (front : ds.head? = some '0' → ds.length = 1) :
    unsigned? negative (ds ++ rest) =
      some (int (if negative then -Int.ofNat (natOf ds) else Int.ofNat (natOf ds)), rest) := by
  have first := digits?_append digits filled fun c h => (ends.other h).1
  have second := fraction?_none fun h => (ends.other h).2.1 rfl
  have lead : ¬(ds.head? = some '0' ∧ ds.length ≠ 1) := fun h => h.2 (front h.1)
  simp [unsigned?, first, second, ends.exponent?, lead]

theorem unsigned?_point (negative : Bool) (digits : ∀ c ∈ ds ++ fs, c.isDigit = true)
    (filled : ds ≠ []) (front : ds.head? = some '0' → ds.length = 1) (places : fs ≠ []) :
    unsigned? negative (ds ++ '.' :: (fs ++ rest)) =
      some (real (Double.worth negative (ds ++ fs) ds.length), rest) := by
  obtain ⟨whole, part⟩ := List.forall_mem_append.mp digits
  have first : digits? (ds ++ '.' :: (fs ++ rest)) = some (ds, '.' :: (fs ++ rest)) := by
    apply digits?_append whole filled
    rintro c ⟨⟩
    rfl
  have second : fraction? ('.' :: (fs ++ rest)) = some (fs, rest) :=
    digits?_append part places fun c h => (ends.other h).1
  have lead : ¬(ds.head? = some '0' ∧ ds.length ≠ 1) := fun h => h.2 (front h.1)
  have power : (0 : Int) - Int.ofNat fs.length = (ds.length : Int) - (ds ++ fs).length := by
    rw [List.length_append, Int.ofNat_eq_natCast]
    omega
  simp only [unsigned?, first, second, ends.exponent?, if_neg lead, Option.bind_eq_bind,
    Option.bind_some, Option.getD_none, power]
  simp [places, Double.worth, natOf]

theorem digits?_padZeros (width n : Nat) :
    digits? (Text.Numeral.padZeros width (Nat.toDigits 10 n) ++ rest) =
      some (Text.Numeral.padZeros width (Nat.toDigits 10 n), rest) := by
  apply digits?_append
  · intro c hc
    rcases List.mem_append.mp hc with zero | digit
    · exact isDigit_zeros _ c zero
    · exact Text.Numeral.isDigit_toDigits n c digit
  · exact fun none => Nat.toDigits_ne_nil (List.append_eq_nil_iff.mp none).2
  · exact fun c h => (ends.other h).1

theorem Ends.exponent?_power (power : Int) :
    Reader.exponent? ('e' :: (if power < 0 then '-' else '+') ::
      (Text.Numeral.padZeros 2 (Nat.toDigits 10 power.natAbs) ++ rest)) =
      some (some power, rest) := by
  by_cases below : power < 0
  · have amount : -(power.natAbs : Int) = power := by omega
    rw [if_pos below]
    simp only [Reader.exponent?, power?, digits?_padZeros ends, Option.map_some, natOf_padZeros,
      Int.ofNat_eq_natCast, amount]
  · have amount : (power.natAbs : Int) = power := by omega
    rw [if_neg below]
    simp only [Reader.exponent?, power?, digits?_padZeros ends, Option.map_some, natOf_padZeros,
      Int.ofNat_eq_natCast, amount]

theorem unsigned?_power (negative : Bool) {d : Char} (digits : ∀ c ∈ d :: fs, c.isDigit = true)
    (power : Int) :
    unsigned? negative (d :: ((if fs = [] then [] else '.' :: fs) ++
      'e' :: (if power < 0 then '-' else '+') ::
        (Text.Numeral.padZeros 2 (Nat.toDigits 10 power.natAbs) ++ rest))) =
      some (real (Double.worth negative (d :: fs) (1 + power)), rest) := by
  obtain ⟨whole, part⟩ := List.forall_mem_cons.mp digits
  have last := ends.exponent?_power power
  have amount : power - Int.ofNat fs.length = 1 + power - (d :: fs).length := by
    rw [List.length_cons, Int.ofNat_eq_natCast]
    omega
  -- only the mark in front of the power matters for the digits and the places
  generalize (if power < 0 then '-' else '+') ::
    (Text.Numeral.padZeros 2 (Nat.toDigits 10 power.natAbs) ++ rest) = after at last
  have first : digits? (d :: ((if fs = [] then [] else '.' :: fs) ++ 'e' :: after)) =
      some ([d], (if fs = [] then [] else '.' :: fs) ++ 'e' :: after) := by
    apply @digits?_append [d] _ (List.forall_mem_singleton.mpr whole) nofun
    split <;> (rintro c ⟨⟩; rfl)
  have second : fraction? ((if fs = [] then [] else '.' :: fs) ++ 'e' :: after) =
      some (fs, 'e' :: after) := by
    split
    · rename_i none
      rw [none]
      rfl
    · rename_i places
      apply digits?_append part places
      rintro c ⟨⟩
      rfl
  simp only [unsigned?, first, second, last, Option.bind_eq_bind, Option.bind_some,
    Option.getD_some, amount]
  simp [Double.worth, natOf]

section Positional
variable (negative : Bool) {point : Int} (digits : ∀ c ∈ ds, c.isDigit = true) (filled : ds ≠ [])
include digits filled

/-- Zeros between the point and the digits. -/
theorem unsigned?_leading (low : point ≤ 0) :
    unsigned? negative ('0' :: '.' :: (List.replicate (-point).toNat '0' ++ ds ++ rest)) =
      some (real (Double.worth negative ds point), rest) := by
  have shown : ∀ c ∈ ['0'] ++ (List.replicate (-point).toNat '0' ++ ds), c.isDigit = true :=
    List.forall_mem_append.mpr
      ⟨isDigit_zeros 1, List.forall_mem_append.mpr ⟨isDigit_zeros _, digits⟩⟩
  have behind : (['0'].length : Int) = point + ((-point).toNat + 1 : Nat) := by
    rw [List.length_singleton]
    omega
  have places : List.replicate (-point).toNat '0' ++ ds ≠ [] := by simp [filled]
  have read := unsigned?_point ends negative shown nofun (fun _ => rfl) places
  rw [behind] at read
  rw [← Double.worth_front negative ds ((-point).toNat + 1) point]
  exact read

/-- Zeros between the digits and the point. -/
theorem unsigned?_trailing (lead : ds.head? ≠ some '0') (long : ds.length ≤ point.toNat) :
    unsigned? negative
        (ds ++ List.replicate (point.toNat - ds.length) '0' ++ ['.', '0'] ++ rest) =
      some (real (Double.worth negative ds point), rest) := by
  have shown : ∀ c ∈ ds ++ List.replicate (point.toNat - ds.length) '0' ++ ['0'],
      c.isDigit = true :=
    List.forall_mem_append.mpr
      ⟨List.forall_mem_append.mpr ⟨digits, isDigit_zeros _⟩, isDigit_zeros 1⟩
  have one : 0 < ds.length := List.length_pos_iff.mpr filled
  have behind : ((ds ++ List.replicate (point.toNat - ds.length) '0').length : Int) = point := by
    rw [List.length_append, List.length_replicate]
    omega
  have read := unsigned?_point ends negative shown (by simp [filled])
    (fun zero => absurd zero (by simpa [List.head?_append, filled] using lead)) nofun
  have value (k : Nat) : Double.worth negative (ds ++ List.replicate k '0' ++ ['0']) point =
      Double.worth negative ds point := by
    rw [List.append_assoc, ← List.replicate_succ', Double.worth_zeros]
  rw [behind, value] at read
  simpa using read

omit filled in
/-- The point among the digits. -/
theorem unsigned?_within (lead : ds.head? ≠ some '0') (high : 0 < point)
    (short : point.toNat < ds.length) :
    unsigned? negative (ds.take point.toNat ++ '.' :: ds.drop point.toNat ++ rest) =
      some (real (Double.worth negative ds point), rest) := by
  have shown : ∀ c ∈ ds.take point.toNat ++ ds.drop point.toNat, c.isDigit = true := by
    rwa [List.take_append_drop]
  have behind : ((ds.take point.toNat).length : Int) = point := by
    rw [List.length_take]
    omega
  have whole : ds.take point.toNat ≠ [] := by
    rw [← List.length_pos_iff]
    omega
  have part : ds.drop point.toNat ≠ [] := by
    rw [← List.length_pos_iff, List.length_drop]
    omega
  have lead' : (ds.take point.toNat).head? ≠ some '0' := by
    rwa [List.head?_take, if_neg (by omega)]
  have read := unsigned?_point ends negative shown whole (fun zero => absurd zero lead') part
  rw [behind, List.take_append_drop] at read
  simpa using read

theorem unsigned?_positional (front : ds.head? = some '0' → ds = ['0'] ∧ point = 0) :
    unsigned? negative (Double.positional ds point ++ rest) =
      some (real (Double.worth negative ds point), rest) := by
  unfold Double.positional
  split
  · rename_i low
    exact unsigned?_leading ends negative digits filled low
  · rename_i high
    have lead : ds.head? ≠ some '0' := fun zero => high (Int.le_of_eq (front zero).2)
    split
    · rename_i long
      exact unsigned?_trailing ends negative digits filled lead long
    · rename_i short
      exact unsigned?_within ends negative digits lead (by omega) (by omega)

theorem unsigned?_scientific :
    unsigned? negative (Double.scientific ds point ++ rest) =
      some (real (Double.worth negative ds point), rest) := by
  obtain ⟨d, fs, rfl⟩ := List.exists_cons_of_ne_nil filled
  have read := unsigned?_power ends negative digits (point - 1)
  rw [Int.add_comm 1, Int.sub_add_cancel] at read
  have single : (d :: fs).length ≤ 1 ↔ fs = [] := by simp
  simpa [Double.scientific, single] using read

end Positional

theorem number?_render (negative : Bool) (size : Double.Size) :
    number? ((Double.render "Infinity" "NaN" (.finite negative size)).toList ++ rest) =
      some (real (.finite negative size), rest) := by
  obtain ⟨digits, filled, worth, front⟩ := Double.printed_digits size
  simp only [Double.render, String.toList_ofList]
  generalize (Double.digits size).1 = ds at digits filled worth front ⊢
  generalize (Double.digits size).2 = point at worth front ⊢
  have read (negative : Bool) :
      unsigned? negative ((if -4 < point ∧ point ≤ 16 then Double.positional ds point
        else Double.scientific ds point) ++ rest) = some (real (.finite negative size), rest) := by
    rw [← Double.ofDecimal_sign worth negative]
    split
    · exact unsigned?_positional ends negative digits filled front
    · exact unsigned?_scientific ends negative digits filled
  cases negative with
  | true => exact read true
  | false => exact number?_of_unsigned? (read false)

theorem number?_toString (n : Int) :
    number? ((toString n).toList ++ rest) = some (int n, rest) := by
  have read (negative : Bool) (k : Nat) :
      unsigned? negative (Nat.toDigits 10 k ++ rest) =
        some (int (if negative then -Int.ofNat k else Int.ofNat k), rest) := by
    have front : (Nat.toDigits 10 k).head? = some '0' → (Nat.toDigits 10 k).length = 1 := by
      intro zero
      rcases Nat.eq_zero_or_pos k with rfl | pos
      · rfl
      · exact absurd zero (Text.Numeral.head?_toDigits pos)
    have value : natOf (Nat.toDigits 10 k) = k := Nat.ofDigitChars_ten_toDigits
    have shown := Text.Numeral.isDigit_toDigits k
    rw [unsigned?_integer ends negative shown Nat.toDigits_ne_nil front, value]
  rw [Text.Numeral.toList_toString]
  cases n with
  | ofNat k => exact number?_of_unsigned? (read false k)
  | negSucc k => exact read true (k + 1)

end Parts

end DeviceQualifier.Value
