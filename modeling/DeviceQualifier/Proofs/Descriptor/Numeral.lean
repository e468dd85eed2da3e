import DeviceQualifier.Descriptor.Token
import DeviceQualifier.Proofs.Text.Plain

/-!
Numbers written in ASCII digits. The cut-off at five significant characters is made on the text,
before anything is counted; `readNumber_of_isDigits` says that it agrees with the value.
-/
namespace DeviceQualifier.Descriptor

/-- The value of a run of digits. -/
def decimal (cs : List Char) : Nat := Nat.ofDigitChars 10 cs 0

theorem ascii_of_isDigitChar {c : Char} (h : c.isDigit = true) : c.toNat < 128 :=
  Text.ascii_of_isDigit ((Text.isDigit_eq c).trans h)

theorem digit?_of_isDigit {c : Char} (h : c.isDigit = true) :
    Text.Numeral.digit? c = some (c.toNat - '0'.toNat) :=
  Text.forall_ascii
    (P := fun c => c.isDigit = true → Text.Numeral.digit? c = some (c.toNat - '0'.toNat))
    (by decide +kernel) (ascii_of_isDigitChar h) h

theorem isMargin_of_isDigit {c : Char} (h : c.isDigit = true) : Text.Numeral.isMargin c = false :=
  Text.forall_ascii (P := fun c => c.isDigit = true → Text.Numeral.isMargin c = false) (by decide)
    (ascii_of_isDigitChar h) h

theorem continueDigits_of_isDigit {cs : List Char} (h : ∀ c ∈ cs, c.isDigit = true) (acc : Nat) :
    Text.Numeral.continueDigits acc cs = some (Nat.ofDigitChars 10 cs acc) := by
  induction cs generalizing acc with
  | nil => rfl
  | cons c rest ih =>
    have hc := h c List.mem_cons_self
    have hr := ih fun d hd => h d (List.mem_cons_of_mem _ hd)
    have hu : c ≠ '_' := by
      rintro rfl
      cases hc
    rw [Text.Numeral.continueDigits, digit?_of_isDigit hc, Option.bind_some, hr,
      Nat.ofDigitChars_cons]
    · intro d ds he
      exact absurd he hu

theorem readInteger_of_isDigit {cs : List Char} (h : ∀ c ∈ cs, c.isDigit = true) (hne : cs ≠ []) :
    Text.Numeral.readInteger (String.ofList cs) = some (Int.ofNat (decimal cs)) := by
  have trimmed : Text.trimBy Text.Numeral.isMargin cs = cs :=
    Text.trimBy_eq_self fun c hc => isMargin_of_isDigit (h c hc)
  rw [Text.Numeral.readInteger, String.toList_ofList, trimmed]
  cases cs with
  | nil => exact absurd rfl hne
  | cons c rest =>
    have hc := h c List.mem_cons_self
    have hr := continueDigits_of_isDigit (fun d hd => h d (List.mem_cons_of_mem _ hd))
      (c.toNat - '0'.toNat)
    have value : Text.Numeral.readDigits (c :: rest) = some (decimal (c :: rest)) := by
      rw [Text.Numeral.readDigits, digit?_of_isDigit hc, Option.bind_some, hr, decimal,
        Nat.ofDigitChars_cons, Nat.mul_zero, Nat.zero_add]
    split
    · rename_i heq
      cases heq
      cases hc
    · rename_i heq
      cases heq
      cases hc
    · rw [value, Option.map_some]

/-- Leading zeros do not count. -/
theorem decimal_dropWhile (cs : List Char) : decimal (cs.dropWhile (· == '0')) = decimal cs := by
  induction cs with
  | nil => rfl
  | cons c rest ih =>
    by_cases hc : c = '0'
    · subst hc
      rw [List.dropWhile_cons_of_pos (by rfl), ih, decimal, decimal, Nat.ofDigitChars_cons]
      rfl
    · rw [List.dropWhile_cons_of_neg (by simpa using hc)]

theorem le_ofDigitChars (cs : List Char) (acc : Nat) : acc ≤ Nat.ofDigitChars 10 cs acc := by
  induction cs generalizing acc with
  | nil => exact Nat.le_of_eq Nat.ofDigitChars_nil.symm
  | cons c rest ih =>
    rw [Nat.ofDigitChars_cons]
    exact Nat.le_trans (by omega) (ih _)

theorem one_le_of_isDigit {c : Char} (h : c.isDigit = true) (h0 : c ≠ '0') :
    1 ≤ c.toNat - '0'.toNat :=
  Text.forall_ascii (P := fun c => c.isDigit = true → c ≠ '0' → 1 ≤ c.toNat - '0'.toNat)
    (by decide) (ascii_of_isDigitChar h) h h0

/-- The significant digits are digits, and the first of them is not zero. -/
theorem one_le_head_of_significant {cs rest : List Char} {c : Char}
    (h : ∀ c ∈ cs, c.isDigit = true) (hs : cs.dropWhile (· == '0') = c :: rest) :
    1 ≤ c.toNat - '0'.toNat := by
  have hc : c ∈ cs := List.dropWhile_subset _ (hs ▸ List.mem_cons_self)
  have h0 := List.head?_dropWhile_not (· == '0') cs
  rw [hs] at h0
  exact one_le_of_isDigit (h c hc) (by simpa using h0)

/-- More than five significant digits are too many for sixteen bits. -/
theorem decimal_large {cs : List Char} (h : ∀ c ∈ cs, c.isDigit = true)
    (hn : 5 < (cs.dropWhile (· == '0')).length) : 65535 < decimal cs := by
  rw [← decimal_dropWhile]
  match hs : cs.dropWhile (· == '0'), hn with
  | c :: c₁ :: c₂ :: c₃ :: c₄ :: c₅ :: rest, _ =>
    have hc := one_le_head_of_significant h hs
    have grows := le_ofDigitChars rest
    simp only [decimal, Nat.ofDigitChars_cons]
    exact Nat.lt_of_lt_of_le (by omega) (grows _)

/-- A run of digits is read by its value, whatever its length. -/
theorem readNumber_of_isDigits {cs : List Char} (h : isDigits cs = true) :
    readNumber (String.ofList cs) =
      .ok (if decimal cs ≤ 65535 then some (Int.ofNat (decimal cs)) else none) := by
  have hd : ∀ c ∈ cs, c.isDigit = true :=
    List.all_eq_true.mp (Bool.and_eq_true_iff.mp h).1
  have hs : ∀ c ∈ cs.dropWhile (· == '0'), c.isDigit = true :=
    fun c hc => hd c (List.dropWhile_subset _ hc)
  simp only [readNumber, String.toList_ofList]
  split
  · rename_i long
    rw [if_neg (Nat.not_le.mpr (decimal_large hd long))]
  · split
    · rename_i none_left
      have value := decimal_dropWhile cs
      rw [List.isEmpty_iff.mp none_left] at value
      rw [← value]
      rfl
    · rename_i some_left
      have hne : cs.dropWhile (· == '0') ≠ [] := fun he => some_left (List.isEmpty_iff.mpr he)
      rw [readInteger_of_isDigit hs hne, decimal_dropWhile]
      simp only [largest, Int.ofNat_eq_natCast]
      have bound : (decimal cs : Int) ≤ 0xFFFF ↔ decimal cs ≤ 65535 := by omega
      simp only [bound]

end DeviceQualifier.Descriptor
