import DeviceQualifier.Value.Printer
import DeviceQualifier.Value.Reader

/-!
Written text reads back. A character is written as itself, behind a backslash, or by its units of
sixteen bits; the reader gets the units again and joins the two of a character beyond the first
plane, `text?_writeText`.
-/
namespace DeviceQualifier.Value

open Reader

/-- The units of a character. -/
def units (c : Char) : List Nat :=
  if c.toNat < 0x10000 then [c.toNat]
  else [0xD800 + (c.toNat - 0x10000) / 0x400, 0xDC00 + (c.toNat - 0x10000) % 0x400]

theorem padZeros_hexDigits (width : Nat) (pos : 0 < width) (n : Nat) :
    Text.Numeral.padZeros (width + 1) (Text.Numeral.hexDigitsLower n) =
      Text.Numeral.padZeros width (Text.Numeral.hexDigitsLower (n / 16)) ++
        [Nat.digitChar (n % 16)] := by
  unfold Text.Numeral.padZeros Text.Numeral.hexDigitsLower
  by_cases single : n < 16
  · have none : n / 16 = 0 := by omega
    obtain ⟨less, rfl⟩ : ∃ less, width = less + 1 := ⟨width - 1, by omega⟩
    rw [none, Nat.toDigits_of_lt_base single, Nat.mod_eq_of_lt single,
      Nat.toDigits_of_lt_base (by decide)]
    simp [List.replicate_succ']
  · rw [Nat.toDigits_of_base_le (by decide) (by omega), List.length_append, List.append_assoc]
    simp

theorem digitValue?_digitChar : ∀ n < 16, Text.Hex.digitValue? (Nat.digitChar n) = some n := by
  decide

/-- The four digits of a unit give it back. -/
theorem exists_unit {n : Nat} (h : n < 0x10000) :
    ∃ a b x y, unitEscape n = [backslash, 'u', a, b, x, y] ∧ unit? a b x y = some n := by
  refine ⟨Nat.digitChar (n / 16 / 16 / 16), Nat.digitChar (n / 16 / 16 % 16),
    Nat.digitChar (n / 16 % 16), Nat.digitChar (n % 16), ?_, ?_⟩
  · rw [unitEscape, padZeros_hexDigits 3 (by decide), padZeros_hexDigits 2 (by decide),
      padZeros_hexDigits 1 (by decide), Text.Numeral.hexDigitsLower,
      Nat.toDigits_of_lt_base (by omega)]
    rfl
  · simp only [unit?, digitValue?_digitChar _ (Nat.mod_lt _ (by decide : 0 < 16)),
      digitValue?_digitChar (n / 16 / 16 / 16) (by omega), Option.bind_eq_bind, Option.bind_some]
    exact congrArg some (by omega)

/-- The codes of some text behind those of its first character. -/
def ahead (codes : List Nat) : List Nat × List Char → List Nat × List Char :=
  fun (more, rest) => (codes ++ more, rest)

theorem textCodes_unit {n : Nat} (h : n < 0x10000) (rest : List Char) :
    textCodes (unitEscape n ++ rest) = (textCodes rest).map (ahead [n]) := by
  obtain ⟨a, b, x, y, escape, value⟩ := exists_unit h
  have step : textCodes (backslash :: 'u' :: a :: b :: x :: y :: rest) =
      (unit? a b x y).bind fun code => (textCodes rest).bind fun (codes, final) =>
        some (code :: codes, final) := rfl
  rw [escape]
  refine step.trans ?_
  rw [value, Option.bind_some, Option.map_eq_bind]
  rfl

theorem textCodes_simple {e : Char} {n : Nat} (h : simpleEscape? e = some n) (marked : e ≠ 'u')
    (rest : List Char) :
    textCodes (backslash :: e :: rest) = (textCodes rest).map (ahead [n]) := by
  have apart : backslash ≠ quote := by decide
  have step : textCodes (backslash :: e :: rest) =
      (simpleEscape? e).bind fun code => (textCodes rest).bind fun (codes, final) =>
        some (code :: codes, final) := by
    rw [textCodes.eq_def]
    simp only [if_neg apart, if_true]
    split
    · rename_i h
      cases h
      exact absurd rfl marked
    · rename_i h
      cases h
      rfl
    · rename_i h
      cases h
  rw [step, h, Option.bind_some, Option.map_eq_bind]
  rfl

theorem textCodes_plain {c : Char} (low : 0x20 ≤ c.toNat) (noQuote : c ≠ quote)
    (noEscape : c ≠ backslash) (rest : List Char) :
    textCodes (c :: rest) = (textCodes rest).map (ahead [c.toNat]) := by
  have high : ¬c.toNat < 0x20 := Nat.not_lt.mpr low
  rw [textCodes.eq_def]
  simp only [if_neg noQuote, if_neg noEscape, if_neg high, Option.map_eq_bind]
  rfl

theorem textCodes_quote (rest : List Char) : textCodes (quote :: rest) = some ([], rest) := by
  rw [textCodes.eq_def]
  simp

/-- A character is in the first plane, outside the units that come in pairs, or beyond it. -/
theorem toNat_cases (c : Char) :
    c.toNat < 0xD800 ∨ 0xDFFF < c.toNat ∧ c.toNat < 0x10000 ∨
      0x10000 ≤ c.toNat ∧ c.toNat < 0x110000 := by
  rcases c.valid with low | high
  · exact .inl low
  · obtain ⟨above, below⟩ : 0xDFFF < c.toNat ∧ c.toNat < 0x110000 := high
    omega

theorem textCodes_codeEscape (c : Char) (rest : List Char) :
    textCodes (codeEscape c.toNat ++ rest) = (textCodes rest).map (ahead (units c)) := by
  unfold codeEscape units
  by_cases first : c.toNat < 0x10000
  · rw [if_pos first, if_pos first, textCodes_unit first]
  · have bound : c.toNat < 0x110000 := by
      rcases toNat_cases c with low | high | high <;> omega
    rw [if_neg first, if_neg first, List.append_assoc, textCodes_unit (by omega),
      textCodes_unit (by omega), Option.map_map]
    rfl

theorem textCodes_escapeChar (c : Char) (rest : List Char) :
    textCodes (escapeChar c ++ rest) = (textCodes rest).map (ahead (units c)) := by
  have known {n : Nat} (h : c.toNat = n) : c = Char.ofNat n := by rw [← h, Char.ofNat_toNat]
  unfold escapeChar
  split
  case h_8 =>
    split
    · rename_i plain
      rw [units, if_pos (by omega)]
      refine textCodes_plain plain.1 ?_ ?_ rest
      · rintro rfl
        contradiction
      · rintro rfl
        contradiction
    · exact textCodes_codeEscape c rest
  all_goals
    rename_i code
    obtain rfl := known code
    exact textCodes_simple rfl (by decide) rest

/-- The units of a character are joined to the character. -/
theorem joinHalves_units (c : Char) (codes : List Nat) :
    joinHalves (units c ++ codes) = (joinHalves codes).map (c :: ·) := by
  unfold units
  by_cases first : c.toNat < 0x10000
  · have whole : isHighHalf c.toNat = false ∧ isLowHalf c.toNat = false := by
      simp only [isHighHalf, isLowHalf, Bool.and_eq_false_iff, decide_eq_false_iff_not]
      rcases toNat_cases c with low | high | high <;> omega
    rw [if_pos first, List.singleton_append, joinHalves.eq_def]
    simp [whole]
  · obtain ⟨beyond, bound⟩ : 0x10000 ≤ c.toNat ∧ c.toNat < 0x110000 := by
      rcases toNat_cases c with low | high | high <;> omega
    have high : isHighHalf (0xD800 + (c.toNat - 0x10000) / 0x400) = true := by
      simp only [isHighHalf, Bool.and_eq_true, decide_eq_true_eq]
      omega
    have low : isLowHalf (0xDC00 + (c.toNat - 0x10000) % 0x400) = true := by
      simp only [isLowHalf, Bool.and_eq_true, decide_eq_true_eq]
      omega
    have whole : 0x10000 + (0xD800 + (c.toNat - 0x10000) / 0x400 - 0xD800) * 0x400 +
        (0xDC00 + (c.toNat - 0x10000) % 0x400 - 0xDC00) = c.toNat := by
      omega
    rw [if_neg first, List.cons_append, List.singleton_append, joinHalves.eq_def]
    simp only [if_pos high, if_pos low, whole, Char.ofNat_toNat]

theorem textCodes_flatMap (cs rest : List Char) :
    textCodes (cs.flatMap escapeChar ++ quote :: rest) = some (cs.flatMap units, rest) := by
  induction cs with
  | nil => exact textCodes_quote rest
  | cons c cs ih =>
    rw [List.flatMap_cons, List.append_assoc, textCodes_escapeChar, ih, List.flatMap_cons]
    rfl

theorem joinHalves_flatMap (cs : List Char) : joinHalves (cs.flatMap units) = some cs := by
  induction cs with
  | nil => rfl
  | cons c cs ih => rw [List.flatMap_cons, joinHalves_units, ih, Option.map_some]

/-- Written text reads back, whatever stands behind its closing quote. -/
theorem text?_writeText (s : String) (rest : List Char) :
    ∃ body, (writeText s).toList ++ rest = quote :: body ∧ text? body = some (s, rest) := by
  refine ⟨s.toList.flatMap escapeChar ++ quote :: rest, ?_, ?_⟩
  · rw [writeText, String.toList_ofList]
    simp
  · simp [text?, textCodes_flatMap, joinHalves_flatMap]

end DeviceQualifier.Value
