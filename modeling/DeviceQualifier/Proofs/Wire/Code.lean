import DeviceQualifier.Proofs.Wire.Canonical
import DeviceQualifier.Proofs.Wire.Reload

/-!
Codes in two bytes, whatever the base is. Two bytes give back the code they were made of,
`restored`, so codes without zeros never share them. Two bytes that are packed are made again from
the three characters they hold, as long as these are ASCII.
-/
namespace DeviceQualifier.Wire.Code

/-- What two bytes give back of a code: three characters as they are, fewer up to the first zero. -/
def restored (code : Option String) : Option String :=
  if (chars code).length = 3 then code else kept code

theorem isPacked_iff {a : UInt8} : isPacked a = true ↔ 0x80 ≤ a := decide_eq_true_iff

/-- A code that has two bytes is packed into them just if it has three characters. -/
theorem exists_pair_of_pack {base : Char} {code : Option String} {bytes : List UInt8}
    (h : pack base code = .ok bytes) :
    ∃ a b, bytes = [a, b] ∧ (isPacked a = true ↔ (chars code).length = 3) ∧
      unpackPair base a b = restored code := by
  obtain ⟨ascii, fit, packed⟩ := packBytes_of_pack h
  unfold restored
  by_cases short : (chars code).length ≤ 2
  · obtain ⟨a, b, rfl, flag, unpacked⟩ := unpackPair_of_short ascii short packed
    refine ⟨a, b, rfl, iff_of_false ?_ (by omega), ?_⟩
    · rw [flag]
      decide
    · rw [if_neg (by omega), unpacked]
      rfl
  · have three : (chars code).length = 3 := by omega
    obtain ⟨c, d, e, hc⟩ := List.length_eq_three.mp three
    rw [hc] at ascii packed
    obtain ⟨a, b, rfl, flag, unpacked, -⟩ := unpackPair_of_three ascii packed
    refine ⟨a, b, rfl, iff_of_true flag three, ?_⟩
    rw [if_pos three, unpacked, ← hc]
    -- The characters are those of a text: three of them are not absent.
    cases code with
    | none => cases three
    | some s => rw [chars, Option.getD_some, String.ofList_toList]

/-- Nothing of a code is lost if it has characters and no zero among them. -/
theorem restored_some {s : String} (filled : s ≠ "") (visible : '\x00' ∉ s.toList) :
    restored (some s) = some s := by
  unfold restored
  split
  · rfl
  · exact (kept_eq_self_iff _).mpr fun t same => Option.some.inj same ▸ ⟨filled, visible⟩

/-- The characters at the three distances, as long as they are ASCII. -/
theorem toNat_unpacked {base : Char} {a b : UInt8}
    (ascii : ∀ d ∈ distances a b, base.toNat + d ≤ 0x7F) :
    ((distances a b).map fun d => Char.ofNat (base.toNat + d)).map Char.toNat =
      (distances a b).map (base.toNat + ·) := by
  rw [List.map_map]
  apply List.map_congr_left
  intro d hd
  exact toNat_ofNat_ascii (Nat.lt_succ_of_le (ascii d hd))

/-- **Codes in two bytes.** For any base, a code that has a wire form has two bytes, of which the
first has its high bit set just if the code has three characters. They give back three characters as
they are and fewer up to the first zero, so codes that have characters and no zeros differ in their
bytes as soon as they differ. Two bytes with the high bit set hold the characters at three distances
from the base, and are the wire form of these as long as all are ASCII. -/
theorem code_invertible (base : Char) :
    (∀ code bytes, pack base code = .ok bytes →
      ∃ a b, bytes = [a, b] ∧ (0x80 ≤ a ↔ (chars code).length = 3) ∧
        unpack base bytes = .ok (restored code)) ∧
    (∀ s t x y, s ≠ "" → '\x00' ∉ s.toList → t ≠ "" → '\x00' ∉ t.toList →
      pack base (some s) = .ok x → pack base (some t) = .ok y → s ≠ t → x ≠ y) ∧
    ∀ a b, 0x80 ≤ a → (∀ d ∈ distances a b, base.toNat + d ≤ 0x7F) →
      ∃ s, unpack base [a, b] = .ok (some s) ∧
        s.toList.map Char.toNat = (distances a b).map (base.toNat + ·) ∧
        pack base (some s) = .ok [a, b] := by
  refine ⟨?_, ?_, ?_⟩
  · intro code bytes h
    obtain ⟨a, b, rfl, flag, unpacked⟩ := exists_pair_of_pack h
    exact ⟨a, b, rfl, isPacked_iff.symm.trans flag, congrArg Except.ok unpacked⟩
  · rintro s t x _ filled visible filled' visible' hx hy differ rfl
    obtain ⟨a, b, rfl, -, unpacked⟩ := exists_pair_of_pack hx
    obtain ⟨_, _, same, -, unpacked'⟩ := exists_pair_of_pack hy
    cases same
    rw [unpacked, restored_some filled visible, restored_some filled' visible'] at unpacked'
    exact differ (Option.some.inj unpacked')
  · intro a b packed ascii
    have again := pack_unpackPair_of_packed packed fun d hd => Nat.lt_succ_of_le (ascii d hd)
    have text := unpackPair_of_packed base b packed
    rw [text] at again
    refine ⟨_, congrArg Except.ok text, ?_, again⟩
    rw [String.toList_ofList, toNat_unpacked ascii]

/-- Over the lowest base a code of three characters keeps its zeros. The start of a language has a
wire form of its own. The highest base that reaches no further than ASCII leaves all bits free. -/
theorem code_invertible_at_bounds :
    (∃ x, pack '\x00' (some "\x00\x1f\x00") = .ok x ∧
      unpack '\x00' x = .ok (some "\x00\x1f\x00")) ∧
    (∃ x y, pack 'a' (some "fil") = .ok x ∧ pack 'a' (some "fi") = .ok y ∧ x ≠ y) ∧
    (∀ d ∈ distances 0xFF 0xFF, (Char.ofNat 0x60).toNat + d ≤ 0x7F) ∧
    ∃ s, unpack (Char.ofNat 0x60) [0xFF, 0xFF] = .ok (some s) ∧
      s.toList.map Char.toNat = [0x7F, 0x7F, 0x7F] ∧
      pack (Char.ofNat 0x60) (some s) = .ok [0xFF, 0xFF] := by
  have reach : ∀ d ∈ distances 0xFF 0xFF, (Char.ofNat 0x60).toNat + d ≤ 0x7F := by decide
  refine ⟨⟨_, rfl, ?_⟩, ⟨_, _, rfl, rfl, ?_⟩, reach, ?_⟩
  · obtain ⟨a, b, -, -, unpacked⟩ :=
      (code_invertible '\x00').1 (some "\x00\x1f\x00") _ rfl
    exact unpacked
  · exact (code_invertible 'a').2.1 "fil" "fi" _ _ (by decide) (by decide) (by decide) (by decide)
      rfl rfl (by decide)
  · exact (code_invertible (Char.ofNat 0x60)).2.2 0xFF 0xFF (by decide) reach

end DeviceQualifier.Wire.Code
