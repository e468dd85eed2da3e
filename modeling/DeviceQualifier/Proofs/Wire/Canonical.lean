import DeviceQualifier.Proofs.Wire.RoundTrip

/-!
Reading a record and writing it again, for any bytes that are read at all. `Unwritable` lists the
bytes of which no text can be made, and `canonical` is what the others become: nothing is lost but
what follows the end of a text and what a record does not store.
-/
namespace DeviceQualifier.Wire

theorem byteAt_filled (width : Nat) (raw : List UInt8) (i : Nat) :
    byteAt (filled width raw) i = if i < width then byteAt raw i else 0 := by
  unfold byteAt
  by_cases h : i < width
  · rw [List.getD_eq_getElem _ _ (by rwa [length_filled]), if_pos h]
    simp [filled]
  · rw [List.getD_eq_default _ _ (by rw [length_filled]; omega), if_neg h]

/-- A slice that lies within some bytes holds the bytes at its places. -/
theorem slice_eq {data : List UInt8} {start count : Nat} (h : start + count ≤ data.length) :
    slice data start count = (List.range count).map fun i => byteAt data (start + i) := by
  apply List.ext_getElem
  · rw [slice, List.length_take, List.length_drop, List.length_map, List.length_range]
    omega
  · intro i hi hj
    rw [List.length_map, List.length_range] at hj
    simp only [slice, List.getElem_take, List.getElem_drop, List.getElem_map, List.getElem_range]
    exact (List.getD_eq_getElem data 0 (by omega)).symm

theorem slice_congr {xs ys : List UInt8} {start count : Nat} (hx : start + count ≤ xs.length)
    (hy : start + count ≤ ys.length)
    (h : ∀ i, start ≤ i → i < start + count → byteAt xs i = byteAt ys i) :
    slice xs start count = slice ys start count := by
  rw [slice_eq hx, slice_eq hy]
  apply List.map_congr_left
  intro i hi
  have := List.mem_range.mp hi
  exact h _ (by omega) (by omega)

/-- A configuration is read from the bytes at 4 to 18 and at 20 to 49 only. -/
theorem parse_congr {xs ys : List UInt8} (hx : 50 ≤ xs.length) (hy : 50 ≤ ys.length)
    (h : ∀ i, 4 ≤ i ∧ i < 19 ∨ 20 ≤ i ∧ i < 50 → byteAt xs i = byteAt ys i) :
    parse xs = parse ys := by
  have script : slice xs 36 4 = slice ys 36 4 :=
    slice_congr (by omega) (by omega) fun i _ _ => h i (by omega)
  have variant : slice xs 40 8 = slice ys 40 8 :=
    slice_congr (by omega) (by omega) fun i _ _ => h i (by omega)
  simp (disch := decide) only [parse, wordAt, numberAt, script, variant, h]

/-- The bytes that a record declares, brought to the full size: cut, or filled up with zeros. -/
def image (data : List UInt8) : List UInt8 := filled recordSize (data.take (sizeOf data))

theorem length_image (data : List UInt8) : (image data).length = 64 := length_filled _ _

theorem parse_image {data : List UInt8} (least : leastSize ≤ sizeOf data)
    (most : sizeOf data ≤ data.length) :
    parse (data.take (sizeOf data)) = parse (image data) := by
  have leastSize_eq : leastSize = 52 := rfl
  apply parse_congr
  · rw [List.length_take]
    omega
  · rw [length_image]
    decide
  · intro i hi
    have stored : i < recordSize := Nat.lt_of_lt_of_le (show i < 50 by omega) (by decide)
    rw [image, byteAt_filled, if_pos stored]

theorem numberAt_range (data : List UInt8) (i : Nat) :
    0 ≤ numberAt data i ∧ numberAt data i < 0x100 := by
  have := (byteAt data i).toNat_lt
  simp only [numberAt, Int.ofNat_eq_natCast]
  omega

theorem wordAt_range (data : List UInt8) (i : Nat) :
    0 ≤ wordAt data i ∧ wordAt data i < 0x10000 := by
  have low := (byteAt data i).toNat_lt
  have high := (byteAt data (i + 1)).toNat_lt
  simp only [wordAt, Int.ofNat_eq_natCast]
  omega

theorem numbersFit_parse (data : List UInt8) : numbersFit (parse data) = true := by
  rw [numbersFit_iff]
  intro f
  cases f with
  | mcc | mnc | density | screenWidth | screenHeight | sdkVersion | minorVersion
  | smallestScreenWidthDp | screenWidthDp | screenHeightDp =>
    exact wordAt_range data _
  | _ => exact numberAt_range data _

theorem byte_numberAt (data : List UInt8) (i : Nat) : byte (numberAt data i) = byteAt data i :=
  UInt8.ofNat_toNat

theorem word_wordAt (data : List UInt8) (i : Nat) :
    word (wordAt data i) = [byteAt data i, byteAt data (i + 1)] := by
  have low := (byteAt data i).toNat_lt
  have value : (wordAt data i).toNat =
      (byteAt data i).toNat + 256 * (byteAt data (i + 1)).toNat := rfl
  have first : ((byteAt data i).toNat + 256 * (byteAt data (i + 1)).toNat) % 256 =
      (byteAt data i).toNat := by omega
  have second : ((byteAt data i).toNat + 256 * (byteAt data (i + 1)).toNat) / 256 =
      (byteAt data (i + 1)).toNat := by omega
  rw [word, value, first, second, UInt8.ofNat_toNat, UInt8.ofNat_toNat]

/-- Numbers are written where they were read. -/
theorem layout_parse {data : List UInt8} (h : data.length = 64)
    (language region script variant : List UInt8) :
    layout (parse data) language region script variant =
      [64, 0, 0, 0] ++ slice data 4 4 ++ language ++ region ++ slice data 12 7 ++ [0] ++
        slice data 20 16 ++ filled 4 script ++ filled 8 variant ++ slice data 48 2 ++
        List.replicate 14 0 := by
  rw [slice_eq (show 4 + 4 ≤ data.length by omega), slice_eq (show 12 + 7 ≤ data.length by omega),
    slice_eq (show 20 + 16 ≤ data.length by omega), slice_eq (show 48 + 2 ≤ data.length by omega)]
  delta layout
  simp only [parse, word_wordAt, byte_numberAt, List.append_assoc]
  rfl

theorem toNat_ofNat_ascii {n : Nat} (h : n < 128) : (Char.ofNat n).toNat = n := by
  have all : ∀ n < 128, (Char.ofNat n).toNat = n := by decide
  exact all n h

theorem asciiChar_of_high {b : UInt8} (h : 0x80 ≤ b) : 128 ≤ (asciiChar b).toNat := by
  rw [asciiChar, if_neg (UInt8.not_lt.mpr h)]
  decide

/-- ASCII bytes make a text of ASCII characters, and the text has those bytes. -/
theorem map_ofChar {bytes : List UInt8} (low : ∀ b ∈ bytes, b < 0x80) :
    (∀ c ∈ bytes.map asciiChar, c.toNat < 128) ∧ (bytes.map asciiChar).map ofChar = bytes := by
  have value {b : UInt8} (hb : b ∈ bytes) : b.toNat < 128 ∧ (asciiChar b).toNat = b.toNat := by
    have small : b.toNat < 128 := UInt8.lt_iff_toNat_lt.mp (low b hb)
    rw [asciiChar, if_pos (low b hb)]
    exact ⟨small, toNat_ofNat_ascii small⟩
  constructor
  · intro c hc
    obtain ⟨b, hb, rfl⟩ := List.mem_map.mp hc
    rw [(value hb).2]
    exact (value hb).1
  · rw [List.map_map]
    apply Text.map_eq_self
    intro b hb
    rw [Function.comp_apply, ofChar, (value hb).2, UInt8.ofNat_toNat]

/-- The text of a slot is written as the bytes it was made of. -/
theorem slotBytes_slotText {slot : Slot} {bytes : List UInt8} (short : bytes.length ≤ slot.width)
    (low : ∀ b ∈ bytes.takeWhile (· != 0), b < 0x80) :
    slotBytes slot (slotText bytes) = .ok (bytes.takeWhile (· != 0)) := by
  have fits := Nat.le_trans (List.takeWhile_prefix (· != 0)).length_le short
  unfold slotText
  generalize bytes.takeWhile (· != 0) = used at low fits
  cases used with
  | nil => rfl
  | cons b rest =>
    obtain ⟨ascii, back⟩ := map_ofChar low
    simp only [slotBytes]
    rw [asciiBytes_ok, String.toList_ofList, back]
    · rwa [String.toList_ofList]
    · rwa [String.toList_ofList, List.length_map]

theorem slotBytes_slotText_error (slot : Slot) {bytes : List UInt8} {b : UInt8}
    (hb : b ∈ bytes.takeWhile (· != 0)) (high : 0x80 ≤ b) :
    ∃ text, slotBytes slot (slotText bytes) = .error (.notAscii slot text) := by
  unfold slotText
  generalize bytes.takeWhile (· != 0) = used at hb
  cases used with
  | nil => cases hb
  | cons d rest =>
    refine ⟨_, asciiBytes_error (c := asciiChar b) ?_ (asciiChar_of_high high)⟩
    rw [String.toList_ofList]
    exact List.mem_map_of_mem hb

namespace Code

/-- The three distances that two bytes hold, five bits each. -/
def distances (a b : UInt8) : List Nat :=
  [b.toNat % 32, b.toNat / 32 + a.toNat % 4 * 8, a.toNat / 4 % 32]

theorem lt_of_mem_distances {a b : UInt8} {d : Nat} (h : d ∈ distances a b) : d < 32 := by
  have ha := a.toNat_lt
  have hb := b.toNat_lt
  simp only [distances, List.mem_cons, List.not_mem_nil, or_false] at h
  rcases h with rfl | rfl | rfl <;> omega

theorem packDistances_distances {a b : UInt8} (packed : 0x80 ≤ a) :
    packDistances (b.toNat % 32) (b.toNat / 32 + a.toNat % 4 * 8) (a.toNat / 4 % 32) = [a, b] := by
  have ha := a.toNat_lt
  have hb := b.toNat_lt
  have flag : 128 ≤ a.toNat := UInt8.le_iff_toNat_le.mp packed
  have first : 0x80 + a.toNat / 4 % 32 * 4 + (b.toNat / 32 + a.toNat % 4 * 8) / 8 = a.toNat := by
    omega
  have second : (b.toNat / 32 + a.toNat % 4 * 8) % 8 * 32 + b.toNat % 32 = b.toNat := by omega
  rw [packDistances, first, second, UInt8.ofNat_toNat, UInt8.ofNat_toNat]

theorem distance?_ofNat {base : Char} {d : Nat} (ascii : base.toNat + d < 128) (near : d < 32) :
    distance? base (ofChar (Char.ofNat (base.toNat + d))) = some d := by
  have value := toNat_ofNat_ascii ascii
  rw [distance?_ofChar (by omega) (by omega) (by omega), value, Nat.add_sub_cancel_left]

theorem unpackPair_of_packed (base : Char) {a : UInt8} (b : UInt8) (packed : 0x80 ≤ a) :
    unpackPair base a b =
      some (String.ofList ((distances a b).map fun d => Char.ofNat (base.toNat + d))) :=
  if_pos (decide_eq_true packed)

/-- Three packed characters are packed into the same two bytes, as long as they are ASCII. -/
theorem pack_unpackPair_of_packed {base : Char} {a b : UInt8} (packed : 0x80 ≤ a)
    (ascii : ∀ d ∈ distances a b, base.toNat + d < 128) :
    pack base (unpackPair base a b) = .ok [a, b] := by
  have distance {d : Nat} (hd : d ∈ distances a b) :
      distance? base (ofChar (Char.ofNat (base.toNat + d))) = some d :=
    distance?_ofNat (ascii d hd) (lt_of_mem_distances hd)
  have chars : ∀ c ∈ (distances a b).map fun d => Char.ofNat (base.toNat + d),
      c.toNat < 128 := by
    intro c hc
    obtain ⟨d, hd, rfl⟩ := List.mem_map.mp hc
    rw [toNat_ofNat_ascii (ascii d hd)]
    exact ascii d hd
  have first := distance (d := b.toNat % 32) (by simp [distances])
  have second := distance (d := b.toNat / 32 + a.toNat % 4 * 8) (by simp [distances])
  have third := distance (d := a.toNat / 4 % 32) (by simp [distances])
  rw [unpackPair_of_packed base b packed]
  simp only [pack]
  rw [asciiBytes_ok (by rwa [String.toList_ofList])
    (by rw [String.toList_ofList]; exact Nat.le_refl 3), String.toList_ofList]
  simp only [distances, List.map_cons, List.map_nil, Except.bind, packBytes, first, second, third]
  rw [packDistances_distances packed]

/-- Two bytes of which the second counts only if the first is not zero. -/
def keptPair (a b : UInt8) : List UInt8 := if a = 0 then [0, 0] else [a, b]

/-- One or two characters are written as they were read, as long as they are ASCII. -/
theorem pack_unpackPair_of_plain (base : Char) {a b : UInt8} (ha : a < 0x80)
    (hb : a = 0 ∨ b < 0x80) : pack base (unpackPair base a b) = .ok (keptPair a b) := by
  have plain : isPacked a = false := decide_eq_false (UInt8.not_le.mpr ha)
  unfold unpackPair keptPair
  rw [if_neg (by rw [plain]; decide)]
  by_cases zero : a = 0
  · rw [if_pos zero, if_pos zero]
    rfl
  · have low : ∀ d ∈ [a, b].filter (· != 0), d < 0x80 := by
      intro d hd
      have either := (List.mem_filter.mp hd).1
      simp only [List.mem_cons, List.not_mem_nil, or_false] at either
      rcases either with rfl | rfl
      · exact ha
      · exact hb.resolve_left zero
    obtain ⟨ascii, back⟩ := map_ofChar low
    rw [if_neg zero, if_neg zero, pack_short base, String.toList_ofList, back]
    · by_cases empty : b = 0 <;> simp [zero, empty, Wire.filled, List.range_succ]
    · rwa [String.toList_ofList]
    · rw [String.toList_ofList, List.length_map]
      exact List.length_filter_le _ _

/-- A code that is read from ASCII is written again. -/
theorem pack_unpackPair {base : Char} {a b : UInt8}
    (packed : 0x80 ≤ a → ∀ d ∈ distances a b, base.toNat + d < 128)
    (plain : 0 < a → a < 0x80 → b < 0x80) :
    pack base (unpackPair base a b) = .ok (keptPair a b) := by
  by_cases h : 0x80 ≤ a
  · have nonzero : a ≠ 0 := by
      rintro rfl
      exact absurd h (by decide)
    rw [keptPair, if_neg nonzero]
    exact pack_unpackPair_of_packed h (packed h)
  · have low := UInt8.not_le.mp h
    apply pack_unpackPair_of_plain base low
    by_cases zero : a = 0
    · exact .inl zero
    · exact .inr (plain (UInt8.pos_iff_ne_zero.mpr zero) low)

theorem pack_error (base : Char) {s : String} {c : Char} (hc : c ∈ s.toList)
    (high : 128 ≤ c.toNat) : pack base (some s) = .error (.notAscii .code s) := by
  simp only [pack, asciiBytes_error hc high]
  rfl

theorem pack_unpackPair_of_high (base : Char) {a b : UInt8} (ha : 0 < a) (plain : a < 0x80)
    (hb : 0x80 ≤ b) : ∃ text, pack base (unpackPair base a b) = .error (.notAscii .code text) := by
  have unpacked : unpackPair base a b = some (String.ofList [asciiChar a, asciiChar b]) := by
    have first : a ≠ 0 := UInt8.pos_iff_ne_zero.mp ha
    have second : b ≠ 0 := by
      rintro rfl
      exact absurd hb (by decide)
    have packed : isPacked a = false := decide_eq_false (UInt8.not_le.mpr plain)
    simp [unpackPair, packed, first, second]
  rw [unpacked]
  refine ⟨_, pack_error base (c := asciiChar b) ?_ (asciiChar_of_high hb)⟩
  simp

end Code

/-- Not all bytes of a slot are ASCII up to the first zero. -/
def Illegible (bytes : List UInt8) : Prop := ∃ b ∈ bytes.takeWhile (· != 0), 0x80 ≤ b

/-- The bytes of a record that are read as text outside ASCII. Of the characters of a packed
language only the last in reach of five bits is not ASCII; those of a region all are. -/
def Unwritable (b : List UInt8) : Prop :=
  (0x80 ≤ byteAt b 8 ∧ 31 ∈ Code.distances (byteAt b 8) (byteAt b 9)) ∨
  (0 < byteAt b 8 ∧ byteAt b 8 < 0x80 ∧ 0x80 ≤ byteAt b 9) ∨
  (0 < byteAt b 10 ∧ byteAt b 10 < 0x80 ∧ 0x80 ≤ byteAt b 11) ∨
  Illegible (slice b 36 4) ∨ Illegible (slice b 40 8)

/-- A record with its own size, with zeros from the end of each text on, and with zeros wherever it
stores nothing. -/
def canonical (b : List UInt8) : List UInt8 :=
  [64, 0, 0, 0] ++ slice b 4 4 ++
  Code.keptPair (byteAt b 8) (byteAt b 9) ++ Code.keptPair (byteAt b 10) (byteAt b 11) ++
  slice b 12 7 ++ [0] ++ slice b 20 16 ++
  filled 4 ((slice b 36 4).takeWhile (· != 0)) ++ filled 8 ((slice b 40 8).takeWhile (· != 0)) ++
  slice b 48 2 ++ List.replicate 14 0

theorem write_of_texts {r : Config} {l g s v : List UInt8}
    (hl : Code.pack languageBase r.locale.language = .ok l)
    (hg : Code.pack regionBase r.locale.region = .ok g)
    (hs : slotBytes .script r.locale.script = .ok s)
    (hv : slotBytes .variant r.locale.variant = .ok v) (fit : numbersFit r = true) :
    write r = .ok (layout r l g s v) :=
  write_eq_ok_iff.mpr ⟨l, hl, g, hg, s, hs, v, hv, fit, rfl⟩

/-- A record whose bytes are all of texts and numbers becomes canonical. -/
theorem write_parse {b : List UInt8} (length : b.length = 64) (h : ¬Unwritable b) :
    write (parse b) = .ok (canonical b) := by
  simp only [Unwritable, Illegible, not_or, not_and, not_exists, UInt8.not_le] at h
  obtain ⟨packed, language, region, script, variant⟩ := h
  have hl : Code.pack languageBase (parse b).locale.language =
      .ok (Code.keptPair (byteAt b 8) (byteAt b 9)) := by
    apply Code.pack_unpackPair _ language
    intro high d hd
    have base : languageBase.toNat = 97 := rfl
    have near := Code.lt_of_mem_distances hd
    have reach : d ≠ 31 := fun he => packed high (he ▸ hd)
    omega
  have hg : Code.pack regionBase (parse b).locale.region =
      .ok (Code.keptPair (byteAt b 10) (byteAt b 11)) := by
    apply Code.pack_unpackPair _ region
    intro _ d hd
    have base : regionBase.toNat = 48 := rfl
    have near := Code.lt_of_mem_distances hd
    omega
  have hs : slotBytes .script (parse b).locale.script =
      .ok ((slice b 36 4).takeWhile (· != 0)) :=
    slotBytes_slotText (List.length_take_le 4 _) script
  have hv : slotBytes .variant (parse b).locale.variant =
      .ok ((slice b 40 8).takeWhile (· != 0)) :=
    slotBytes_slotText (List.length_take_le 8 _) variant
  rw [write_of_texts hl hg hs hv (numbersFit_parse b), layout_parse length, canonical]

/-- A fault in one of the texts is the fault of the record. -/
theorem write_text_error {r : Config} (h : ∀ l g s v,
    Code.pack languageBase r.locale.language = .ok l →
    Code.pack regionBase r.locale.region = .ok g →
    slotBytes .script r.locale.script = .ok s →
    slotBytes .variant r.locale.variant = .ok v → False) :
    ∃ fault, write r = .error (.text fault) := by
  unfold write
  cases hl : Code.pack languageBase r.locale.language with
  | error fault => exact ⟨fault, rfl⟩
  | ok l =>
    cases hg : Code.pack regionBase r.locale.region with
    | error fault => exact ⟨fault, rfl⟩
    | ok g =>
      cases hs : slotBytes .script r.locale.script with
      | error fault => exact ⟨fault, rfl⟩
      | ok s =>
        cases hv : slotBytes .variant r.locale.variant with
        | error fault => exact ⟨fault, rfl⟩
        | ok v => exact absurd hv (h l g s v hl hg hs)

theorem write_parse_error {b : List UInt8} (h : Unwritable b) :
    ∃ fault, write (parse b) = .error (.text fault) := by
  apply write_text_error
  intro l g s v hl hg hs hv
  rcases h with ⟨packed, reach⟩ | ⟨first, plain, high⟩ | ⟨first, plain, high⟩ | script | variant
  · have text : (parse b).locale.language = some (String.ofList
        ((Code.distances (byteAt b 8) (byteAt b 9)).map fun d =>
          Char.ofNat (languageBase.toNat + d))) := Code.unpackPair_of_packed languageBase _ packed
    have last : Char.ofNat (languageBase.toNat + 31) ∈
        (Code.distances (byteAt b 8) (byteAt b 9)).map fun d =>
          Char.ofNat (languageBase.toNat + d) := List.mem_map_of_mem reach
    rw [text, Code.pack_error languageBase (by rwa [String.toList_ofList]) (by decide)] at hl
    cases hl
  · obtain ⟨text, failed⟩ := Code.pack_unpackPair_of_high languageBase first plain high
    cases failed.symm.trans hl
  · obtain ⟨text, failed⟩ := Code.pack_unpackPair_of_high regionBase first plain high
    cases failed.symm.trans hg
  · obtain ⟨c, hc, high⟩ := script
    obtain ⟨text, failed⟩ := slotBytes_slotText_error .script hc high
    cases failed.symm.trans hs
  · obtain ⟨c, hc, high⟩ := variant
    obtain ⟨text, failed⟩ := slotBytes_slotText_error .variant hc high
    cases failed.symm.trans hv

/-- **What was read is written.** Of the bytes of any record that is read, either some are text
outside ASCII, and then the configuration has no record, or the configuration is written as the
canonical form of those bytes. -/
theorem write_of_read {data : List UInt8} {r : Config} (h : read data = .ok r) :
    ((∃ fault, write r = .error (.text fault)) ↔ Unwritable (image data)) ∧
      (¬Unwritable (image data) → write r = .ok (canonical (image data))) := by
  obtain ⟨least, most, rfl⟩ := read_eq_ok_iff.mp h
  rw [parse_image least most]
  have written := write_parse (length_image data)
  refine ⟨⟨fun ⟨fault, failed⟩ => ?_, write_parse_error⟩, written⟩
  by_contra writable
  cases failed.symm.trans (written writable)

/-- In a record of the least size the region has no first character, the variant ends after one, and
the gaps are not empty. -/
theorem write_of_read_least :
    ∃ r, read [52, 0, 0, 0, 1, 2, 3, 4, 0xE5, 6, 0, 8, 9, 10, 11, 12, 13, 14, 15, 16, 17, 18, 19,
        20, 21, 22, 23, 24, 25, 26, 27, 28, 29, 30, 31, 32, 33, 34, 35, 36, 37, 0, 39, 40, 41, 42,
        43, 44, 45, 46, 47, 48] = .ok r ∧
      write r = .ok ([64, 0, 0, 0, 1, 2, 3, 4, 0xE5, 6, 0, 0, 9, 10, 11, 12, 13, 14, 15, 0, 17, 18,
        19, 20, 21, 22, 23, 24, 25, 26, 27, 28, 29, 30, 31, 32, 33, 34, 35, 36, 37, 0, 0, 0, 0, 0,
        0, 0, 45, 46] ++ List.replicate 14 0) := by
  refine ⟨_, rfl, ?_⟩
  rw [(@write_of_read [52, 0, 0, 0, 1, 2, 3, 4, 0xE5, 6, 0, 8, 9, 10, 11, 12, 13, 14, 15, 16, 17,
    18, 19, 20, 21, 22, 23, 24, 25, 26, 27, 28, 29, 30, 31, 32, 33, 34, 35, 36, 37, 0, 39, 40, 41,
    42, 43, 44, 45, 46, 47, 48] _ rfl).2]
  · rfl
  · unfold Unwritable Illegible
    decide

end DeviceQualifier.Wire
