import DeviceQualifier.Proofs.Wire.Canonical

/-!
Where a record keeps what. `Field.place` gives each field its bytes, and `Stands` says how bytes
stand for what the field holds; neither knows of the order in which a record is written out. Every
record is `Laid` after this table, and the table leaves it no choice: `Laid.byteAt_congr` says that
a byte depends on the field at its place and on nothing else.
-/
namespace DeviceQualifier

/-- Some bytes of a record: where they start and how many there are. -/
structure Place where
  start : Nat
  size : Nat
  deriving DecidableEq, Repr

namespace Place

def Holds (p : Place) (i : Nat) : Prop := p.start ≤ i ∧ i < p.start + p.size

instance (p : Place) (i : Nat) : Decidable (p.Holds i) := inferInstanceAs (Decidable (_ ∧ _))

def bytes (p : Place) (data : List UInt8) : List UInt8 := Wire.slice data p.start p.size

end Place

/-- The bytes of each field. -/
def Field.place : Field → Place
  | number .mcc => ⟨4, 2⟩
  | number .mnc => ⟨6, 2⟩
  | text .language => ⟨8, 2⟩
  | text .region => ⟨10, 2⟩
  | number .orientation => ⟨12, 1⟩
  | number .touchscreen => ⟨13, 1⟩
  | number .density => ⟨14, 2⟩
  | number .keyboard => ⟨16, 1⟩
  | number .navigation => ⟨17, 1⟩
  | number .inputFlags => ⟨18, 1⟩
  | number .screenWidth => ⟨20, 2⟩
  | number .screenHeight => ⟨22, 2⟩
  | number .sdkVersion => ⟨24, 2⟩
  | number .minorVersion => ⟨26, 2⟩
  | number .screenLayout => ⟨28, 1⟩
  | number .uiMode => ⟨29, 1⟩
  | number .smallestScreenWidthDp => ⟨30, 2⟩
  | number .screenWidthDp => ⟨32, 2⟩
  | number .screenHeightDp => ⟨34, 2⟩
  | text .script => ⟨36, 4⟩
  | text .variant => ⟨40, 8⟩
  | number .screenLayout2 => ⟨48, 1⟩
  | number .colorMode => ⟨49, 1⟩

theorem Field.place_le (f : Field) : f.place.start + f.place.size ≤ 64 := by
  cases f with
  | number f => cases f <;> decide
  | text p => cases p <;> decide

namespace Wire

def littleEndian : List UInt8 → Nat
  | [] => 0
  | b :: rest => b.toNat + 256 * littleEndian rest

/-- The two numbers that stand for a code: its characters, filled up with zeros, or three distances
from a base under the flag of a packed code. -/
inductive Coded (base : Char) : List Char → List Nat → Prop
  | absent : Coded base [] [0, 0]
  | one {a} : Coded base [a] [a.toNat, 0]
  | two {a b} : Coded base [a, b] [a.toNat, b.toNat]
  | three {a b c first second third} (ha : a.toNat = base.toNat + first)
      (hb : b.toNat = base.toNat + second) (hc : c.toNat = base.toNat + third)
      (near : first < 32 ∧ second < 32 ∧ third < 32) :
      Coded base [a, b, c]
        [0x80 ||| third <<< 2 ||| second >>> 3, (second <<< 5 ||| first) &&& 0xFF]

/-- Characters, and zeros behind them. -/
def Padded (cs : List Char) (values : List Nat) : Prop :=
  ∃ zeros, values = cs.map Char.toNat ++ List.replicate zeros 0

/-- The bytes that stand for what a field holds. -/
inductive Stands : Field → Datum → List UInt8 → Prop
  | number {f n bytes} (h : (littleEndian bytes : Int) = n) :
      Stands (.number f) (.number n) bytes
  | language {code bytes} (h : Coded 'a' (chars code) (bytes.map UInt8.toNat)) :
      Stands (.text .language) (.text code) bytes
  | region {code bytes} (h : Coded '0' (chars code) (bytes.map UInt8.toNat)) :
      Stands (.text .region) (.text code) bytes
  | script {s bytes} (h : Padded (chars s) (bytes.map UInt8.toNat)) :
      Stands (.text .script) (.text s) bytes
  | variant {s bytes} (h : Padded (chars s) (bytes.map UInt8.toNat)) :
      Stands (.text .variant) (.text s) bytes

/-- A record with its size in front, every field at its place, and zeros everywhere else. -/
structure Laid (r : Config) (data : List UInt8) : Prop where
  length : data.length = 64
  size : littleEndian (Place.bytes ⟨0, 4⟩ data) = 64
  ascii : ∀ p, ∀ c ∈ chars (r.locale.part p), c.toNat < 128
  field : ∀ f, Stands f (r.field f) (f.place.bytes data)
  gap : byteAt data 19 = 0
  tail : data.drop 50 = List.replicate 14 0

theorem byteAt_slice (data : List UInt8) (start : Nat) {count i : Nat} (h : i < count) :
    byteAt (slice data start count) i = byteAt data (start + i) := by
  simp [byteAt, slice, List.getD_eq_getElem?_getD, h]

theorem byteAt_eq_of_place {p : Place} {xs ys : List UInt8} (h : p.bytes xs = p.bytes ys) {i : Nat}
    (hi : p.Holds i) : byteAt xs i = byteAt ys i := by
  obtain ⟨k, rfl⟩ := Nat.exists_eq_add_of_le hi.1
  have hk : k < p.size := Nat.lt_of_add_lt_add_left hi.2
  rw [← byteAt_slice xs p.start hk, ← byteAt_slice ys p.start hk]
  exact congrArg (byteAt · k) h

theorem length_bytes {p : Place} {data : List UInt8} (h : p.start + p.size ≤ data.length) :
    (p.bytes data).length = p.size := by
  rw [Place.bytes, slice, List.length_take, List.length_drop]
  omega

theorem littleEndian_injective {xs ys : List UInt8} (length : xs.length = ys.length)
    (h : littleEndian xs = littleEndian ys) : xs = ys := by
  induction xs generalizing ys with
  | nil => exact (List.length_eq_zero_iff.mp length.symm).symm
  | cons x xs ih =>
    cases ys with
    | nil => cases length
    | cons y ys =>
      have hx := x.toNat_lt
      have hy := y.toNat_lt
      simp only [littleEndian] at h
      have first : x.toNat = y.toNat := by omega
      have rest : littleEndian xs = littleEndian ys := by omega
      rw [UInt8.toNat_inj.mp first, ih (Nat.succ.inj length) rest]

theorem littleEndian_byte {data : List UInt8} {i : Nat} (h : i + 1 ≤ data.length) :
    (littleEndian (slice data i 1) : Int) = numberAt data i := by
  rw [slice_eq h]
  rfl

theorem littleEndian_word {data : List UInt8} {i : Nat} (h : i + 2 ≤ data.length) :
    (littleEndian (slice data i 2) : Int) = wordAt data i := by
  rw [slice_eq h]
  rfl

/-- A number is read from its place. -/
theorem get_parse {data : List UInt8} (h : 50 ≤ data.length) (f : NumField) :
    (littleEndian ((Field.number f).place.bytes data) : Int) = (parse data).get f := by
  cases f with
  | mcc | mnc | density | screenWidth | screenHeight | sdkVersion | minorVersion
  | smallestScreenWidthDp | screenWidthDp | screenHeightDp =>
    exact littleEndian_word (Nat.le_trans (by decide) h)
  | _ => exact littleEndian_byte (Nat.le_trans (by decide) h)

theorem Coded.unique {base : Char} {cs : List Char} {xs ys : List Nat} (h : Coded base cs xs)
    (h' : Coded base cs ys) : xs = ys := by
  cases h with
  | absent | one | two =>
    cases h'
    rfl
  | three ha hb hc =>
    cases h' with
    | three ha' hb' hc' =>
      cases Nat.add_left_cancel (ha.symm.trans ha')
      cases Nat.add_left_cancel (hb.symm.trans hb')
      cases Nat.add_left_cancel (hc.symm.trans hc')
      rfl

theorem Padded.unique {cs : List Char} {xs ys : List Nat} (h : Padded cs xs) (h' : Padded cs ys)
    (length : xs.length = ys.length) : xs = ys := by
  obtain ⟨n, rfl⟩ := h
  obtain ⟨m, rfl⟩ := h'
  simp only [List.length_append, List.length_replicate] at length
  rw [Nat.add_left_cancel length]

/-- What a field holds settles the bytes that stand for it. -/
theorem Stands.unique {f : Field} {d : Datum} {xs ys : List UInt8} (h : Stands f d xs)
    (h' : Stands f d ys) (length : xs.length = ys.length) : xs = ys := by
  have values (same : xs.map UInt8.toNat = ys.map UInt8.toNat) : xs = ys :=
    (List.map_inj_right fun _ _ => UInt8.toNat_inj.mp).mp same
  have lengths : (xs.map UInt8.toNat).length = (ys.map UInt8.toNat).length := by
    rwa [List.length_map, List.length_map]
  cases h with
  | number h =>
    cases h' with
    | number h' => exact littleEndian_injective length (Int.ofNat_inj.mp (h.trans h'.symm))
  | language h =>
    cases h' with
    | language h' => exact values (h.unique h')
  | region h =>
    cases h' with
    | region h' => exact values (h.unique h')
  | script h =>
    cases h' with
    | script h' => exact values (h.unique h' lengths)
  | variant h =>
    cases h' with
    | variant h' => exact values (h.unique h' lengths)

/-- Sums of parts that share no bit are their union. -/
theorem packDistances_bits {first second third : Nat}
    (near : first < 32 ∧ second < 32 ∧ third < 32) :
    (Code.packDistances first second third).map UInt8.toNat =
      [0x80 ||| third <<< 2 ||| second >>> 3, (second <<< 5 ||| first) &&& 0xFF] := by
  obtain ⟨hf, hs, ht⟩ := near
  have flagged : 0x80 + third * 4 = 0x80 ||| third * 4 :=
    Nat.two_pow_add_eq_or_of_lt (i := 7) (b := third * 4) (by omega) 1
  have high : 4 * (32 + third) + second / 8 = 4 * (32 + third) ||| second / 8 :=
    Nat.two_pow_add_eq_or_of_lt (i := 2) (b := second / 8) (by omega) (32 + third)
  have low : 32 * second + first = 32 * second ||| first :=
    Nat.two_pow_add_eq_or_of_lt (i := 5) (b := first) hf second
  have masked (n : Nat) : n &&& 0xFF = n % 256 := Nat.and_two_pow_sub_one_eq_mod n 8
  have first_byte : 0x80 ||| third <<< 2 ||| second >>> 3 = 0x80 + third * 4 + second / 8 := by
    rw [Nat.shiftLeft_eq, Nat.shiftRight_eq_div_pow]
    change 0x80 ||| third * 4 ||| second / 8 = _
    rw [← flagged, show 0x80 + third * 4 = 4 * (32 + third) by omega, ← high]
  have second_byte : (second <<< 5 ||| first) &&& 0xFF = second % 8 * 32 + first := by
    rw [Nat.shiftLeft_eq, masked]
    change (second * 32 ||| first) % 256 = _
    rw [Nat.mul_comm, ← low]
    omega
  rw [first_byte, second_byte, Code.packDistances, List.map_cons, List.map_cons, List.map_nil,
    UInt8.toNat_ofNat_of_lt' (by simp only [UInt8.size]; omega),
    UInt8.toNat_ofNat_of_lt' (by simp only [UInt8.size]; omega)]

theorem toNat_map_ofChar {cs : List Char} (ascii : ∀ c ∈ cs, c.toNat < 128) :
    (cs.map ofChar).map UInt8.toNat = cs.map Char.toNat := by
  rw [List.map_map]
  exact List.map_congr_left fun c hc => toNat_ofChar (ascii c hc)

/-- Bytes of a text stand in their slot with zeros behind them. -/
theorem padded_filled {width : Nat} {cs : List Char} (ascii : ∀ c ∈ cs, c.toNat < 128)
    (short : cs.length ≤ width) :
    Padded cs ((filled width (cs.map ofChar)).map UInt8.toNat) := by
  refine ⟨width - cs.length, ?_⟩
  rw [filled_eq (by rwa [List.length_map]), List.map_append, toNat_map_ofChar ascii,
    List.map_replicate, List.length_map]
  rfl

theorem coded_of_packBytes {base : Char} {text : String} {cs : List Char}
    (ascii : ∀ c ∈ cs, c.toNat < 128) (short : cs.length ≤ 3) {bytes : List UInt8}
    (h : Code.packBytes base text (cs.map ofChar) = .ok bytes) :
    Coded base cs (bytes.map UInt8.toNat) := by
  match cs, short with
  | [], _ =>
    cases h
    exact .absent
  | [a], _ =>
    cases h
    have ha := toNat_ofChar (ascii a (by simp))
    have bytes : (filled 2 [ofChar a]).map UInt8.toNat = [a.toNat, 0] := by
      simp [filled, List.range_succ, ha]
    exact bytes ▸ .one
  | [a, b], _ =>
    cases h
    have ha := toNat_ofChar (ascii a (by simp))
    have hb := toNat_ofChar (ascii b (by simp))
    have bytes : (filled 2 [ofChar a, ofChar b]).map UInt8.toNat = [a.toNat, b.toNat] := by
      simp [filled, List.range_succ, ha, hb]
    exact bytes ▸ .two
  | [a, b, c], _ =>
    simp only [List.map_cons, List.map_nil, Code.packBytes] at h
    split at h
    · rename_i first second third hfirst hsecond hthird
      cases h
      obtain ⟨ha, nearFirst⟩ := Code.distance?_eq_some hfirst
      obtain ⟨hb, nearSecond⟩ := Code.distance?_eq_some hsecond
      obtain ⟨hc, nearThird⟩ := Code.distance?_eq_some hthird
      rw [toNat_ofChar (ascii a (by simp))] at ha
      rw [toNat_ofChar (ascii b (by simp))] at hb
      rw [toNat_ofChar (ascii c (by simp))] at hc
      have near := And.intro nearFirst (And.intro nearSecond nearThird)
      rw [packDistances_bits near]
      exact .three ha.symm hb.symm hc.symm near
    · cases h

section Layout
variable (r : Config) (a b c d : UInt8) (script variant : List UInt8)

theorem texts_layout :
    (Field.text .language).place.bytes (layout r [a, b] [c, d] script variant) = [a, b] ∧
      (Field.text .region).place.bytes (layout r [a, b] [c, d] script variant) = [c, d] ∧
      (Field.text .script).place.bytes (layout r [a, b] [c, d] script variant) =
        filled Slot.script.width script ∧
      (Field.text .variant).place.bytes (layout r [a, b] [c, d] script variant) =
        filled Slot.variant.width variant := by
  delta layout word
  simp only [List.cons_append, List.nil_append, List.append_assoc]
  exact ⟨rfl, rfl, rfl, rfl⟩

theorem zeros_layout :
    byteAt (layout r [a, b] [c, d] script variant) 19 = 0 ∧
      (layout r [a, b] [c, d] script variant).drop 50 = List.replicate 14 0 := by
  delta layout word
  simp only [List.cons_append, List.nil_append, List.append_assoc]
  exact ⟨rfl, rfl⟩

theorem size_layout :
    littleEndian (Place.bytes ⟨0, 4⟩ (layout r [a, b] [c, d] script variant)) = 64 := by
  delta layout word
  simp only [List.cons_append, List.nil_append, List.append_assoc]
  rfl

end Layout

theorem laid_layout {r : Config} {l g s v : List UInt8}
    (hl : Code.pack languageBase r.locale.language = .ok l)
    (hg : Code.pack regionBase r.locale.region = .ok g)
    (hs : slotBytes .script r.locale.script = .ok s)
    (hv : slotBytes .variant r.locale.variant = .ok v) (fit : numbersFit r = true) :
    Laid r (layout r l g s v) := by
  obtain ⟨asciiLanguage, shortLanguage, packedLanguage⟩ := Code.packBytes_of_pack hl
  obtain ⟨asciiRegion, shortRegion, packedRegion⟩ := Code.packBytes_of_pack hg
  obtain ⟨asciiScript, shortScript, rawScript⟩ := slotBytes_eq_ok hs
  obtain ⟨asciiVariant, shortVariant, rawVariant⟩ := slotBytes_eq_ok hv
  obtain ⟨a, b, rfl, -⟩ := Code.unpackPair_pack (by decide) hl
  obtain ⟨c, d, rfl, -⟩ := Code.unpackPair_pack (by decide) hg
  obtain ⟨placeLanguage, placeRegion, placeScript, placeVariant⟩ := texts_layout r a b c d s v
  obtain ⟨gap, tail⟩ := zeros_layout r a b c d s v
  have length := length_layout r a b c d s v
  refine ⟨length, size_layout r a b c d s v, ?_, ?_, gap, tail⟩
  · intro p
    cases p with
    | language => exact asciiLanguage
    | region => exact asciiRegion
    | script => exact asciiScript
    | variant => exact asciiVariant
  · intro f
    cases f with
    | number f =>
      refine .number ((get_parse (by rw [length]; decide) f).trans ?_)
      rw [parse_layout r a b c d s v fit]
      cases f <;> rfl
    | text p =>
      cases p with
      | language =>
        rw [placeLanguage]
        exact .language (coded_of_packBytes asciiLanguage shortLanguage packedLanguage)
      | region =>
        rw [placeRegion]
        exact .region (coded_of_packBytes asciiRegion shortRegion packedRegion)
      | script =>
        rw [placeScript, rawScript]
        exact .script (padded_filled asciiScript shortScript)
      | variant =>
        rw [placeVariant, rawVariant]
        exact .variant (padded_filled asciiVariant shortVariant)

/-- Every byte up to the tail is part of the size, the gap, or in the place of a field. -/
theorem exists_place {i : Nat} (h : i < 50) (front : ¬Place.Holds ⟨0, 4⟩ i) (gap : i ≠ 19) :
    ∃ f : Field, f.place.Holds i := by
  have covered : ∀ i < 50, ¬Place.Holds ⟨0, 4⟩ i → i ≠ 19 →
      ∃ f ∈ Field.all, f.place.Holds i := by decide
  obtain ⟨f, -, hf⟩ := covered i h front gap
  exact ⟨f, hf⟩

/-- A byte of a record depends on the field at its place only. -/
theorem Laid.byteAt_congr {r q : Config} {xs ys : List UInt8} (hx : Laid r xs) (hy : Laid q ys)
    {i : Nat} (h : ∀ f : Field, f.place.Holds i → r.field f = q.field f) :
    byteAt xs i = byteAt ys i := by
  have length {p : Place} (hp : p.start + p.size ≤ 64) :
      (p.bytes xs).length = (p.bytes ys).length := by
    rw [length_bytes (by rwa [hx.length]), length_bytes (by rwa [hy.length])]
  by_cases front : Place.Holds ⟨0, 4⟩ i
  · apply byteAt_eq_of_place _ front
    exact littleEndian_injective (length (by decide)) (hx.size.trans hy.size.symm)
  by_cases gap : i = 19
  · rw [gap, hx.gap, hy.gap]
  by_cases tail : 50 ≤ i
  · obtain ⟨k, rfl⟩ := Nat.exists_eq_add_of_le tail
    have same := congrArg (byteAt · k) (hx.tail.trans hy.tail.symm)
    simpa [byteAt, List.getD_eq_getElem?_getD] using same
  · obtain ⟨f, hf⟩ := exists_place (Nat.lt_of_not_le tail) front gap
    apply byteAt_eq_of_place _ hf
    have standing := hx.field f
    rw [h f hf] at standing
    exact standing.unique (hy.field f) (length (Field.place_le f))

/-- **The places of a record.** Every record has its fields at their places, bit by bit, and zeros
where there is none. So when two configurations differ in one field only, their records differ only
in the place of that field. -/
theorem laid_of_write {r : Config} {bytes : List UInt8} (h : write r = .ok bytes) :
    Laid r bytes ∧ ∀ (q : Config) (again : List UInt8), write q = .ok again →
      ∀ f : Field, (∀ g, g ≠ f → q.field g = r.field g) →
        ∀ i, byteAt again i ≠ byteAt bytes i → f.place.Holds i := by
  have laid {r : Config} {bytes : List UInt8} (h : write r = .ok bytes) : Laid r bytes := by
    obtain ⟨l, hl, g, hg, s, hs, v, hv, fit, rfl⟩ := write_eq_ok_iff.mp h
    exact laid_layout hl hg hs hv fit
  refine ⟨laid h, ?_⟩
  intro q again hq f same i differ
  by_contra outside
  apply differ
  apply (laid hq).byteAt_congr (laid h)
  intro g hg
  apply same
  rintro rfl
  exact outside hg

/-- Another region moves two bytes at most; the language is packed next to it. -/
theorem laid_of_write_region :
    ∃ bytes again,
      write { Config.unspecified with
        density := 0xFFFE, locale := ⟨some "fil", some "419", none, some "1996"⟩ } = .ok bytes ∧
      write { Config.unspecified with
        density := 0xFFFE, locale := ⟨some "fil", some "PH", none, some "1996"⟩ } = .ok again ∧
      Laid { Config.unspecified with
        density := 0xFFFE, locale := ⟨some "fil", some "419", none, some "1996"⟩ } bytes ∧
      ∀ i, byteAt again i ≠ byteAt bytes i → 10 ≤ i ∧ i < 12 := by
  have first : write { Config.unspecified with
      density := 0xFFFE, locale := ⟨some "fil", some "419", none, some "1996"⟩ } = .ok _ := rfl
  have second : write { Config.unspecified with
      density := 0xFFFE, locale := ⟨some "fil", some "PH", none, some "1996"⟩ } = .ok _ := rfl
  obtain ⟨laid, differ⟩ := laid_of_write first
  refine ⟨_, _, first, second, laid, differ _ _ second (.text .region) ?_⟩
  intro g hg
  cases g with
  | number f => cases f <;> rfl
  | text p =>
    cases p with
    | region => exact absurd rfl hg
    | language | script | variant => rfl

end Wire
end DeviceQualifier
