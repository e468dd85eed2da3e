import DeviceQualifier.Proofs.Text.Plain
import DeviceQualifier.Wire.Record
import Mathlib.Data.List.Basic
import Mathlib.Data.List.GetD
import Mathlib.Data.List.TakeWhile

/-!
What a record gives back. Numbers come back as they were written; a text comes back up to its first
zero character, and as no text if nothing stands before it. The three ways of storing a text agree
on this.
-/
namespace DeviceQualifier.Wire

/-- The characters before the first zero, if there are any. -/
def upToZero (cs : List Char) : Option String :=
  match cs.takeWhile (·.toNat != 0) with
  | [] => none
  | used => some (String.ofList used)

/-- What a record keeps of a text. -/
def kept (text : Option String) : Option String := upToZero (text.getD "").toList

def keptLocale (l : Locale) : Locale :=
  ⟨kept l.language, kept l.region, kept l.script, kept l.variant⟩

/-- Text without zero characters is kept. -/
theorem kept_some {s : String} (hne : s ≠ "") (h : ∀ c ∈ s.toList, c.toNat ≠ 0) :
    kept (some s) = some s := by
  have all : s.toList.takeWhile (·.toNat != 0) = s.toList := by
    rw [List.takeWhile_eq_self_iff]
    intro c hc
    simpa using h c hc
  rw [kept, Option.getD_some, upToZero, all]
  split
  · rename_i he
    exact absurd (String.toList_eq_nil_iff.mp he) hne
  · rw [String.ofList_toList]

def ofChar (c : Char) : UInt8 := UInt8.ofNat c.toNat

theorem asciiChar_ofChar {c : Char} (h : c.toNat < 128) : asciiChar (ofChar c) = c :=
  Text.forall_ascii (P := fun c => asciiChar (ofChar c) = c) (by decide) h

theorem ofChar_ne_zero {c : Char} (h : c.toNat < 128) : (ofChar c != 0) = (c.toNat != 0) :=
  Text.forall_ascii (P := fun c => (ofChar c != 0) = (c.toNat != 0)) (by decide) h

theorem toNat_ofChar {c : Char} (h : c.toNat < 128) : (ofChar c).toNat = c.toNat :=
  Text.forall_ascii (P := fun c => (ofChar c).toNat = c.toNat) (by decide) h

theorem asciiBytes_eq_ok {slot : Slot} {text : String} {raw : List UInt8}
    (h : asciiBytes slot text = .ok raw) :
    (∀ c ∈ text.toList, c.toNat < 128) ∧ text.toList.length ≤ slot.width ∧
      raw = text.toList.map ofChar := by
  unfold asciiBytes at h
  simp only at h
  split at h
  · cases h
  · rename_i ascii
    split at h
    · cases h
    · rename_i short
      cases h
      refine ⟨fun c hc => ?_, Nat.le_of_not_lt short, rfl⟩
      simp only [Bool.not_eq_true, Bool.not_eq_false'] at ascii
      have := List.all_eq_true.mp ascii c hc
      simpa [isAscii] using this

theorem asciiBytes_ok {slot : Slot} {text : String} (ascii : ∀ c ∈ text.toList, c.toNat < 128)
    (short : text.toList.length ≤ slot.width) :
    asciiBytes slot text = .ok (text.toList.map ofChar) := by
  have all : text.toList.all isAscii = true := by
    rw [List.all_eq_true]
    intro c hc
    simpa [isAscii] using ascii c hc
  simp only [asciiBytes, all, Bool.not_true]
  rw [if_neg (by decide), if_neg (Nat.not_lt.mpr short)]
  rfl

theorem asciiBytes_error {slot : Slot} {text : String} {c : Char} (hc : c ∈ text.toList)
    (high : 128 ≤ c.toNat) : asciiBytes slot text = .error (.notAscii slot text) := by
  have some_high : text.toList.all isAscii = false := by
    rw [List.all_eq_false]
    exact ⟨c, hc, by simpa [isAscii] using high⟩
  simp only [asciiBytes, some_high, Bool.not_false]
  rfl

theorem map_asciiChar {cs : List Char} (h : ∀ c ∈ cs, c.toNat < 128) :
    (cs.map ofChar).map asciiChar = cs := by
  rw [List.map_map]
  exact Text.map_eq_self fun c hc => asciiChar_ofChar (h c hc)

theorem takeWhile_ofChar {cs : List Char} (h : ∀ c ∈ cs, c.toNat < 128) :
    (cs.map ofChar).takeWhile (· != 0) = (cs.takeWhile (·.toNat != 0)).map ofChar := by
  induction cs with
  | nil => rfl
  | cons c cs ih =>
    have hc := ofChar_ne_zero (h c List.mem_cons_self)
    have hcs := ih fun d hd => h d (List.mem_cons_of_mem _ hd)
    rw [List.map_cons, List.takeWhile_cons, List.takeWhile_cons, hc]
    cases c.toNat != 0
    · rfl
    · rw [if_pos rfl, if_pos rfl, List.map_cons, hcs]

theorem filled_eq {width : Nat} {raw : List UInt8} (h : raw.length ≤ width) :
    filled width raw = raw ++ List.replicate (width - raw.length) 0 := by
  apply List.ext_getElem
  · rw [length_filled, List.length_append, List.length_replicate]
    omega
  · intro i hi hj
    rw [length_filled] at hi
    simp only [filled, List.getElem_map, List.getElem_range]
    by_cases hr : i < raw.length
    · rw [List.getElem_append_left hr, List.getD_eq_getElem _ _ hr]
    · rw [List.getElem_append_right (Nat.le_of_not_lt hr), List.getElem_replicate,
        List.getD_eq_default _ _ (Nat.le_of_not_lt hr)]

theorem takeWhile_filled {width : Nat} {raw : List UInt8} (h : raw.length ≤ width) :
    (filled width raw).takeWhile (· != 0) = raw.takeWhile (· != 0) := by
  have zeros : (List.replicate (width - raw.length) (0 : UInt8)).takeWhile (· != 0) = [] := by
    cases width - raw.length <;> rfl
  rw [filled_eq h, List.takeWhile_append, zeros]
  split
  · rename_i all
    rw [List.append_nil]
    exact ((List.takeWhile_prefix _).eq_of_length all).symm
  · rfl

theorem slotText_ofChar {cs : List Char} (ascii : ∀ c ∈ cs, c.toNat < 128) {bytes : List UInt8}
    (h : bytes.takeWhile (· != 0) = (cs.takeWhile (·.toNat != 0)).map ofChar) :
    slotText bytes = upToZero cs := by
  have used : ∀ c ∈ cs.takeWhile (·.toNat != 0), c.toNat < 128 :=
    fun c hc => ascii c (List.takeWhile_subset _ hc)
  rw [slotText, upToZero, h]
  cases ht : cs.takeWhile (·.toNat != 0) with
  | nil => rfl
  | cons c rest =>
    rw [ht] at used
    exact congrArg some (congrArg String.ofList (map_asciiChar used))

/-- The characters of a text; absent text has none. -/
def chars (text : Option String) : List Char := (text.getD "").toList

theorem slotBytes_eq_ok {slot : Slot} {text : Option String} {raw : List UInt8}
    (h : slotBytes slot text = .ok raw) :
    (∀ c ∈ chars text, c.toNat < 128) ∧ (chars text).length ≤ slot.width ∧
      raw = (chars text).map ofChar := by
  cases text with
  | none =>
    cases h
    exact ⟨fun c hc => absurd hc List.not_mem_nil, Nat.zero_le _, rfl⟩
  | some s => exact asciiBytes_eq_ok h

/-- A slot gives back the text up to its first zero. -/
theorem slotText_filled {slot : Slot} {text : Option String} {raw : List UInt8}
    (h : slotBytes slot text = .ok raw) : slotText (filled slot.width raw) = kept text := by
  obtain ⟨ascii, short, rfl⟩ := slotBytes_eq_ok h
  apply slotText_ofChar ascii
  rw [takeWhile_filled (by rwa [List.length_map]), takeWhile_ofChar ascii]

namespace Code

theorem isPacked_ofChar {c : Char} (h : c.toNat < 128) : isPacked (ofChar c) = false :=
  Text.forall_ascii (P := fun c => isPacked (ofChar c) = false) (by decide) h

/-- Two bytes of ASCII give back the characters up to the first zero. -/
theorem unpackPair_ofChar (base : Char) {c d : Char} (hc : c.toNat < 128) (hd : d.toNat < 128) :
    unpackPair base (ofChar c) (ofChar d) = upToZero [c, d] := by
  have zero {c : Char} (hc : c.toNat < 128) : ofChar c = 0 ↔ c.toNat = 0 := by
    rw [← UInt8.toNat_inj, toNat_ofChar hc]
    rfl
  unfold unpackPair upToZero
  rw [isPacked_ofChar hc]
  by_cases hc0 : c.toNat = 0
  · simp [zero hc, hc0]
  · by_cases hd0 : d.toNat = 0 <;>
      simp [zero hc, zero hd, hc0, hd0, asciiChar_ofChar hc, asciiChar_ofChar hd]

/-- Up to two characters of ASCII are stored as they are. -/
theorem pack_short (base : Char) {s : String} (ascii : ∀ c ∈ s.toList, c.toNat < 128)
    (short : s.toList.length ≤ 2) :
    pack base (some s) = .ok (filled 2 (s.toList.map ofChar)) := by
  have fit : s.toList.length ≤ Slot.code.width := Nat.le_succ_of_le short
  simp only [pack, asciiBytes_ok ascii fit, Except.bind]
  unfold packBytes
  split
  · rename_i three
    have := congrArg List.length three
    rw [List.length_map, List.length_cons, List.length_cons, List.length_cons] at this
    omega
  · rfl

theorem distance?_eq_some {base : Char} {b : UInt8} {n : Nat} (h : distance? base b = some n) :
    base.toNat + n = b.toNat ∧ n < 32 := by
  unfold distance? at h
  split at h
  · cases h
    omega
  · cases h

theorem distance?_ofChar {base c : Char} (hc : c.toNat < 128) (low : base.toNat ≤ c.toNat)
    (near : c.toNat - base.toNat < 32) :
    distance? base (ofChar c) = some (c.toNat - base.toNat) := by
  rw [distance?, toNat_ofChar hc, if_pos ⟨low, near⟩]

/-- Three characters in reach of the base are stored as distances. -/
theorem pack_three {base : Char} {s : String} (ascii : ∀ c ∈ s.toList, c.toNat < 128)
    (three : s.toList.length = 3)
    (near : ∀ c ∈ s.toList, base.toNat ≤ c.toNat ∧ c.toNat - base.toNat < 32) :
    ∃ bytes, pack base (some s) = .ok bytes := by
  obtain ⟨a, b, c, hs⟩ := List.length_eq_three.mp three
  have distance {x : Char} (hx : x ∈ s.toList) :
      distance? base (ofChar x) = some (x.toNat - base.toNat) :=
    distance?_ofChar (ascii x hx) (near x hx).1 (near x hx).2
  have fit : s.toList.length ≤ Slot.code.width := Nat.le_of_eq three
  have ha := distance (x := a) (by simp [hs])
  have hb := distance (x := b) (by simp [hs])
  have hc := distance (x := c) (by simp [hs])
  refine ⟨packDistances (a.toNat - base.toNat) (b.toNat - base.toNat) (c.toNat - base.toNat), ?_⟩
  simp only [pack, asciiBytes_ok ascii fit, hs, Except.bind, List.map_cons, List.map_nil,
    packBytes, ha, hb, hc]

/-- Three distances come out of two bytes as they went in. -/
theorem unpackPair_packDistances (base : Char) {f s t : Nat} (hf : f < 32) (hs : s < 32)
    (ht : t < 32) :
    ∃ a b, packDistances f s t = [a, b] ∧ isPacked a = true ∧ unpackPair base a b =
      some (String.ofList ([f, s, t].map fun d => Char.ofNat (base.toNat + d))) := by
  have ha : (UInt8.ofNat (0x80 + t * 4 + s / 8)).toNat = 0x80 + t * 4 + s / 8 :=
    UInt8.toNat_ofNat_of_lt' (by simp only [UInt8.size]; omega)
  have hb : (UInt8.ofNat (s % 8 * 32 + f)).toNat = s % 8 * 32 + f :=
    UInt8.toNat_ofNat_of_lt' (by simp only [UInt8.size]; omega)
  have packed : isPacked (UInt8.ofNat (0x80 + t * 4 + s / 8)) = true := by
    rw [isPacked, decide_eq_true_eq, UInt8.le_iff_toNat_le, ha]
    exact Nat.le_trans (Nat.le_add_right 128 (t * 4)) (Nat.le_add_right _ _)
  refine ⟨_, _, rfl, packed, ?_⟩
  have first : (s % 8 * 32 + f) % 32 = f := by omega
  have second : (s % 8 * 32 + f) / 32 + (0x80 + t * 4 + s / 8) % 4 * 8 = s := by omega
  have third : (0x80 + t * 4 + s / 8) / 4 % 32 = t := by omega
  rw [unpackPair, if_pos packed, unpackDistances, ha, hb, first, second, third]

theorem ofNat_base {base : Char} {c : Char} (hc : c.toNat < 128) {n : Nat}
    (h : distance? base (ofChar c) = some n) : Char.ofNat (base.toNat + n) = c := by
  rw [(distance?_eq_some h).1, toNat_ofChar hc, Char.ofNat_toNat]

theorem upToZero_append_zero (cs : List Char) : upToZero (cs ++ ['\x00']) = upToZero cs := by
  have same : (cs ++ ['\x00']).takeWhile (·.toNat != 0) = cs.takeWhile (·.toNat != 0) := by
    rw [List.takeWhile_append]
    split
    · rename_i all
      rw [List.takeWhile_cons_of_neg (by decide), List.append_nil]
      exact ((List.takeWhile_prefix _).eq_of_length all).symm
    · rfl
  rw [upToZero, upToZero, same]

section Packed
variable {base : Char} {text : String} {bytes : List UInt8}

/-- Up to two characters are not packed and come back up to the first zero. -/
theorem unpackPair_of_short {cs : List Char} (ascii : ∀ c ∈ cs, c.toNat < 128)
    (short : cs.length ≤ 2) (h : packBytes base text (cs.map ofChar) = .ok bytes) :
    ∃ a b, bytes = [a, b] ∧ isPacked a = false ∧ unpackPair base a b = upToZero cs := by
  match cs, short with
  | [], _ =>
    cases h
    exact ⟨0, 0, rfl, rfl, rfl⟩
  | [c], _ =>
    cases h
    have low := ascii c List.mem_cons_self
    refine ⟨ofChar c, ofChar '\x00', rfl, isPacked_ofChar low, ?_⟩
    rw [unpackPair_ofChar base low (by decide)]
    exact upToZero_append_zero [c]
  | [c, d], _ =>
    cases h
    have low := ascii c List.mem_cons_self
    exact ⟨ofChar c, ofChar d, rfl, isPacked_ofChar low,
      unpackPair_ofChar base low (ascii d (by simp))⟩

/-- Three characters are none below the base, and come back as they are, also if they are zero. -/
theorem unpackPair_of_three {c d e : Char} (ascii : ∀ x ∈ [c, d, e], x.toNat < 128)
    (h : packBytes base text ([c, d, e].map ofChar) = .ok bytes) :
    ∃ a b, bytes = [a, b] ∧ isPacked a = true ∧
      unpackPair base a b = some (String.ofList [c, d, e]) ∧
      ∀ x ∈ [c, d, e], base.toNat ≤ x.toNat := by
  simp only [List.forall_mem_cons] at ascii
  obtain ⟨ascii_c, ascii_d, ascii_e, -⟩ := ascii
  simp only [List.map_cons, List.map_nil, packBytes] at h
  split at h
  · rename_i first second third hc hd he
    cases h
    obtain ⟨a, b, hab, packed, unpacked⟩ := unpackPair_packDistances base
      (distance?_eq_some hc).2 (distance?_eq_some hd).2 (distance?_eq_some he).2
    have above {x : Char} (hx : x.toNat < 128) {n : Nat}
        (h : distance? base (ofChar x) = some n) : base.toNat ≤ x.toNat := by
      have := (distance?_eq_some h).1
      rw [toNat_ofChar hx] at this
      omega
    refine ⟨a, b, hab, packed, ?_, ?_⟩
    · rw [unpacked, List.map_cons, List.map_cons, List.map_cons, List.map_nil,
        ofNat_base ascii_c hc, ofNat_base ascii_d hd, ofNat_base ascii_e he]
    · simp only [List.forall_mem_cons]
      exact ⟨above ascii_c hc, above ascii_d hd, above ascii_e he, List.forall_mem_nil _⟩
  · cases h

theorem unpackPair_packBytes (hbase : 0 < base.toNat) {cs : List Char}
    (ascii : ∀ c ∈ cs, c.toNat < 128) (fit : cs.length ≤ 3)
    (h : packBytes base text (cs.map ofChar) = .ok bytes) :
    ∃ a b, bytes = [a, b] ∧ unpackPair base a b = upToZero cs := by
  by_cases short : cs.length ≤ 2
  · obtain ⟨a, b, hab, -, unpacked⟩ := unpackPair_of_short ascii short h
    exact ⟨a, b, hab, unpacked⟩
  · obtain ⟨c, d, e, rfl⟩ := List.length_eq_three.mp (show cs.length = 3 by omega)
    obtain ⟨a, b, hab, -, unpacked, above⟩ := unpackPair_of_three ascii h
    refine ⟨a, b, hab, ?_⟩
    have visible : [c, d, e].takeWhile (·.toNat != 0) = [c, d, e] := by
      rw [List.takeWhile_eq_self_iff]
      intro x hx
      exact bne_iff_ne.mpr (Nat.ne_of_gt (Nat.lt_of_lt_of_le hbase (above x hx)))
    rw [unpacked, upToZero, visible]

end Packed

/-- A code that is packed is one of up to three ASCII characters. -/
theorem packBytes_of_pack {base : Char} {text : Option String} {bytes : List UInt8}
    (h : pack base text = .ok bytes) :
    (∀ c ∈ chars text, c.toNat < 128) ∧ (chars text).length ≤ 3 ∧
      packBytes base (text.getD "") ((chars text).map ofChar) = .ok bytes := by
  cases text with
  | none => exact ⟨fun c hc => absurd hc List.not_mem_nil, Nat.zero_le _, h⟩
  | some s =>
    simp only [pack] at h
    cases hraw : asciiBytes .code s with
    | error e =>
      rw [hraw] at h
      cases h
    | ok raw =>
      rw [hraw] at h
      obtain ⟨ascii, short, rfl⟩ := asciiBytes_eq_ok hraw
      exact ⟨ascii, short, h⟩

/-- Two bytes give back a code up to its first zero. -/
theorem unpackPair_pack {base : Char} (hbase : 0 < base.toNat) {text : Option String}
    {bytes : List UInt8} (h : pack base text = .ok bytes) :
    ∃ a b, bytes = [a, b] ∧ unpackPair base a b = kept text := by
  obtain ⟨ascii, short, h⟩ := packBytes_of_pack h
  exact unpackPair_packBytes hbase ascii short h

end Code

theorem toNat_byte {n : Int} (h : 0 ≤ n ∧ n < 0x100) : Int.ofNat (byte n).toNat = n := by
  have hn : (byte n).toNat = n.toNat :=
    UInt8.toNat_ofNat_of_lt' (by simp only [UInt8.size]; omega)
  rw [hn]
  exact Int.toNat_of_nonneg h.1

theorem toNat_word {n : Int} (h : 0 ≤ n ∧ n < 0x10000) :
    Int.ofNat ((UInt8.ofNat (n.toNat % 256)).toNat + 256 * (UInt8.ofNat (n.toNat / 256)).toNat) =
      n := by
  have low : (UInt8.ofNat (n.toNat % 256)).toNat = n.toNat % 256 :=
    UInt8.toNat_ofNat_of_lt' (by simp only [UInt8.size]; omega)
  have high : (UInt8.ofNat (n.toNat / 256)).toNat = n.toNat / 256 :=
    UInt8.toNat_ofNat_of_lt' (by simp only [UInt8.size]; omega)
  rw [low, high, Nat.mod_add_div]
  exact Int.toNat_of_nonneg h.1

theorem mem_numbers (f : NumField) : f ∈ numbers := by
  cases f <;> decide

theorem numbersFit_iff {r : Config} : numbersFit r = true ↔
    ∀ f, 0 ≤ r.get f ∧ r.get f < if isWide f then 0x10000 else 0x100 := by
  rw [numbersFit, List.all_eq_true]
  constructor
  · intro h f
    simpa [fits] using h f (mem_numbers f)
  · intro h f _
    simpa [fits] using h f

theorem read_eq_ok_iff {data : List UInt8} {r : Config} : read data = .ok r ↔
    leastSize ≤ sizeOf data ∧ sizeOf data ≤ data.length ∧
      parse (data.take (sizeOf data)) = r := by
  unfold read
  simp only
  split
  · constructor
    · intro h
      cases h
    · rintro ⟨least, most, -⟩
      omega
  · split
    · constructor
      · intro h
        cases h
      · rintro ⟨least, most, -⟩
        omega
    · rw [Except.ok.injEq]
      constructor
      · intro h
        exact ⟨by omega, by omega, h⟩
      · exact fun h => h.2.2

section Layout
variable (r : Config) (a b c d : UInt8) (script variant : List UInt8)

theorem length_layout : (layout r [a, b] [c, d] script variant).length = 64 := by
  delta layout word
  simp only [List.length_append, List.length_cons, List.length_nil, length_filled]

theorem sizeOf_layout : sizeOf (layout r [a, b] [c, d] script variant) = 64 := by
  delta layout word
  simp only [List.cons_append, List.nil_append, List.append_assoc]
  rfl

theorem parse_layout (h : numbersFit r = true) :
    parse (layout r [a, b] [c, d] script variant) = { r with
      locale := ⟨Code.unpackPair languageBase a b, Code.unpackPair regionBase c d,
        slotText (filled 4 script), slotText (filled 8 variant)⟩ } := by
  delta layout word
  simp only [List.cons_append, List.nil_append, List.append_assoc]
  apply Config.ext_fields
  · rfl
  · intro f
    have range := numbersFit_iff.mp h f
    cases f with
    | mcc | mnc | density | screenWidth | screenHeight | sdkVersion | minorVersion
    | smallestScreenWidthDp | screenWidthDp | screenHeightDp => exact toNat_word range
    | _ => exact toNat_byte range

theorem read_layout (h : numbersFit r = true) :
    read (layout r [a, b] [c, d] script variant) = .ok { r with
      locale := ⟨Code.unpackPair languageBase a b, Code.unpackPair regionBase c d,
        slotText (filled 4 script), slotText (filled 8 variant)⟩ } := by
  have size := sizeOf_layout r a b c d script variant
  have length := length_layout r a b c d script variant
  rw [read_eq_ok_iff, size, ← length, List.take_length, length]
  exact ⟨by decide, Nat.le_refl 64, parse_layout r a b c d _ _ h⟩

end Layout

theorem mapError_bind_eq_ok {ε δ α β : Type} {x : Except ε α} {g : ε → δ} {f : α → Except δ β}
    {b : β} : (x.mapError g >>= f) = .ok b ↔ ∃ a, x = .ok a ∧ f a = .ok b := by
  cases x with
  | error e => simp [Except.mapError, bind, Except.bind]
  | ok a => simp [Except.mapError, bind, Except.bind]

theorem write_eq_ok_iff {r : Config} {bytes : List UInt8} :
    write r = .ok bytes ↔ ∃ l, Code.pack languageBase r.locale.language = .ok l ∧
      ∃ g, Code.pack regionBase r.locale.region = .ok g ∧
      ∃ s, slotBytes .script r.locale.script = .ok s ∧
      ∃ v, slotBytes .variant r.locale.variant = .ok v ∧
      numbersFit r = true ∧ layout r l g s v = bytes := by
  simp only [write, mapError_bind_eq_ok]
  have last (l g s v : List UInt8) : (if numbersFit r = true then
      (.ok (layout r l g s v) : Except WriteFault (List UInt8)) else .error .number) = .ok bytes ↔
      numbersFit r = true ∧ layout r l g s v = bytes := by
    by_cases h : numbersFit r = true <;> simp [h]
  simp only [last]

/-- **What was written is read.** A record gives back its configuration, with every text up to its
first zero. -/
theorem read_of_write {r : Config} {bytes : List UInt8} (h : write r = .ok bytes) :
    read bytes = .ok { r with locale := keptLocale r.locale } := by
  obtain ⟨l, hl, g, hg, s, hs, v, hv, fit, rfl⟩ := write_eq_ok_iff.mp h
  obtain ⟨a, b, rfl, language⟩ := Code.unpackPair_pack (by decide) hl
  obtain ⟨c, d, rfl, region⟩ := Code.unpackPair_pack (by decide) hg
  rw [read_layout r a b c d s v fit, language, region, keptLocale, ← slotText_filled hs,
    ← slotText_filled hv]
  rfl

end DeviceQualifier.Wire
