import DeviceQualifier.Proofs.Wire.Places

/-!
How far a record is read. Its declared size decides whether it is read at all and has no say beyond
that: every field lies within the least size, so cutting a record to the size it declares takes
nothing away, and a field is read from its own place, whatever the other bytes are and however many
there are.
-/
namespace DeviceQualifier.Wire

/-- The size in front of a record. -/
def declared (data : List UInt8) : Nat := littleEndian (Place.bytes ⟨0, 4⟩ data)

theorem sizeOf_eq_declared {data : List UInt8} (h : 4 ≤ data.length) :
    sizeOf data = declared data := by
  rw [declared, Place.bytes, slice_eq (show 0 + 4 ≤ data.length from h)]
  rfl

theorem byteAt_take {data : List UInt8} {n i : Nat} (h : i < n) :
    byteAt (data.take n) i = byteAt data i := by
  simp [byteAt, List.getD_eq_getElem?_getD, h]

theorem parse_take {data : List UInt8} {n : Nat} (least : 50 ≤ n) (most : n ≤ data.length) :
    parse (data.take n) = parse data := by
  apply parse_congr
  · rw [List.length_take]
    omega
  · omega
  · intro i hi
    exact byteAt_take (by omega)

section Declared
variable {data : List UInt8} (long : 52 ≤ data.length)
include long

/-- The sizes that a record may declare. -/
theorem read_of_declared (least : 52 ≤ declared data) (most : declared data ≤ data.length) :
    read data = .ok (parse data) := by
  rw [← sizeOf_eq_declared (Nat.le_trans (by decide) long)] at least most
  exact read_eq_ok_iff.mpr ⟨least, most, parse_take (Nat.le_trans (by decide) least) most⟩

theorem read_of_wrong_size (wrong : ¬(52 ≤ declared data ∧ declared data ≤ data.length)) :
    read data = .error (.wrongSize (declared data) data.length) := by
  rw [← sizeOf_eq_declared (Nat.le_trans (by decide) long)] at wrong ⊢
  have refused : sizeOf data < leastSize ∨ data.length < sizeOf data := by
    have least : leastSize = 52 := rfl
    omega
  unfold read
  exact (if_neg (Nat.not_lt.mpr long)).trans (if_pos refused)

end Declared

theorem read_of_short {data : List UInt8} (short : data.length < 52) :
    read data = .error (.tooShort data.length) :=
  if_pos short

theorem read_eq_ok_iff_declared {data : List UInt8} {r : Config} :
    read data = .ok r ↔
      (52 ≤ data.length ∧ 52 ≤ declared data ∧ declared data ≤ data.length) ∧ parse data = r := by
  constructor
  · intro ok
    obtain ⟨least, most, -⟩ := read_eq_ok_iff.mp ok
    have long : 52 ≤ data.length := Nat.le_trans least most
    rw [sizeOf_eq_declared (Nat.le_trans (by decide) long)] at least most
    cases ok.symm.trans (read_of_declared long least most)
    exact ⟨⟨long, least, most⟩, rfl⟩
  · rintro ⟨⟨long, least, most⟩, rfl⟩
    exact read_of_declared long least most

/-- The fields keep clear of the size in front, of the gap, and of what follows byte 49. -/
theorem place_bounds (f : Field) : 4 ≤ f.place.start ∧
    (f.place.start + f.place.size ≤ 19 ∨
      20 ≤ f.place.start ∧ f.place.start + f.place.size ≤ 50) := by
  cases f with
  | number f => cases f <;> decide
  | text p => cases p <;> decide

section Agree
variable {xs ys : List UInt8} (hx : 50 ≤ xs.length) (hy : 50 ≤ ys.length)
include hx hy

/-- A field is read from its place alone. -/
theorem field_congr {f : Field} (h : ∀ i, f.place.Holds i → byteAt xs i = byteAt ys i) :
    (parse xs).field f = (parse ys).field f := by
  have bounds := place_bounds f
  have bytes : f.place.bytes xs = f.place.bytes ys :=
    slice_congr (by omega) (by omega) fun i low high => h i ⟨low, high⟩
  cases f with
  | number f =>
    have value := (get_parse hx f).symm.trans (bytes ▸ get_parse hy f)
    exact congrArg Datum.number value
  | text p =>
    -- codes are read from two bytes, the other texts from a slice
    cases p with
    | language =>
      have first := h 8 (by decide)
      have second := h 9 (by decide)
      simp only [Config.field, Locale.part, parse, first, second]
    | region =>
      have first := h 10 (by decide)
      have second := h 11 (by decide)
      simp only [Config.field, Locale.part, parse, first, second]
    | script => exact congrArg (fun b => Datum.text (slotText b)) bytes
    | variant => exact congrArg (fun b => Datum.text (slotText b)) bytes

end Agree

/-- **What is read of a record.** A record is read just if it has the least size and declares a size
from the least one to its own length; otherwise the fault says which of the two is wrong. Of two
records that are read, whatever they declare, a field is the same if the bytes at its place are. All
places lie within the least size, so nothing else of a record counts. -/
theorem read_extent :
    (∀ data : List UInt8,
      ((∃ r, read data = .ok r) ↔
        52 ≤ data.length ∧ 52 ≤ declared data ∧ declared data ≤ data.length) ∧
      ((¬∃ r, read data = .ok r) → read data = .error
        (if data.length < 52 then .tooShort data.length
          else .wrongSize (declared data) data.length))) ∧
    (∀ f : Field, f.place.start + f.place.size ≤ 52) ∧
    ∀ (xs ys : List UInt8) (r q : Config), read xs = .ok r → read ys = .ok q →
      (∀ f : Field, (∀ i, f.place.Holds i → byteAt xs i = byteAt ys i) → r.field f = q.field f) ∧
      ((∀ i, 4 ≤ i ∧ i ≤ 18 ∨ 20 ≤ i ∧ i ≤ 49 → byteAt xs i = byteAt ys i) → r = q) := by
  have accepted (data : List UInt8) : (∃ r, read data = .ok r) ↔
      52 ≤ data.length ∧ 52 ≤ declared data ∧ declared data ≤ data.length := by
    simp only [read_eq_ok_iff_declared, exists_and_left, exists_eq', and_true]
  refine ⟨fun data => ⟨accepted data, fun refused => ?_⟩, fun f => ?_, ?_⟩
  · rw [accepted] at refused
    by_cases short : data.length < 52
    · rw [if_pos short, read_of_short short]
    · have long : 52 ≤ data.length := Nat.le_of_not_lt short
      rw [if_neg short, read_of_wrong_size long fun h => refused ⟨long, h⟩]
  · have bounds := place_bounds f
    omega
  · intro xs ys r q hr hq
    obtain ⟨⟨longX, -⟩, rfl⟩ := read_eq_ok_iff_declared.mp hr
    obtain ⟨⟨longY, -⟩, rfl⟩ := read_eq_ok_iff_declared.mp hq
    have hx : 50 ≤ xs.length := Nat.le_trans (by decide) longX
    have hy : 50 ≤ ys.length := Nat.le_trans (by decide) longY
    refine ⟨fun f => field_congr hx hy, fun agree => parse_congr hx hy fun i hi => ?_⟩
    exact agree i (by omega)

/-- A record of the least size, and one that declares less than its length, with other bytes in the
gap and behind the fields. -/
theorem read_extent_padding :
    ∃ r, read ([52, 0, 0, 0] ++ List.replicate 15 7 ++ [0] ++ List.replicate 30 65 ++ [0, 0]) =
        .ok r ∧
      read ([60, 0, 0, 0] ++ List.replicate 15 7 ++ [9] ++ List.replicate 30 65 ++
        List.replicate 20 0xFF) = .ok r := by
  obtain ⟨acceptance, -, agreement⟩ := read_extent
  obtain ⟨r, hr⟩ := (acceptance ([52, 0, 0, 0] ++ List.replicate 15 7 ++ [0] ++
    List.replicate 30 65 ++ [0, 0])).1.mpr (by decide)
  obtain ⟨q, hq⟩ := (acceptance ([60, 0, 0, 0] ++ List.replicate 15 7 ++ [9] ++
    List.replicate 30 65 ++ List.replicate 20 0xFF)).1.mpr (by decide)
  have same : ∀ i < 50, 4 ≤ i ∧ i ≤ 18 ∨ 20 ≤ i ∧ i ≤ 49 →
      byteAt ([52, 0, 0, 0] ++ List.replicate 15 7 ++ [0] ++ List.replicate 30 65 ++ [0, 0]) i =
        byteAt ([60, 0, 0, 0] ++ List.replicate 15 7 ++ [9] ++ List.replicate 30 65 ++
          List.replicate 20 0xFF) i := by decide
  have equal := (agreement _ _ r q hr hq).2 fun i hi => same i (by omega) hi
  exact ⟨r, hr, equal ▸ hq⟩

end DeviceQualifier.Wire
