import DeviceQualifier.Proofs.Config.Describable

/-!
What a configuration shows by name, and which document values are equal to it. The fields and the
views share no name, so a name shows one datum at most: `read?_eq_some_iff`.
-/
namespace DeviceQualifier

/-- A field, or a view of a packed word, under its name. -/
inductive Config.Shows (r : Config) : String → Datum → Prop
  | field (f : Field) : Shows r f.name (r.field f)
  | view (v : View) : Shows r v.name (.number (r.view v))

/-- A number as a count of the least positive one. -/
def Double.signed? : Double → Option Int
  | finite negative size => some (if negative then -Int.ofNat size.count else Int.ofNat size.count)
  | _ => none

/-- Numbers are equal by value, in whatever form they are written; absent text is equal to null. -/
inductive Datum.Equals : Datum → Value → Prop
  | int (n : Int) : Equals (.number n) (.int n)
  | bool (b : Bool) : Equals (.number (if b then 1 else 0)) (.bool b)
  | real {n : Int} {d : Double} (h : d.signed? = some (n * Int.ofNat Double.one)) :
      Equals (.number n) (.real d)
  | absent : Equals (.text none) .null
  | text (s : String) : Equals (.text (some s)) (.text s)

theorem Field.mem_all (f : Field) : f ∈ Field.all := by
  cases f with
  | number f => cases f <;> decide
  | text p => cases p <;> decide

theorem Field.named?_name : ∀ f ∈ Field.all, Field.named? f.name = some f := by
  decide +kernel

theorem View.named?_name : ∀ v ∈ View.all, View.named? v.name = some v := by
  decide +kernel

theorem View.name_ne_field : ∀ v ∈ View.all, Field.named? v.name = none := by
  decide +kernel

theorem Field.name_of_named? {name : String} {f : Field} (h : Field.named? name = some f) :
    f.name = name := by
  simpa using List.find?_some h

theorem View.name_of_named? {name : String} {v : View} (h : View.named? name = some v) :
    v.name = name := by
  simpa using List.find?_some h

namespace Config

theorem read?_eq_some_iff {r : Config} {name : String} {d : Datum} :
    r.read? name = some d ↔ r.Shows name d := by
  constructor
  · intro h
    unfold read? at h
    split at h
    · rename_i f hf
      cases h
      rw [← Field.name_of_named? hf]
      exact .field f
    · obtain ⟨v, hv, rfl⟩ := Option.map_eq_some_iff.mp h
      rw [← View.name_of_named? hv]
      exact .view v
  · intro h
    cases h with
    | field f => rw [read?, Field.named?_name f f.mem_all]
    | view v =>
      rw [read?, View.name_ne_field v v.mem_all, View.named?_name v v.mem_all]
      rfl

theorem Shows.unique {r : Config} {name : String} {d d' : Datum} (h : r.Shows name d)
    (h' : r.Shows name d') : d = d' :=
  Option.some.inj ((read?_eq_some_iff.mpr h).symm.trans (read?_eq_some_iff.mpr h'))

end Config

theorem mul_eq_ofNat_iff {n : Int} {unit digits : Nat} (pos : 0 < unit) :
    n * Int.ofNat unit = Int.ofNat digits ↔
      digits % unit = 0 ∧ n = Int.ofNat (digits / unit) := by
  simp only [Int.ofNat_eq_natCast]
  constructor
  · intro h
    have divides : (unit : Int) ∣ digits := ⟨n, by rw [← h, Int.mul_comm]⟩
    refine ⟨Nat.mod_eq_zero_of_dvd (Int.natCast_dvd_natCast.mp divides), ?_⟩
    rw [Int.natCast_ediv]
    exact (Int.ediv_eq_of_eq_mul_left (by omega) h.symm).symm
  · rintro ⟨divides, rfl⟩
    exact_mod_cast Nat.div_mul_cancel (Nat.dvd_of_mod_eq_zero divides)

theorem Double.whole?_eq_some_iff {d : Double} {n : Int} :
    d.whole? = some n ↔ d.signed? = some (n * Int.ofNat one) := by
  cases d with
  | infinite | undefined => exact iff_of_false nofun nofun
  | finite negative size =>
    have pos : 0 < one := twoPow_pos _
    simp only [whole?, signed?, Option.some.injEq]
    generalize one = unit at pos ⊢
    have whole (m : Int) := @mul_eq_ofNat_iff m unit size.count pos
    have turned : n * Int.ofNat unit = -Int.ofNat size.count ↔
        -n * Int.ofNat unit = Int.ofNat size.count := by
      rw [Int.neg_mul]
      omega
    rw [@eq_comm Int _ (n * Int.ofNat unit)]
    by_cases divides : size.count % unit = 0
    · rw [if_pos divides]
      cases negative with
      | false =>
        simp only [Bool.false_eq_true, if_false, whole, Option.some.injEq, divides, true_and]
        exact eq_comm
      | true =>
        simp only [if_true, turned, whole, Option.some.injEq, divides, true_and]
        omega
    · rw [if_neg divides]
      cases negative with
      | false =>
        simp only [Bool.false_eq_true, if_false, whole, reduceCtorEq, divides, false_and]
      | true => simp only [if_true, turned, whole, reduceCtorEq, divides, false_and]

theorem Datum.agrees_iff {d : Datum} {v : Value} : d.agrees v = true ↔ d.Equals v := by
  constructor
  · intro h
    cases d with
    | number n =>
      have hv : v.whole? = some n := by simpa [agrees] using h
      cases v with
      | bool b =>
        cases hv
        exact .bool b
      | int m =>
        cases hv
        exact .int n
      | real d => exact .real (Double.whole?_eq_some_iff.mp hv)
      | null | text | list | object => cases hv
    | text s =>
      cases s with
      | none =>
        cases v with
        | null => exact .absent
        | bool | int | real | text | list | object => cases h
      | some s =>
        cases v with
        | text t =>
          obtain rfl : s = t := by simpa [agrees] using h
          exact .text s
        | null | bool | int | real | list | object => cases h
  · intro h
    cases h with
    | int n => simp [agrees, Value.whole?]
    | bool b => simp [agrees, Value.whole?]
    | real h => simp [agrees, Value.whole?, Double.whole?_eq_some_iff.mpr h]
    | absent => rfl
    | text s => simp [agrees]

end DeviceQualifier
