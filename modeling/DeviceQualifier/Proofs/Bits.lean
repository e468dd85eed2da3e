import DeviceQualifier.Bits

/-!
Masked writes: a write under the full mask replaces the word, one under the empty mask leaves it,
and writes under masks that share no place can change their order. After any history of writes each
place holds what the last write that selects it has there, `bit_foldl_apply`.
-/
namespace DeviceQualifier.Bits

theorem bit_neg_one (i : Nat) : bit (-1) i = true := by
  change (!Nat.testBit 0 i) = true
  rw [Nat.zero_testBit, Bool.not_false]

theorem bit_zero (i : Nat) : bit 0 i = false := Nat.zero_testBit i

theorem setBits_neg_one (word value : Int) : setBits word (-1) value = value := by
  apply eq_of_bit_eq
  intro i
  rw [bit_setBits, bit_neg_one, if_pos rfl]

theorem setBits_zero (word value : Int) : setBits word 0 value = word := by
  apply eq_of_bit_eq
  intro i
  simp [bit_setBits, bit_zero]

/-- Only what stands under the mask is taken from a value. -/
theorem setBits_setBits (word other mask value : Int) :
    setBits word mask (setBits other mask value) = setBits word mask value := by
  apply eq_of_bit_eq
  intro i
  simp only [bit_setBits]
  split <;> rfl

theorem not_bit_of_conj_eq_zero {m n : Int} (apart : conj m n = 0) {i : Nat}
    (hm : bit m i = true) : bit n i = false := by
  have hi := bit_conj m n i
  rw [apart, bit_zero, hm, Bool.true_and] at hi
  exact hi.symm

theorem setBits_comm {m n : Int} (apart : conj m n = 0) (word a b : Int) :
    setBits (setBits word m a) n b = setBits (setBits word n b) m a := by
  apply eq_of_bit_eq
  intro i
  simp only [bit_setBits]
  cases hm : bit m i with
  | false => simp
  | true => simp [not_bit_of_conj_eq_zero apart hm]

theorem setBits_idem (word mask value : Int) :
    setBits (setBits word mask value) mask value = setBits word mask value := by
  apply eq_of_bit_eq
  intro i
  simp only [bit_setBits]
  split <;> rfl

/-- A write shows under its own mask with no more than its value has there. -/
theorem conj_setBits (word mask value : Int) :
    conj (setBits word mask value) mask = conj value mask := by
  apply eq_of_bit_eq
  intro i
  simp only [bit_conj, bit_setBits]
  cases bit mask i <;> simp

/-- A write does not show under a mask that shares no place with its own. -/
theorem conj_setBits_of_apart {m n : Int} (apart : conj m n = 0) (word value : Int) :
    conj (setBits word m value) n = conj word n := by
  apply eq_of_bit_eq
  intro i
  simp only [bit_conj, bit_setBits]
  cases hm : bit m i with
  | false => simp
  | true => simp [not_bit_of_conj_eq_zero apart hm]

/-- A value to be written under a mask. -/
structure MaskedWrite where
  mask : Int
  value : Int

namespace MaskedWrite

def apply (word : Int) (w : MaskedWrite) : Int := setBits word w.mask w.value

/-- The last write that selects a place. -/
def lastAt (i : Nat) (writes : List MaskedWrite) : Option MaskedWrite :=
  writes.reverse.find? fun w => bit w.mask i

theorem lastAt_cons (i : Nat) (w : MaskedWrite) (writes : List MaskedWrite) :
    lastAt i (w :: writes) = (lastAt i writes).or (if bit w.mask i then some w else none) := by
  simp only [lastAt, List.reverse_cons, List.find?_append, List.find?_singleton]

theorem bit_foldl_apply (word : Int) (writes : List MaskedWrite) (i : Nat) :
    bit (writes.foldl apply word) i =
      (lastAt i writes).elim (bit word i) fun w => bit w.value i := by
  induction writes generalizing word with
  | nil => rfl
  | cons w writes ih =>
    rw [List.foldl_cons, ih, lastAt_cons]
    cases lastAt i writes with
    | some later => rfl
    | none =>
      rw [Option.none_or, Option.elim_none, apply, bit_setBits]
      by_cases selected : bit w.mask i = true
      · rw [if_pos selected, if_pos selected, Option.elim_some]
      · rw [if_neg selected, if_neg selected, Option.elim_none]

end MaskedWrite

end DeviceQualifier.Bits
