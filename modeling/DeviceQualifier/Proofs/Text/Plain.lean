import DeviceQualifier.Locale.Subtag

/-!
Text that lower-casing leaves alone, in any script: `lowerChars_eq_self_iff` says that it does so
character by character. Pieces of such text joined by a mark come apart again at the mark:
`splitOn_lowerChars`. Small letters and digits are left alone by trimming as well, so a subtag is
kept as it was written, up to the case of its letters.
-/
namespace DeviceQualifier.Text

/-- A decidable fact about characters holds on ASCII if it holds at each of the code points. -/
theorem forall_ascii {P : Char → Prop} (h : ∀ n < 128, P (Char.ofNat n)) {c : Char}
    (hc : c.toNat < 128) : P c :=
  c.ofNat_toNat ▸ h c.toNat hc

theorem map_eq_self {α : Type} {f : α → α} {xs : List α} (h : ∀ x ∈ xs, f x = x) :
    xs.map f = xs :=
  (List.map_congr_left h).trans (List.map_id' xs)

theorem isDigit_eq (c : Char) : Locale.isDigit c = c.isDigit := by
  simp only [Locale.isDigit, Char.isDigit, Char.le_def, ge_iff_le]

theorem ascii_of_isLetter {c : Char} (h : Locale.isLetter c = true) : c.toNat < 128 := by
  simp only [Locale.isLetter, Bool.and_eq_true, decide_eq_true_eq, Char.le_def,
    UInt32.le_iff_toNat_le] at h
  have hz : ('z' : Char).val.toNat = 122 := rfl
  exact Nat.lt_of_le_of_lt (hz ▸ h.2) (by decide)

theorem ascii_of_isDigit {c : Char} (h : Locale.isDigit c = true) : c.toNat < 128 := by
  simp only [Locale.isDigit, Bool.and_eq_true, decide_eq_true_eq, Char.le_def,
    UInt32.le_iff_toNat_le] at h
  have hz : ('9' : Char).val.toNat = 57 := rfl
  exact Nat.lt_of_le_of_lt (hz ▸ h.2) (by decide)

theorem ascii_of_isLetterOrDigit {c : Char} (h : Locale.isLetterOrDigit c = true) :
    c.toNat < 128 := by
  rcases Bool.or_eq_true_iff.mp h with hl | hd
  · exact ascii_of_isLetter hl
  · exact ascii_of_isDigit hd

/-- Small letters and digits only. -/
def Plain (cs : List Char) : Prop := ∀ c ∈ cs, Locale.isLetterOrDigit c = true

theorem Plain.ascii {cs : List Char} (h : Plain cs) : ∀ c ∈ cs, c.toNat < 128 :=
  fun c hc => ascii_of_isLetterOrDigit (h c hc)

theorem plain_of_letters {cs : List Char} (h : cs.all Locale.isLetter = true) : Plain cs := by
  intro c hc
  simp only [Locale.isLetterOrDigit, List.all_eq_true.mp h c hc, Bool.true_or]

theorem plain_of_digits {cs : List Char} (h : cs.all Locale.isDigit = true) : Plain cs := by
  intro c hc
  simp only [Locale.isLetterOrDigit, List.all_eq_true.mp h c hc, Bool.or_true]

theorem toLower_of_isLetterOrDigit {c : Char} (h : Locale.isLetterOrDigit c = true) :
    c.toLower = c :=
  forall_ascii (P := fun c => Locale.isLetterOrDigit c = true → c.toLower = c) (by decide)
    (ascii_of_isLetterOrDigit h) h

theorem isBlank_of_isLetterOrDigit {c : Char} (h : Locale.isLetterOrDigit c = true) :
    isBlank c = false :=
  forall_ascii (P := fun c => Locale.isLetterOrDigit c = true → isBlank c = false) (by decide)
    (ascii_of_isLetterOrDigit h) h

theorem trimBy_eq_self {p : Char → Bool} {cs : List Char} (h : ∀ c ∈ cs, p c = false) :
    trimBy p cs = cs := by
  have keep : ∀ ds : List Char, (∀ c ∈ ds, p c = false) → ds.dropWhile p = ds := by
    intro ds hds
    cases ds with
    | nil => rfl
    | cons d ds => rw [List.dropWhile_cons_of_neg (by simp [hds d List.mem_cons_self])]
  rw [trimBy, keep cs h, keep cs.reverse fun c hc => h c (List.mem_reverse.mp hc),
    List.reverse_reverse]

theorem trim_plain {s : String} (h : Plain s.toList) : trim s = s := by
  rw [trim, trimBy_eq_self fun c hc => isBlank_of_isLetterOrDigit (h c hc), String.ofList_toList]

/-- Characters that lower-casing leaves as they are, whatever stands around them. -/
def Lowered (cs : List Char) : Prop :=
  ∀ c ∈ cs, c ≠ Case.capitalSigma ∧ Case.lowerChar c = [c]

namespace Case

theorem oneWayLower_ne_nil : ∀ e ∈ oneWayLower, e.2 ≠ [] := by
  decide

theorem lowerChar_ne_nil (c : Char) : lowerChar c ≠ [] := by
  unfold lowerChar
  split
  · simp
  · unfold mapOutsideAscii
    split
    · simp
    · split
      · rename_i ns h
        obtain ⟨before, after, table, -⟩ := List.lookup_eq_some_iff.mp h
        have filled := oneWayLower_ne_nil (c.toNat, ns) (by simp [table])
        simpa using filled
      · simp

theorem length_le_lowerFrom (before cs : List Char) :
    cs.length ≤ (lowerFrom before cs).length := by
  induction cs generalizing before with
  | nil => exact Nat.le_refl 0
  | cons c rest ih =>
    have tail := ih (c :: before)
    have head := List.length_pos_iff.mpr (lowerChar_ne_nil c)
    rw [lowerFrom, List.length_append, List.length_cons]
    split
    · rw [List.length_singleton]
      omega
    · omega

/-- Text does not shrink, so it stays the same only if each of its characters does. -/
theorem lowerFrom_eq_self_iff {before cs : List Char} :
    lowerFrom before cs = cs ↔ Lowered cs := by
  induction cs generalizing before with
  | nil => simp [lowerFrom, Lowered]
  | cons c rest ih =>
    constructor
    · intro h
      have tail := length_le_lowerFrom (c :: before) rest
      have head := List.length_pos_iff.mpr (lowerChar_ne_nil c)
      have length := congrArg List.length h
      rw [lowerFrom] at h
      rw [lowerFrom, List.length_append, List.length_cons] at length
      by_cases hc : c = capitalSigma
      · rw [if_pos hc] at h
        have first := (List.cons.inj h).1
        rw [hc] at first
        split at first <;> exact absurd first (by decide)
      · rw [if_neg hc] at h length
        obtain ⟨same, left⟩ := @List.append_inj _ _ [c] _ rest h (by
          rw [List.length_singleton]
          omega)
        exact List.forall_mem_cons.mpr ⟨⟨hc, same⟩, ih.mp left⟩
    · intro h
      obtain ⟨⟨hc, same⟩, left⟩ := List.forall_mem_cons.mp h
      rw [lowerFrom, if_neg hc, same, ih.mpr left, List.singleton_append]

end Case

theorem lowerChars_eq_self_iff {cs : List Char} : lowerChars cs = cs ↔ Lowered cs :=
  Case.lowerFrom_eq_self_iff

/-- ASCII that is in lower case already. -/
def Settled (cs : List Char) : Prop := ∀ c ∈ cs, c.toNat < 128 ∧ c.toLower = c

theorem Settled.lowered {cs : List Char} (h : Settled cs) : Lowered cs := by
  intro c hc
  obtain ⟨ascii, same⟩ := h c hc
  constructor
  · rintro rfl
    exact absurd ascii (by decide)
  · rw [Case.lowerChar, if_pos ascii, same]

theorem lowered_singleton {c : Char} (h : c.toNat < 128 ∧ c.toLower = c) : Lowered [c] :=
  Settled.lowered (List.forall_mem_singleton.mpr h)

theorem Plain.settled {cs : List Char} (h : Plain cs) : Settled cs :=
  fun c hc => ⟨h.ascii c hc, toLower_of_isLetterOrDigit (h c hc)⟩

theorem lowerChars_settled {cs : List Char} (h : Settled cs) : lowerChars cs = cs :=
  lowerChars_eq_self_iff.mpr h.lowered

theorem lowerChars_plain {cs : List Char} (h : Plain cs) : lowerChars cs = cs :=
  lowerChars_settled h.settled

theorem lower_settled {s : String} (h : Settled s.toList) : lower s = s := by
  rw [lower, lowerChars_settled h, String.ofList_toList]

theorem lower_plain {s : String} (h : Plain s.toList) : lower s = s := lower_settled h.settled

/-- Joined text is made of its pieces and the mark. -/
theorem forall_mem_intercalate {P : Char → Prop} {mark : Char} (hm : P mark)
    {pieces : List (List Char)} (h : ∀ p ∈ pieces, ∀ c ∈ p, P c) :
    ∀ c ∈ [mark].intercalate pieces, P c := by
  induction pieces with
  | nil => simp
  | cons p rest ih =>
    have hp := h p List.mem_cons_self
    have hr := ih fun q hq => h q (List.mem_cons_of_mem _ hq)
    cases rest with
    | nil => rwa [List.intercalate_singleton]
    | cons q rest =>
      intro c hc
      rw [List.intercalate_cons_cons, List.mem_append, List.mem_append, List.mem_singleton] at hc
      rcases hc with (hc | rfl) | hc
      · exact hp c hc
      · exact hm
      · exact hr c hc

theorem splitOn_lowerChars {mark : Char} (hm : Lowered [mark]) {pieces : List (List Char)}
    (h : ∀ p ∈ pieces, lowerChars p = p ∧ mark ∉ p) (hne : pieces ≠ []) :
    (lowerChars ([mark].intercalate pieces)).splitOn mark = pieces := by
  have joined : Lowered ([mark].intercalate pieces) :=
    forall_mem_intercalate (hm mark List.mem_cons_self) fun p hp =>
      lowerChars_eq_self_iff.mp (h p hp).1
  rw [lowerChars_eq_self_iff.mpr joined]
  exact List.splitOn_intercalate mark (fun p hp => (h p hp).2) hne

/-- What a split leaves is made of the characters that were split, without the mark. -/
theorem mem_of_mem_splitOn {mark : Char} {cs p : List Char} (hp : p ∈ cs.splitOn mark) {c : Char}
    (hc : c ∈ p) : c ∈ cs ∧ c ≠ mark := by
  induction cs generalizing p with
  | nil =>
    rw [List.splitOn_nil, List.mem_singleton] at hp
    rw [hp] at hc
    cases hc
  | cons d cs ih =>
    rw [List.splitOn_cons_eq_if_modifyHead] at hp
    by_cases same : d = mark
    · rw [if_pos (beq_iff_eq.mpr same)] at hp
      rcases List.mem_cons.mp hp with rfl | hp
      · cases hc
      · exact (ih hp hc).imp_left (List.mem_cons_of_mem _)
    · rw [if_neg fun h => same (beq_iff_eq.mp h)] at hp
      obtain ⟨q, qs, split⟩ := List.exists_cons_of_ne_nil (List.splitOn_ne_nil mark cs)
      rw [split] at ih hp
      rcases List.mem_cons.mp hp with rfl | hp
      · rcases List.mem_cons.mp hc with rfl | hc
        · exact ⟨List.mem_cons_self, same⟩
        · exact (ih List.mem_cons_self hc).imp_left (List.mem_cons_of_mem _)
      · exact (ih (List.mem_cons_of_mem _ hp) hc).imp_left (List.mem_cons_of_mem _)

end DeviceQualifier.Text
