import DeviceQualifier.Proofs.Locale.Form

/-!
Locales without a tag: a bare word for the language, and a token for the region behind it. Both are
told by their shape alone, and there are tokens that have both shapes: `exists_letterPair` says that
these are the letter r with two more letters.
-/
namespace DeviceQualifier.Locale

/-- Two small letters. -/
def IsLetterPair (s : String) : Prop := IsRun isLetter 2 2 s.toList

instance (p : Char → Bool) (least most : Nat) (cs : List Char) :
    Decidable (IsRun p least most cs) :=
  decidable_of_iff _ isRun_iff.symm

instance (s : String) : Decidable (IsLetterPair s) := inferInstanceAs (Decidable (IsRun ..))

theorem isLanguageWord_iff {w : String} :
    Reading.isLanguageWord w = true ↔ IsRun isLetter 2 3 w.toList ∧ w ≠ "car" := by
  simp only [Reading.isLanguageWord, isLanguage, Reading.reserved, isRun_iff, Bool.and_eq_true,
    Bool.or_eq_true, beq_iff_eq, Bool.not_eq_true', List.contains_cons, List.contains_nil,
    Bool.or_false, beq_eq_false_iff_ne]
  exact and_congr_left fun _ => and_congr_right fun _ => by omega

theorem regionOfToken?_eq_some_iff {t s : String} :
    Reading.regionOfToken? t = some s ↔ IsRun isLetterOrDigit 2 2 s.toList ∧ t = "r" ++ s := by
  constructor
  · intro h
    obtain ⟨a, b, ht, ha, hb, rfl⟩ := toList_of_regionOfToken? h
    exact ⟨by simp [IsRun, ha, hb], by simp [← String.toList_inj, ht]⟩
  · rintro ⟨⟨long, short, all⟩, rfl⟩
    obtain ⟨a, b, hs⟩ := List.length_eq_two.mp (Nat.le_antisymm short long)
    rw [hs] at all
    have ha := all a (by simp)
    have hb := all b (by simp)
    simp [Reading.regionOfToken?, hs, ha, hb, ← String.toList_inj]

theorem isRegionToken_iff {t : String} :
    isRegionToken t = true ↔ ∃ s, IsRun isLetterOrDigit 2 2 s.toList ∧ t = "r" ++ s := by
  simp only [isRegionToken, Option.isSome_iff_exists, regionOfToken?_eq_some_iff]

section LetterPair
variable {s : String} (h : IsLetterPair s)
include h

theorem IsLetterPair.plain : Text.Plain s.toList :=
  Text.plain_of_letters (List.all_eq_true.mpr h.2.2)

theorem IsLetterPair.accepts : Part.region.accepts s = true :=
  (Kind.fits_iff (k := .region).mp (.inl h)).1

theorem IsLetterPair.regionOfToken? : Reading.regionOfToken? ("r" ++ s) = some s :=
  regionOfToken?_eq_some_iff.mpr ⟨⟨h.1, h.2.1, h.plain⟩, rfl⟩

theorem IsLetterPair.isLanguageWord : Reading.isLanguageWord ("r" ++ s) = true := by
  obtain ⟨long, short, letters⟩ := h
  have spelled : ("r" ++ s).toList = 'r' :: s.toList := String.toList_append
  rw [isLanguageWord_iff, spelled]
  refine ⟨⟨?_, ?_, List.forall_mem_cons.mpr ⟨rfl, letters⟩⟩, fun he => ?_⟩
  · rw [List.length_cons]
    omega
  · rw [List.length_cons]
    omega
  · rw [he] at spelled
    cases spelled

end LetterPair

/-- A language that is a region token as well. -/
theorem exists_letterPair {t : String} (word : Reading.isLanguageWord t = true)
    (region : isRegionToken t = true) : ∃ s, IsLetterPair s ∧ t = "r" ++ s := by
  obtain ⟨s, ⟨long, short, -⟩, rfl⟩ := isRegionToken_iff.mp region
  obtain ⟨⟨-, -, letters⟩, -⟩ := isLanguageWord_iff.mp word
  rw [String.toList_append] at letters
  exact ⟨s, ⟨long, short, fun c hc => letters c (List.mem_append_right _ hc)⟩, rfl⟩

end DeviceQualifier.Locale
