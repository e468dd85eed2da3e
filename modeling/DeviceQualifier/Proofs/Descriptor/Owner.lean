import DeviceQualifier.Proofs.Descriptor.Reads

/-!
Every token but the wildcard has one category that may read it. The letters of a token, and whether
it has digits, tell which: `owner_of_reads`. So no two categories share a token, and the region
token of a locale is read by no category behind the locale.
-/
namespace DeviceQualifier.Descriptor

/-- A token without its digits, and whether it had any. -/
def signature (t : String) : Bool × List Char :=
  (t.toList.any Char.isDigit, t.toList.filter (!·.isDigit))

namespace Category

/-- The signatures of the tokens that a category reads, those of locales left out. -/
def signatures (c : Category) : List (Bool × List Char) :=
  (c.marks?.map fun (opening, closing) => (true, opening.toList ++ closing.toList)).toList ++
  (c.scale?.map fun s => s.words.map fun (word, _) => signature word).getD [] ++
  if c = pixels then [(true, ['x'])] else []

/-- The category that a signature belongs to; what is left is for locales. -/
def ofSignature (s : Bool × List Char) : Category :=
  (all.find? fun c => c.signatures.contains s).getD locale

def owner (t : String) : Category := ofSignature (signature t)

theorem ofSignature_of_mem : ∀ c ∈ all, ∀ s ∈ c.signatures, ofSignature s = c := by
  decide +kernel

theorem mem_all (c : Category) : c ∈ all := by
  cases c <;> decide

theorem ofSignature_eq_locale {s : Bool × List Char} (h : ∀ c ∈ all, s ∉ c.signatures) :
    ofSignature s = locale := by
  have : all.find? (fun c => c.signatures.contains s) = none := by
    rw [List.find?_eq_none]
    intro c hc hs
    exact h c hc (List.contains_iff_mem.mp hs)
  rw [ofSignature, this, Option.getD_none]

/-- What a signature outside locales looks like: letters alone make four at least, or the one word
set aside; none has a plus sign; and those with an r in front are long. -/
theorem signature_shapes : ∀ c ∈ all, ∀ s ∈ c.signatures,
    (s.1 = true ∨ 4 ≤ s.2.length ∨ s.2 = "car".toList) ∧ '+' ∉ s.2 ∧
      (s.2.head? = some 'r' → 4 ≤ s.2.length) := by
  decide +kernel

theorem filter_digits {cs : List Char} (h : isDigits cs = true) :
    cs.filter (!·.isDigit) = [] ∧ cs.any Char.isDigit = true := by
  obtain ⟨hall, hne⟩ := Bool.and_eq_true_iff.mp h
  constructor
  · rw [List.filter_eq_nil_iff]
    intro c hc
    simp [List.all_eq_true.mp hall c hc]
  · cases cs with
    | nil => cases hne
    | cons c cs => simp [List.all_eq_true.mp hall c List.mem_cons_self]

theorem signature_digits (a : String) {ds : String} (b : String)
    (h : isDigits ds.toList = true) :
    signature (a ++ ds ++ b) =
      (true, a.toList.filter (!·.isDigit) ++ b.toList.filter (!·.isDigit)) := by
  simp [signature, filter_digits h]

theorem signature_plain {cs : List Char} (h : cs.all Locale.isLetter = true) :
    signature (String.ofList cs) = (false, cs) := by
  have letters : ∀ c ∈ cs, c.isDigit = false := by
    intro c hc
    rw [← Text.isDigit_eq]
    exact Locale.not_isDigit_of_isLetter (List.all_eq_true.mp h c hc)
  simp only [signature, String.toList_ofList, Prod.mk.injEq, List.any_eq_false,
    List.filter_eq_self]
  exact ⟨fun c hc => by simp [letters c hc], fun c hc => by simp [letters c hc]⟩

theorem owner_of_isLanguageWord {w : String} (h : Locale.Reading.isLanguageWord w = true) :
    owner w = locale := by
  simp only [Locale.Reading.isLanguageWord, Locale.isLanguage, Bool.and_eq_true, Bool.or_eq_true,
    beq_iff_eq] at h
  obtain ⟨⟨hl, hn⟩, hr⟩ := h
  have hs := signature_plain hl
  rw [String.ofList_toList] at hs
  apply ofSignature_eq_locale
  intro c hc hm
  rw [hs] at hm
  rcases (signature_shapes c hc _ hm).1 with ht | long | reserved
  · cases ht
  · simp only at long
    omega
  · cases String.toList_inj.mp reserved
    cases hr

theorem owner_of_tag {t : String} {body : List Char} (h : Locale.tagBody? t = some body) :
    owner t = locale := by
  apply ofSignature_eq_locale
  intro c hc hm
  apply (signature_shapes c hc _ hm).2.1
  unfold Locale.tagBody? at h
  split at h
  · rename_i ht
    simp [signature, ht]
  · cases h

/-- A region token is left to locales, whether it has digits or not. -/
theorem owner_of_isRegionToken {t : String} (h : Locale.isRegionToken t = true) :
    owner t = locale := by
  obtain ⟨r, hr⟩ := Option.isSome_iff_exists.mp h
  obtain ⟨a, b, ht, -⟩ := Locale.toList_of_regionOfToken? hr
  apply ofSignature_eq_locale
  intro c hc hm
  have hs : (signature t).2 = 'r' :: [a, b].filter (!·.isDigit) := by
    simp [signature, ht]
  have long := (signature_shapes c hc _ hm).2.2 (by simp [hs])
  have short := List.length_filter_le (!·.isDigit) [a, b]
  simp only [hs, List.length_cons, List.length_nil] at long short
  omega

/-- Digits between its marks belong to a category, whatever number they make. -/
theorem owner_of_digits {c : Category} {opening closing ds : String}
    (hm : c.marks? = some (opening, closing)) (h : isDigits ds.toList = true) :
    owner (opening ++ ds ++ closing) = c := by
  refine ofSignature_of_mem c (mem_all c) _ ?_
  rw [signature_digits _ _ h]
  cases c <;> cases hm <;> decide +kernel

theorem owner_of_sides {a b : String} (ha : isDigits a.toList = true)
    (hb : isDigits b.toList = true) : owner (a ++ "x" ++ b) = pixels := by
  refine ofSignature_of_mem .pixels (by decide) _ ?_
  have hx : ('x' : Char).isDigit = false := rfl
  simp [signature, filter_digits ha, filter_digits hb, hx, signatures]

/-- A token that is not the wildcard is read by its owner only. -/
theorem owner_of_reads {c : Category} {t : String} {g : List String} {ws : List Write}
    (h : Reads c (t :: g) ws) (ht : t ≠ wildcard) : owner t = c := by
  cases h with
  | wildcard => exact absurd rfl ht
  | word hs hw =>
    refine ofSignature_of_mem c (mem_all c) _ ?_
    simp only [signatures, hs, List.mem_append, Option.map_some, Option.getD_some]
    exact .inl (.inr (List.mem_map.mpr ⟨_, hw, rfl⟩))
  | number hm hn => exact owner_of_digits hm hn.1
  | pixels hw hh => exact owner_of_sides hw.1 hh.1
  | locale h =>
    cases h with
    | word hw | wordRegion hw => exact owner_of_isLanguageWord hw
    | tag ht => exact owner_of_tag ht

/-- The same goes for the region token behind a language. -/
theorem owner_of_mem {c : Category} {t : String} {g : List String} {ws : List Write}
    (h : Reads c g ws) (ht : t ∈ g) (named : t ≠ wildcard) : owner t = c := by
  cases g with
  | nil => cases ht
  | cons u g =>
    rcases List.mem_cons.mp ht with rfl | ht
    · exact owner_of_reads h named
    · rcases h.tail with rfl | ⟨hc, -, n, rfl, hn⟩
      · cases ht
      · cases List.mem_singleton.mp ht
        exact (owner_of_isRegionToken hn).trans hc.symm

/-- No category but the locale starts with a region token. -/
theorem eq_locale_of_reads_region {c : Category} {t : String} {g : List String} {ws : List Write}
    (h : Reads c (t :: g) ws) (ht : Locale.isRegionToken t = true) : c = .locale := by
  have hw : t ≠ wildcard := by
    rintro rfl
    cases ht
  rw [← owner_of_reads h hw, owner_of_isRegionToken ht]

end Category
end DeviceQualifier.Descriptor
