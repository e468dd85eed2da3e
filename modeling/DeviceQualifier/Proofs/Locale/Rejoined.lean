import DeviceQualifier.Proofs.Locale.Form

/-!
The way back from a locale to the tag it was read from. Joined again, the parts give the whole tag
in lower case, and so tags that differ are told apart. The one form that does not come back is a
language with two regions, of which only the last is kept.
-/
namespace DeviceQualifier.Locale

/-- The parts that are there, in the order of a tag and in lower case, joined as in a tag. -/
def rejoined (l : Locale) : String :=
  String.intercalate "+" (([l.language, l.script, l.region, l.variant].filterMap id).map Text.lower)

/-- The form with two regions. -/
def twoRegions : List Kind := [.language, .region, .region]

theorem toLower_toUpper {c : Char} (h : isLetterOrDigit c = true) :
    c.toUpper.toNat < 128 ∧ c.toUpper.toLower = c :=
  Text.forall_ascii
    (P := fun c => isLetterOrDigit c = true → c.toUpper.toNat < 128 ∧ c.toUpper.toLower = c)
    (by decide) (Text.ascii_of_isLetterOrDigit h) h

theorem lower_upper {s : String} (h : Text.Plain s.toList) : Text.lower (Text.upper s) = s := by
  have ascii : ∀ c ∈ s.toList.map Char.toUpper, c.toNat < 128 := by
    intro c hc
    obtain ⟨d, hd, rfl⟩ := List.mem_map.mp hc
    exact (toLower_toUpper (h d hd)).1
  rw [Text.lower, toList_upper h, Text.lowerChars_of_ascii ascii, List.map_map]
  have back : s.toList.map (Char.toLower ∘ Char.toUpper) = s.toList :=
    Text.map_eq_self fun c hc => (toLower_toUpper (h c hc)).2
  rw [back, String.ofList_toList]

theorem lower_capitalize {s : String} (h : Text.Plain s.toList) :
    Text.lower (Text.capitalize s) = s := by
  cases hs : s.toList with
  | nil =>
    rw [String.toList_eq_nil_iff.mp hs]
    rfl
  | cons c cs =>
    rw [hs] at h
    obtain ⟨ascii, back⟩ := toLower_toUpper (h c List.mem_cons_self)
    have settled : Text.Settled cs :=
      Text.Plain.settled fun d hd => h d (List.mem_cons_of_mem _ hd)
    have all : ∀ d ∈ c.toUpper :: cs, d.toNat < 128 :=
      List.forall_mem_cons.mpr ⟨ascii, fun d hd => (settled d hd).1⟩
    have rest : cs.map Char.toLower = cs := Text.map_eq_self fun d hd => (settled d hd).2
    rw [← String.ofList_toList (s := s), hs, capitalize_ofList h, Text.lower,
      String.toList_ofList, Text.lowerChars_of_ascii all, List.map_cons, back, rest]

/-- The subtags of a tag, joined again, are its text in lower case. -/
theorem intercalate_subtags (body : List Char) :
    String.intercalate "+" (subtags body) = String.ofList (Text.lowerChars body) := by
  rw [← String.toList_inj, String.toList_intercalate, subtags, List.map_map]
  have same : ((Text.lowerChars body).splitOn '+').map (String.toList ∘ String.ofList) =
      (Text.lowerChars body).splitOn '+' := List.map_id'' (fun _ => String.toList_ofList) _
  rw [same]
  exact (List.intercalate_splitOn '+').trans String.toList_ofList.symm

theorem lower_accepted {p : Part} {s : String} (h : p.accepts s = true) :
    Text.lower s = s ∧ Text.lower (Text.upper s) = s ∧ Text.lower (Text.capitalize s) = s := by
  have plain := Part.plain_of_accepts h
  exact ⟨Text.lower_plain plain, lower_upper plain, lower_capitalize plain⟩

/-- Unless two of them are regions, all subtags come back. -/
theorem Written.rejoined {subtags : List String} {l : Locale} (h : Written subtags l)
    (one : ¬HasForm twoRegions subtags) : l.rejoined = String.intercalate "+" subtags := by
  cases h with
  | language hl => simp [Locale.rejoined, lower_accepted hl]
  | region hl hr => simp [Locale.rejoined, lower_accepted hl, lower_accepted hr]
  | script hl hs => simp [Locale.rejoined, lower_accepted hl, lower_accepted hs]
  | variant hl hv alone => simp [Locale.rejoined, lower_accepted hl, lower_accepted hv]
  | scriptRegion hl hs hr =>
    simp [Locale.rejoined, lower_accepted hl, lower_accepted hs, lower_accepted hr]
  | scriptVariant hl hs hv =>
    simp [Locale.rejoined, lower_accepted hl, lower_accepted hs, lower_accepted hv]
  | regionVariant hl hr hv =>
    simp [Locale.rejoined, lower_accepted hl, lower_accepted hr, lower_accepted hv]
  | regions hl hr hq =>
    refine absurd ?_ one
    simp [HasForm, twoRegions, Kind.fits_iff, Kind.part, hl, hr, hq]
  | full hl hs hr hv =>
    simp [Locale.rejoined, lower_accepted hl, lower_accepted hs, lower_accepted hr,
      lower_accepted hv]

/-- Of two regions the last one comes back. -/
theorem Written.rejoined_twoRegions {subtags : List String} {l : Locale} (h : Written subtags l)
    (two : HasForm twoRegions subtags) :
    ∃ a r q, subtags = [a, r, q] ∧ l.rejoined = String.intercalate "+" [a, q] := by
  simp only [HasForm, twoRegions, List.forall₂_cons_left_iff, List.forall₂_nil_left_iff,
    Kind.fits_iff, Kind.part, reduceCtorEq, false_implies, and_true] at two
  obtain ⟨a, _, ha, ⟨r, _, hr, ⟨q, _, hq, rfl, rfl⟩, rfl⟩, rfl⟩ := two
  refine ⟨a, r, q, rfl, ?_⟩
  rw [h.unique (.regions ha hr hq)]
  simp [Locale.rejoined, lower_accepted ha, lower_accepted hq]

theorem intercalate_pair_ne (a r q : String) :
    String.intercalate "+" [a, q] ≠ String.intercalate "+" [a, r, q] := by
  intro same
  have length := congrArg (fun s => s.toList.length) same
  simp at length
  omega

namespace Reading

theorem written_of_accepted {body : String} {rest : List String} {n : Nat}
    (accepted : (ofTokens (("b+" ++ body) :: rest)).outcome = .ok n) :
    Written (subtags body.toList) ((ofTokens (("b+" ++ body) :: rest)).onto unspecified) := by
  have tag := tagBody?_append body
  rcases written_or_malformed tag with ⟨l, written⟩ | ⟨fault, malformed⟩
  · rwa [(ofTokens_of_written tag written).2]
  · cases (ofTokens_of_malformed malformed).symm.trans accepted

/-- **What a locale says of its tag.** The parts of an accepted tag, joined again, are the whole
tag in lower case if and only if it has not two regions. With two regions the first one is missing.
Tags that have all their subtags are told apart by their locales. -/
theorem rejoined_of_accepted {body : String} {rest : List String} {n : Nat}
    (accepted : (ofTokens (("b+" ++ body) :: rest)).outcome = .ok n) :
    (((ofTokens (("b+" ++ body) :: rest)).onto unspecified).rejoined = Text.lower body ↔
        ¬HasForm twoRegions (subtags body.toList)) ∧
      (HasForm twoRegions (subtags body.toList) → ∃ a r q, subtags body.toList = [a, r, q] ∧
        ((ofTokens (("b+" ++ body) :: rest)).onto unspecified).rejoined =
          String.intercalate "+" [a, q]) ∧
      ∀ (other : String) (more : List String) (m : Nat),
        (ofTokens (("b+" ++ other) :: more)).outcome = .ok m →
        ¬HasForm twoRegions (subtags body.toList) → ¬HasForm twoRegions (subtags other.toList) →
        Text.lower body ≠ Text.lower other →
        (ofTokens (("b+" ++ body) :: rest)).onto unspecified ≠
          (ofTokens (("b+" ++ other) :: more)).onto unspecified := by
  have written := written_of_accepted accepted
  refine ⟨⟨?_, ?_⟩, written.rejoined_twoRegions, ?_⟩
  · intro whole two
    obtain ⟨a, r, q, three, cut⟩ := written.rejoined_twoRegions two
    have text := intercalate_subtags body.toList
    rw [three] at text
    exact intercalate_pair_ne a r q (cut.symm.trans (whole.trans text.symm))
  · intro one
    exact (written.rejoined one).trans (intercalate_subtags body.toList)
  · intro other more m accepted' one one' differ same
    have written' := written_of_accepted accepted'
    apply differ
    have here := (written.rejoined one).trans (intercalate_subtags body.toList)
    have there := (written'.rejoined one').trans (intercalate_subtags other.toList)
    exact here.symm.trans ((congrArg rejoined same).trans there)

/-- Two tags in capitals that differ in the variant only. -/
theorem rejoined_of_posix :
    ((ofTokens ["b+en+US+POSIX"]).onto unspecified).rejoined = "en+us+posix" ∧
      (ofTokens ["b+en+US+POSIX"]).onto unspecified ≠
        (ofTokens ["b+en+US+POSIX1"]).onto unspecified := by
  have one : ¬HasForm twoRegions (subtags "en+US+POSIX".toList) := by
    decide
  have one' : ¬HasForm twoRegions (subtags "en+US+POSIX1".toList) := by
    decide
  obtain ⟨whole, -, apart⟩ :=
    @rejoined_of_accepted "en+US+POSIX" [] 1 rfl
  exact ⟨whole.mpr one, apart "en+US+POSIX1" [] 1 rfl one one' (by decide)⟩

/-- A tag with two regions is accepted, but its locale is that of the tag without the first. -/
theorem first_region_lost :
    (ofTokens ["b+en+us+gb"]).outcome = .ok 1 ∧
      ((ofTokens ["b+en+us+gb"]).onto unspecified).rejoined ≠ Text.lower "en+us+gb" ∧
      (ofTokens ["b+en+gb"]).outcome = .ok 1 ∧ Text.lower "en+us+gb" ≠ Text.lower "en+gb" ∧
      (ofTokens ["b+en+us+gb"]).onto unspecified = (ofTokens ["b+en+gb"]).onto unspecified := by
  have two : Text.lower "en+us+gb" = "en+us+gb" := rfl
  have one : Text.lower "en+gb" = "en+gb" := rfl
  have here : (ofTokens ["b+en+us+gb"]).onto unspecified = ⟨some "en", some "GB", none, none⟩ := rfl
  have there : (ofTokens ["b+en+gb"]).onto unspecified = ⟨some "en", some "GB", none, none⟩ := rfl
  have again : rejoined ⟨some "en", some "GB", none, none⟩ = "en+gb" := rfl
  rw [here, there, again, two, one]
  exact ⟨rfl, by decide, rfl, by decide, rfl⟩

end Reading
end DeviceQualifier.Locale
