import DeviceQualifier.Proofs.Locale.Describable
import Mathlib.Data.List.Forall2

/-!
The forms of a tag as a table. `forms` lists which kinds of subtag may follow one another, and a
form with its subtags says what the locale holds. The reading of a tag knows nothing of the table:
it goes by counts and lengths first. `written_iff` says that both accept the same subtags and make
the same locale of them, and `HasForm.unique` that no subtags have two forms.
-/
namespace DeviceQualifier.Locale

/-- What may stand in a tag. A lone variant has only the language before it. -/
inductive Kind where
  | language | region | script | variant | loneVariant
  deriving DecidableEq, Repr

/-- Between `least` and `most` characters, all of one class. -/
def IsRun (p : Char → Bool) (least most : Nat) (cs : List Char) : Prop :=
  least ≤ cs.length ∧ cs.length ≤ most ∧ ∀ c ∈ cs, p c = true

namespace Kind

/-- The shape of each kind, in small letters and digits. -/
def Fits : Kind → List Char → Prop
  | language, cs => IsRun isLetter 2 3 cs
  | region, cs => IsRun isLetter 2 2 cs ∨ IsRun isDigit 3 3 cs
  | script, cs => IsRun isLetter 4 4 cs
  | variant, cs => IsRun isLetterOrDigit 4 8 cs
  | loneVariant, cs => IsRun isLetterOrDigit 5 8 cs ∨
      ∃ c rest, cs = c :: rest ∧ isDigit c = true ∧ IsRun isLetterOrDigit 3 3 rest

/-- The part of a locale that a kind is kept in. -/
def part : Kind → Part
  | language => .language
  | region => .region
  | script => .script
  | variant | loneVariant => .variant

/-- Kinds that no subtag has both of. -/
def apart : Kind → Kind → Bool
  | region, script | region, variant | region, loneVariant | script, loneVariant => true
  | _, _ => false

end Kind

/-- All forms of a tag. -/
def forms : List (List Kind) := [
  [.language],
  [.language, .region],
  [.language, .script],
  [.language, .loneVariant],
  [.language, .script, .region],
  [.language, .script, .variant],
  [.language, .region, .variant],
  [.language, .region, .region],
  [.language, .script, .region, .variant]]

/-- The subtags have the kinds of the form, one by one. -/
def HasForm (form : List Kind) (subtags : List String) : Prop :=
  List.Forall₂ (fun kind s => kind.Fits s.toList) form subtags

/-- Regions stand in capitals, scripts with a capital in front. -/
def Part.cased : Part → List Char → List Char
  | .region, cs => cs.map Char.toUpper
  | .script, c :: cs => c.toUpper :: cs
  | _, cs => cs

/-- The last subtag of a form that belongs to a part, as it is kept there. -/
def lastOf (p : Part) (form : List Kind) (subtags : List String) : Option String :=
  ((form.zip subtags).filter fun e => e.1.part = p).getLast?.map fun e =>
    String.ofList (p.cased e.2.toList)

/-- The locale of some subtags of a form. -/
def ofForm (form : List Kind) (subtags : List String) : Locale where
  language := lastOf .language form subtags
  region := lastOf .region form subtags
  script := lastOf .script form subtags
  variant := lastOf .variant form subtags

theorem isRun_iff {p : Char → Bool} {least most : Nat} {cs : List Char} :
    IsRun p least most cs ↔ cs.all p = true ∧ least ≤ cs.length ∧ cs.length ≤ most := by
  rw [IsRun, List.all_eq_true]
  constructor
  · rintro ⟨long, short, all⟩
    exact ⟨all, long, short⟩
  · rintro ⟨all, long, short⟩
    exact ⟨long, short, all⟩

/-- A variant stands alone if it is not as long as a script or starts with a digit. -/
theorem fits_loneVariant_iff {v : String} : Kind.loneVariant.Fits v.toList ↔
    Part.variant.accepts v = true ∧ StandsAlone v := by
  rw [accepts_variant_iff, StandsAlone]
  constructor
  · rintro (run | ⟨c, rest, hv, digit, run⟩)
    · obtain ⟨all, long, short⟩ := isRun_iff.mp run
      exact ⟨⟨all, by omega, short⟩, fun four => by omega⟩
    · obtain ⟨all, long, short⟩ := isRun_iff.mp run
      have first : isLetterOrDigit c = true := by rw [isLetterOrDigit, digit, Bool.or_true]
      rw [hv]
      refine ⟨⟨by rw [List.all_cons, first, all]; rfl, ?_, ?_⟩, fun _ => digit⟩ <;>
        rw [List.length_cons] <;> omega
  · rintro ⟨⟨all, long, short⟩, alone⟩
    by_cases four : v.toList.length = 4
    · right
      have digit := alone four
      obtain ⟨c, rest, hv⟩ := List.exists_cons_of_length_pos (Nat.lt_of_lt_of_le (by decide) long)
      rw [hv] at all four digit
      rw [List.all_cons, Bool.and_eq_true] at all
      rw [List.length_cons] at four
      exact ⟨c, rest, hv, digit, isRun_iff.mpr ⟨all.2, by omega, by omega⟩⟩
    · exact .inl (isRun_iff.mpr ⟨all, by omega, short⟩)

/-- The subtags of a kind are those that its part accepts, but for a variant that does not stand
alone. -/
theorem Kind.fits_iff {k : Kind} {s : String} : k.Fits s.toList ↔
    k.part.accepts s = true ∧ (k = .loneVariant → StandsAlone s) := by
  cases k with
  | language =>
    simp only [Fits, part, isRun_iff, Part.accepts, isLanguage, Bool.and_eq_true, Bool.or_eq_true,
      beq_iff_eq, reduceCtorEq, false_implies, and_true]
    exact and_congr_right fun _ => by omega
  | region =>
    simp only [Fits, part, isRun_iff, Part.accepts, Bool.and_eq_true, Bool.or_eq_true,
      beq_iff_eq, reduceCtorEq, false_implies, and_true]
    exact or_congr (and_congr_right fun _ => by omega) (and_congr_right fun _ => by omega)
  | script =>
    simp only [Fits, part, isRun_iff, Part.accepts, Bool.and_eq_true, beq_iff_eq, reduceCtorEq,
      false_implies, and_true]
    exact and_congr_right fun _ => by omega
  | variant =>
    rw [part, accepts_variant_iff, Fits, isRun_iff]
    simp
  | loneVariant =>
    rw [fits_loneVariant_iff]
    simp [part]

/-- At one place of a tag a subtag is asked for one kind only. -/
theorem Kind.not_fits_both {k j : Kind} {s : String} (h : k.apart j = true)
    (hk : k.Fits s.toList) : ¬j.Fits s.toList := by
  intro hj
  obtain ⟨ak, -⟩ := Kind.fits_iff.mp hk
  obtain ⟨aj, alone⟩ := Kind.fits_iff.mp hj
  cases k with
  | region =>
    cases j with
    | script => cases (demandMiddle_region ak).symm.trans (demandMiddle_script aj)
    | variant | loneVariant => cases (demandLast_region ak).symm.trans (demandLast_variant aj)
    | _ => cases h
  | script =>
    cases j with
    | loneVariant =>
      cases (demandSecond_script ak).symm.trans (demandSecond_variant aj (alone rfl))
    | _ => cases h
  | _ => cases j <;> cases h

instance (v : String) : Decidable (StandsAlone v) := inferInstanceAs (Decidable (_ → _))

instance (k : Kind) (s : String) : Decidable (k.Fits s.toList) :=
  decidable_of_iff _ Kind.fits_iff.symm

instance (form : List Kind) (subtags : List String) : Decidable (HasForm form subtags) :=
  inferInstanceAs (Decidable (List.Forall₂ _ _ _))

theorem forms_apart : ∀ f ∈ forms, ∀ g ∈ forms, f = g ∨ f.length ≠ g.length ∨
    ∃ e ∈ f.zip g, e.1.apart e.2 = true ∨ e.2.apart e.1 = true := by
  decide

theorem HasForm.not_apart {f g : List Kind} {subtags : List String} (hf : HasForm f subtags)
    (hg : HasForm g subtags) : ∀ e ∈ f.zip g, e.1.apart e.2 = false ∧ e.2.apart e.1 = false := by
  induction hf generalizing g with
  | nil =>
    intro e he
    rw [List.zip_nil_left] at he
    cases he
  | @cons k s f subtags hk hf ih =>
    cases hg with
    | @cons j _ g _ hj hg =>
      intro e he
      rw [List.zip_cons_cons, List.mem_cons] at he
      rcases he with rfl | he
      · constructor
        · exact Bool.eq_false_iff.mpr fun h => Kind.not_fits_both h hk hj
        · exact Bool.eq_false_iff.mpr fun h => Kind.not_fits_both h hj hk
      · exact ih hg e he

/-- Subtags have one form at most. -/
theorem HasForm.unique {f g : List Kind} {subtags : List String} (inf : f ∈ forms)
    (ing : g ∈ forms) (hf : HasForm f subtags) (hg : HasForm g subtags) : f = g := by
  rcases forms_apart f inf g ing with same | length | ⟨e, he, apart⟩
  · exact same
  · exact absurd (hf.length_eq.trans hg.length_eq.symm) length
  · obtain ⟨left, right⟩ := hf.not_apart hg e he
    rw [left, right] at apart
    rcases apart with apart | apart <;> cases apart

theorem ofList_cased_language (w : String) : String.ofList (Part.language.cased w.toList) = w :=
  String.ofList_toList

theorem ofList_cased_variant (v : String) : String.ofList (Part.variant.cased v.toList) = v :=
  String.ofList_toList

theorem ofList_cased_region {r : String} (h : Part.region.accepts r = true) :
    String.ofList (Part.region.cased r.toList) = Text.upper r := by
  rw [Part.cased, ← toList_upper (Part.plain_of_accepts h), String.ofList_toList]

theorem ofList_cased_script {s : String} (h : Part.script.accepts s = true) :
    String.ofList (Part.script.cased s.toList) = Text.capitalize s := by
  have plain := Part.plain_of_accepts h
  cases hs : s.toList with
  | nil => exact absurd (String.toList_eq_nil_iff.mp hs) (Part.ne_empty_of_accepts h)
  | cons c cs =>
    rw [Part.cased, ← capitalize_ofList (hs ▸ plain), ← hs, String.ofList_toList]

/-- What is written has a form, and the form says which locale it is. -/
theorem Written.hasForm {subtags : List String} {l : Locale} (h : Written subtags l) :
    ∃ form ∈ forms, HasForm form subtags ∧ ofForm form subtags = l := by
  cases h with
  | language hl =>
    refine ⟨[.language], by decide, ?_, ?_⟩
    · simp [HasForm, Kind.fits_iff, Kind.part, hl]
    · simp [ofForm, lastOf, Kind.part, ofList_cased_language]
  | region hl hr =>
    refine ⟨[.language, .region], by decide, ?_, ?_⟩
    · simp [HasForm, Kind.fits_iff, Kind.part, hl, hr]
    · simp [ofForm, lastOf, Kind.part, ofList_cased_language, ofList_cased_region hr]
  | script hl hs =>
    refine ⟨[.language, .script], by decide, ?_, ?_⟩
    · simp [HasForm, Kind.fits_iff, Kind.part, hl, hs]
    · simp [ofForm, lastOf, Kind.part, ofList_cased_language, ofList_cased_script hs]
  | variant hl hv alone =>
    refine ⟨[.language, .loneVariant], by decide, ?_, ?_⟩
    · simp [HasForm, Kind.fits_iff, Kind.part, hl, hv, alone]
    · simp [ofForm, lastOf, Kind.part, ofList_cased_language, ofList_cased_variant]
  | scriptRegion hl hs hr =>
    refine ⟨[.language, .script, .region], by decide, ?_, ?_⟩
    · simp [HasForm, Kind.fits_iff, Kind.part, hl, hs, hr]
    · simp [ofForm, lastOf, Kind.part, ofList_cased_language, ofList_cased_script hs,
        ofList_cased_region hr]
  | scriptVariant hl hs hv =>
    refine ⟨[.language, .script, .variant], by decide, ?_, ?_⟩
    · simp [HasForm, Kind.fits_iff, Kind.part, hl, hs, hv]
    · simp [ofForm, lastOf, Kind.part, ofList_cased_language, ofList_cased_script hs,
        ofList_cased_variant]
  | regionVariant hl hr hv =>
    refine ⟨[.language, .region, .variant], by decide, ?_, ?_⟩
    · simp [HasForm, Kind.fits_iff, Kind.part, hl, hr, hv]
    · simp [ofForm, lastOf, Kind.part, ofList_cased_language, ofList_cased_region hr,
        ofList_cased_variant]
  | regions hl hr hq =>
    refine ⟨[.language, .region, .region], by decide, ?_, ?_⟩
    · simp [HasForm, Kind.fits_iff, Kind.part, hl, hr, hq]
    · simp [ofForm, lastOf, Kind.part, ofList_cased_language, ofList_cased_region hq]
  | full hl hs hr hv =>
    refine ⟨[.language, .script, .region, .variant], by decide, ?_, ?_⟩
    · simp [HasForm, Kind.fits_iff, Kind.part, hl, hs, hr, hv]
    · simp [ofForm, lastOf, Kind.part, ofList_cased_language, ofList_cased_script hs,
        ofList_cased_region hr, ofList_cased_variant]

/-- Every form is written. -/
theorem HasForm.written {form : List Kind} {subtags : List String} (inf : form ∈ forms)
    (h : HasForm form subtags) : ∃ l, Written subtags l := by
  simp only [forms, List.mem_cons, List.not_mem_nil, or_false] at inf
  rcases inf with rfl | rfl | rfl | rfl | rfl | rfl | rfl | rfl | rfl <;>
    simp only [HasForm, List.forall₂_cons_left_iff, List.forall₂_nil_left_iff, Kind.fits_iff,
      Kind.part, reduceCtorEq, false_implies, and_true, forall_const] at h
  · obtain ⟨a, _, ha, rfl, rfl⟩ := h
    exact ⟨_, .language ha⟩
  · obtain ⟨a, _, ha, ⟨b, _, hb, rfl, rfl⟩, rfl⟩ := h
    exact ⟨_, .region ha hb⟩
  · obtain ⟨a, _, ha, ⟨b, _, hb, rfl, rfl⟩, rfl⟩ := h
    exact ⟨_, .script ha hb⟩
  · obtain ⟨a, _, ha, ⟨b, _, ⟨hb, alone⟩, rfl, rfl⟩, rfl⟩ := h
    exact ⟨_, .variant ha hb alone⟩
  · obtain ⟨a, _, ha, ⟨b, _, hb, ⟨c, _, hc, rfl, rfl⟩, rfl⟩, rfl⟩ := h
    exact ⟨_, .scriptRegion ha hb hc⟩
  · obtain ⟨a, _, ha, ⟨b, _, hb, ⟨c, _, hc, rfl, rfl⟩, rfl⟩, rfl⟩ := h
    exact ⟨_, .scriptVariant ha hb hc⟩
  · obtain ⟨a, _, ha, ⟨b, _, hb, ⟨c, _, hc, rfl, rfl⟩, rfl⟩, rfl⟩ := h
    exact ⟨_, .regionVariant ha hb hc⟩
  · obtain ⟨a, _, ha, ⟨b, _, hb, ⟨c, _, hc, rfl, rfl⟩, rfl⟩, rfl⟩ := h
    exact ⟨_, .regions ha hb hc⟩
  · obtain ⟨a, _, ha, ⟨b, _, hb, ⟨c, _, hc, ⟨d, _, hd, rfl, rfl⟩, rfl⟩, rfl⟩, rfl⟩ := h
    exact ⟨_, .full ha hb hc hd⟩

/-- The shapes that a reading goes by and the table of forms accept the same subtags and make the
same locale of them. -/
theorem written_iff {subtags : List String} {l : Locale} :
    Written subtags l ↔ ∃ form ∈ forms, HasForm form subtags ∧ ofForm form subtags = l := by
  constructor
  · exact Written.hasForm
  · rintro ⟨form, inf, h, rfl⟩
    obtain ⟨l, written⟩ := h.written inf
    obtain ⟨other, ino, h', rfl⟩ := written.hasForm
    rwa [h.unique inf ino h']

namespace Reading

theorem ofTokens_drop {tokens : List String} {pos : Nat} {body : String}
    (h : tokens[pos]? = some ("b+" ++ body)) :
    ofTokens (tokens.drop pos) = ofTag ("b+" ++ body) body.toList := by
  obtain ⟨inside, at_pos⟩ := List.getElem?_eq_some_iff.mp h
  rw [List.drop_eq_getElem_cons inside, at_pos]
  simp only [ofTokens, tagBody?_append]

/-- **A tag is read by the one form it has.** It is accepted if and only if its subtags have a
form, which is then the only one; the locale holds what the form says, and the tag is all that is
read. A tag without a form is refused. -/
theorem ofTokens_of_tag {tokens : List String} {pos : Nat} {body : String}
    (h : tokens[pos]? = some ("b+" ++ body)) :
    ofTokens (tokens.drop pos) = ofTokens ["b+" ++ body] ∧
      ((∃ n, (ofTokens (tokens.drop pos)).outcome = .ok n) ↔
        ∃! form, form ∈ forms ∧ HasForm form (subtags body.toList)) ∧
      (∀ form ∈ forms, HasForm form (subtags body.toList) →
        (ofTokens (tokens.drop pos)).outcome = .ok 1 ∧
          (ofTokens (tokens.drop pos)).onto unspecified = ofForm form (subtags body.toList)) ∧
      ((∀ form ∈ forms, ¬HasForm form (subtags body.toList)) →
        ∃ fault, (ofTokens (tokens.drop pos)).outcome = .error ⟨"b+" ++ body, fault⟩) := by
  have alone : ofTokens (tokens.drop pos) = ofTokens ["b+" ++ body] := by
    rw [ofTokens_drop h]
    exact (@ofTokens_drop ["b+" ++ body] 0 body rfl).symm
  have tag := tagBody?_append body
  have accepted : ∀ form ∈ forms, HasForm form (subtags body.toList) →
      (ofTokens ["b+" ++ body]).outcome = .ok 1 ∧
        (ofTokens ["b+" ++ body]).onto unspecified = ofForm form (subtags body.toList) := by
    intro form inf has
    exact ofTokens_of_written tag (written_iff.mpr ⟨form, inf, has, rfl⟩)
  have refused : (∀ form ∈ forms, ¬HasForm form (subtags body.toList)) →
      ∃ fault, (ofTokens ["b+" ++ body]).outcome = .error ⟨"b+" ++ body, fault⟩ := by
    intro none
    rcases written_or_malformed tag with ⟨l, written⟩ | ⟨fault, malformed⟩
    · obtain ⟨form, inf, has, -⟩ := written.hasForm
      exact absurd has (none form inf)
    · exact ⟨fault, ofTokens_of_malformed malformed⟩
  rw [alone]
  refine ⟨rfl, ⟨?_, ?_⟩, accepted, refused⟩
  · rintro ⟨n, ok⟩
    by_contra without
    have none : ∀ form ∈ forms, ¬HasForm form (subtags body.toList) := by
      intro form inf has
      exact without ⟨form, ⟨inf, has⟩, fun other ⟨ino, has'⟩ => has'.unique ino inf has⟩
    obtain ⟨fault, error⟩ := refused none
    cases ok.symm.trans error
  · rintro ⟨form, ⟨inf, has⟩, -⟩
    exact ⟨1, (accepted form inf has).1⟩

/-- A tag between other tokens, in capitals, with a region token after it. -/
theorem ofTokens_of_full_tag :
    (ofTokens (["mcc310", "b+SR+LATN+RS+Ekavsk", "rus"].drop 1)).outcome = .ok 1 ∧
      (ofTokens (["mcc310", "b+SR+LATN+RS+Ekavsk", "rus"].drop 1)).onto unspecified =
        ⟨some "sr", some "RS", some "Latn", some "ekavsk"⟩ := by
  have has : HasForm [.language, .script, .region, .variant]
      (subtags "SR+LATN+RS+Ekavsk".toList) := by
    decide
  obtain ⟨-, -, accepted, -⟩ :=
    @ofTokens_of_tag ["mcc310", "b+SR+LATN+RS+Ekavsk", "rus"] 1 "SR+LATN+RS+Ekavsk" rfl
  exact accepted _ (by decide) has

end Reading
end DeviceQualifier.Locale
