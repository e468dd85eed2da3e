import DeviceQualifier.Proofs.Descriptor.Invariant
import DeviceQualifier.Proofs.Wire.RoundTrip

/-!
Every describable configuration fits the binary record and comes back from it unchanged. So does
every configuration that matchers can bring about, in whatever order they are asked.
-/
namespace DeviceQualifier

namespace Wire

/-- Text that a record can hold without loss, if it is short enough. -/
def Storable (s : String) : Prop := s ≠ "" ∧ ∀ c ∈ s.toList, c.toNat ≠ 0 ∧ c.toNat < 128

theorem Storable.kept {s : String} (h : Storable s) : kept (some s) = some s :=
  kept_some h.1 fun c hc => (h.2 c hc).1

theorem Storable.ascii {s : String} (h : Storable s) : ∀ c ∈ s.toList, c.toNat < 128 :=
  fun c hc => (h.2 c hc).2

theorem visible {c : Char} (h : Locale.isLetterOrDigit c = true ∨ Locale.isCapital c = true) :
    c.toNat ≠ 0 ∧ c.toNat < 128 := by
  refine ⟨fun zero => ?_, ?_⟩
  · have hc : c = Char.ofNat 0 := by rw [← zero, Char.ofNat_toNat]
    subst hc
    rcases h with h | h <;> cases h
  · rcases h with h | h
    · exact Text.ascii_of_isLetterOrDigit h
    · exact Locale.ascii_of_isCapital h

theorem near_letter {c : Char} (h : Locale.isLetter c = true) :
    languageBase.toNat ≤ c.toNat ∧ c.toNat - languageBase.toNat < 32 :=
  Text.forall_ascii (P := fun c => Locale.isLetter c = true →
    languageBase.toNat ≤ c.toNat ∧ c.toNat - languageBase.toNat < 32) (by decide)
    (Text.ascii_of_isLetter h) h

theorem near_digit {c : Char} (h : Locale.isDigit c = true) :
    regionBase.toNat ≤ c.toNat ∧ c.toNat - regionBase.toNat < 32 :=
  Text.forall_ascii (P := fun c => Locale.isDigit c = true →
    regionBase.toNat ≤ c.toNat ∧ c.toNat - regionBase.toNat < 32) (by decide)
    (Text.ascii_of_isDigit h) h

/-- Letters and digits can be stored. -/
theorem storable_of_shown {s : String} (filled : 0 < s.toList.length)
    (shown : ∀ c ∈ s.toList, Locale.isLetterOrDigit c = true ∨ Locale.isCapital c = true) :
    Storable s := by
  constructor
  · rintro rfl
    cases filled
  · exact fun c hc => visible (shown c hc)

theorem pack_language {w : String} (h : Locale.isLanguage w.toList = true) :
    Storable w ∧ ∃ bytes, Code.pack languageBase (some w) = .ok bytes := by
  simp only [Locale.isLanguage, Bool.and_eq_true, Bool.or_eq_true, beq_iff_eq] at h
  obtain ⟨letters, length⟩ := h
  have storable : Storable w :=
    storable_of_shown (by omega) fun c hc => .inl (Text.plain_of_letters letters c hc)
  refine ⟨storable, ?_⟩
  rcases length with two | three
  · exact ⟨_, Code.pack_short _ storable.ascii (Nat.le_of_eq two)⟩
  · have near : ∀ c ∈ w.toList, _ := fun c hc => near_letter (List.all_eq_true.mp letters c hc)
    exact Code.pack_three storable.ascii three near

theorem pack_region {r : String}
    (h : Locale.isRegion r.toList = true ∨ Locale.isMixedRegion r.toList = true) :
    Storable r ∧ ∃ bytes, Code.pack regionBase (some r) = .ok bytes := by
  have shown := Locale.shown_of_region h
  simp only [Locale.isRegion, Locale.isMixedRegion, Bool.and_eq_true, Bool.or_eq_true,
    beq_iff_eq, List.all_eq_true] at h
  have storable : Storable r := storable_of_shown (by omega) shown
  refine ⟨storable, ?_⟩
  rcases h with (⟨-, two⟩ | ⟨digits, three⟩) | ⟨⟨-, two⟩, -⟩
  · exact ⟨_, Code.pack_short _ storable.ascii (Nat.le_of_eq two)⟩
  · exact Code.pack_three storable.ascii three fun c hc => near_digit (digits c hc)
  · exact ⟨_, Code.pack_short _ storable.ascii (Nat.le_of_eq two)⟩

theorem slot_script {s : String} (h : Locale.isScript s.toList = true) :
    Storable s ∧ ∃ raw, slotBytes .script (some s) = .ok raw := by
  obtain ⟨four, shown⟩ := Locale.shown_of_script h
  have storable : Storable s := storable_of_shown (by omega) shown
  exact ⟨storable, _, asciiBytes_ok storable.ascii (Nat.le_of_eq four)⟩

theorem slot_variant {v : String} (h : v.toList.all Locale.isLetterOrDigit = true ∧
    4 ≤ v.toList.length ∧ v.toList.length ≤ 8) :
    Storable v ∧ ∃ raw, slotBytes .variant (some v) = .ok raw := by
  obtain ⟨plain, long, short⟩ := h
  have storable : Storable v :=
    storable_of_shown (by omega) fun c hc => .inl (List.all_eq_true.mp plain c hc)
  exact ⟨storable, _, asciiBytes_ok storable.ascii short⟩

/-- A text that is stored whenever it is there is stored and kept. -/
theorem stored {store : Option String → Except TextFault (List UInt8)} {bytes : List UInt8}
    (absent : store none = .ok bytes) {text : Option String}
    (there : ∀ s, text = some s → Storable s ∧ ∃ bytes, store (some s) = .ok bytes) :
    (∃ bytes, store text = .ok bytes) ∧ kept text = text := by
  cases text with
  | none => exact ⟨⟨_, absent⟩, rfl⟩
  | some s =>
    obtain ⟨storable, found⟩ := there s rfl
    exact ⟨found, storable.kept⟩

theorem stored_locale {l : Locale} (h : l.Describable) :
    (∃ bytes, Code.pack languageBase l.language = .ok bytes) ∧
      (∃ bytes, Code.pack regionBase l.region = .ok bytes) ∧
      (∃ raw, slotBytes .script l.script = .ok raw) ∧
      (∃ raw, slotBytes .variant l.variant = .ok raw) ∧ keptLocale l = l := by
  rcases h with rfl | ⟨w, described⟩
  · exact ⟨⟨_, rfl⟩, ⟨_, rfl⟩, ⟨_, rfl⟩, ⟨_, rfl⟩, rfl⟩
  · obtain ⟨hl, kl⟩ := @stored (Code.pack languageBase) _ rfl l.language fun s hs => by
      cases hs.symm.trans described.language.1
      exact pack_language described.language.2
    obtain ⟨hr, kr⟩ := @stored (Code.pack regionBase) _ rfl l.region fun s hs =>
      pack_region ((described.region s hs).imp_right And.left)
    obtain ⟨hs, ks⟩ := @stored (slotBytes .script) _ rfl l.script fun s hs =>
      slot_script (described.script s hs)
    obtain ⟨hv, kv⟩ := @stored (slotBytes .variant) _ rfl l.variant fun s hs =>
      slot_variant (described.variant s hs)
    refine ⟨hl, hr, hs, hv, ?_⟩
    rw [keptLocale, kl, kr, ks, kv]

theorem fits_of_allows {f : NumField} {n : Int} (h : f.Allows n) :
    0 ≤ n ∧ n < if isWide f then 0x10000 else 0x100 := by
  cases f with
  | screenLayout => exact NumField.packings_byte .screenLayout (by decide) n h
  | screenLayout2 => exact NumField.packings_byte .screenLayout2 (by decide) n h
  | colorMode => exact NumField.packings_byte .colorMode (by decide) n h
  | uiMode => exact NumField.packings_byte .uiMode (by decide) n h
  | inputFlags => exact NumField.packings_byte .inputFlags (by decide) n h
  | _ =>
    simp only [NumField.Allows] at h
    simp only [isWide, if_true, Bool.false_eq_true, if_false]
    omega

/-- A describable configuration has a record and comes back from it. -/
theorem exists_write {r : Config} (h : r.Describable) :
    ∃ bytes, write r = .ok bytes ∧ read bytes = .ok r := by
  obtain ⟨⟨l, hl⟩, ⟨g, hg⟩, ⟨s, hs⟩, ⟨v, hv⟩, same⟩ := stored_locale h.locale
  have fit : numbersFit r = true := numbersFit_iff.mpr fun f => fits_of_allows (h.numbers f)
  have written := write_eq_ok_iff.mpr ⟨l, hl, g, hg, s, hs, v, hv, fit, rfl⟩
  refine ⟨_, written, ?_⟩
  rw [read_of_write written, same]

theorem writeHex_eq_ok_iff {r : Config} {hex : String} :
    writeHex r = .ok hex ↔ ∃ bytes, write r = .ok bytes ∧ Text.Hex.renderUpper bytes = hex := by
  unfold writeHex
  cases write r with
  | error e => simp [Except.map]
  | ok bytes => simp [Except.map]

theorem exists_writeHex {r : Config} (h : r.Describable) : ∃ hex, writeHex r = .ok hex := by
  obtain ⟨bytes, written, -⟩ := exists_write h
  exact ⟨_, writeHex_eq_ok_iff.mpr ⟨bytes, written, rfl⟩⟩

end Wire

namespace Descriptor

/-- One call of a canonical matcher at a place in some tokens. -/
structure Call where
  category : Category
  tokens : List String
  position : Nat

/-- A call that breaks off leaves the configuration as it was. -/
def Call.after (r : Config) (a : Call) : Config :=
  match a.category.matcher.attempt (a.tokens.drop a.position) r with
  | .ok (_, r') => r'
  | .error _ => r

theorem describable_after {r : Config} (h : r.Describable) (a : Call) :
    (a.after r).Describable := by
  unfold Call.after
  split
  · rename_i ha
    exact describable_of_attempt ha h
  · exact h

theorem describable_calls {r : Config} (h : r.Describable) (calls : List Call) :
    (calls.foldl Call.after r).Describable := by
  induction calls generalizing r with
  | nil => exact h
  | cons a calls ih => exact ih (describable_after h a)

/-- **Matchers never outgrow the record.** Whatever calls are made, in any order and at any tokens,
the configuration has a record and comes back from it; so does every configuration decoded with any
list of canonical matchers. -/
theorem calls_survive :
    (∀ calls : List Call, ∃ bytes,
      Wire.write (calls.foldl Call.after Config.unspecified) = .ok bytes ∧
        Wire.read bytes = .ok (calls.foldl Call.after Config.unspecified)) ∧
      ∀ (cs : List Category) (d : String) (r : Config),
        decodeWith (cs.map Category.matcher) d = .ok r →
          ∃ bytes, Wire.write r = .ok bytes ∧ Wire.read bytes = .ok r := by
  constructor
  · intro calls
    exact Wire.exists_write (describable_calls Config.describable_unspecified calls)
  · intro cs d r h
    exact Wire.exists_write (describable_of_decodeWith h)

/-- A list that asks for the locale twice, around the country code. -/
theorem repeated_locale_survives :
    decodeWith ([Category.locale, .mcc, .locale].map Category.matcher) "b+sr+Latn-mcc310-fil-r4A" =
        .ok { Config.unspecified with mcc := 310, locale := ⟨some "fil", some "4A", none, none⟩ } ∧
      ∃ bytes, Wire.read bytes = .ok
        { Config.unspecified with mcc := 310, locale := ⟨some "fil", some "4A", none, none⟩ } := by
  refine ⟨by rfl, ?_⟩
  obtain ⟨bytes, -, read⟩ :=
    calls_survive.2 [.locale, .mcc, .locale] "b+sr+Latn-mcc310-fil-r4A" _ rfl
  exact ⟨bytes, read⟩

end Descriptor
end DeviceQualifier
