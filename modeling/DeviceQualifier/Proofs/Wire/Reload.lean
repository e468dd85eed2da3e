import DeviceQualifier.Proofs.Wire.RoundTrip

/-!
Writing a configuration and reading it back, for any numbers and texts whatsoever. What comes back
differs from what was written only in texts that are empty or hold a zero character, and it is
stable: it is written and read again without a change.
-/
namespace DeviceQualifier.Wire

theorem upToZero_eq_some {cs : List Char} {s : String} (h : upToZero cs = some s) :
    s.toList = cs.takeWhile (·.toNat != 0) ∧ s ≠ "" := by
  unfold upToZero at h
  split at h
  · cases h
  · rename_i empty
    cases h
    rw [String.toList_ofList]
    refine ⟨rfl, fun none => empty ?_⟩
    rw [← String.toList_ofList (l := cs.takeWhile _), none]
    rfl

/-- What is kept of a text starts it and has no zero character. -/
theorem kept_eq_some {text : Option String} {s : String} (h : kept text = some s) :
    s.toList <+: chars text ∧ s ≠ "" ∧ ∀ c ∈ s.toList, c.toNat ≠ 0 := by
  obtain ⟨hs, hne⟩ := upToZero_eq_some h
  rw [hs]
  refine ⟨List.takeWhile_prefix _, hne, fun c hc => ?_⟩
  simpa using List.mem_takeWhile_imp hc

theorem kept_kept (text : Option String) : kept (kept text) = kept text := by
  cases h : kept text with
  | none => rfl
  | some s =>
    obtain ⟨-, hne, visible⟩ := kept_eq_some h
    exact kept_some hne visible

theorem toNat_eq_zero_iff (c : Char) : c.toNat = 0 ↔ c = '\x00' := by
  constructor
  · intro h
    rw [← Char.ofNat_toNat c, h]
  · rintro rfl
    rfl

/-- A text is kept as it is if there is none, or if it has characters and no zero among them. -/
theorem kept_eq_self_iff (text : Option String) :
    kept text = text ↔ ∀ s, text = some s → s ≠ "" ∧ '\x00' ∉ s.toList := by
  constructor
  · rintro h s rfl
    obtain ⟨-, hne, visible⟩ := kept_eq_some h
    exact ⟨hne, fun zero => visible _ zero rfl⟩
  · intro h
    cases text with
    | none => rfl
    | some s =>
      obtain ⟨hne, zero⟩ := h s rfl
      refine kept_some hne fun c hc hz => zero ?_
      rwa [(toNat_eq_zero_iff c).mp hz] at hc

theorem part_keptLocale (l : Locale) (p : Locale.Part) :
    (keptLocale l).part p = kept (l.part p) := by
  cases p <;> rfl

theorem keptLocale_eq_self_iff (l : Locale) : keptLocale l = l ↔
    ∀ p s, l.part p = some s → s ≠ "" ∧ '\x00' ∉ s.toList := by
  constructor
  · intro h p
    rw [← kept_eq_self_iff, ← part_keptLocale, h]
  · intro h
    apply Locale.ext_part
    intro p
    rw [part_keptLocale]
    exact (kept_eq_self_iff _).mpr (h p)

theorem keptLocale_keptLocale (l : Locale) : keptLocale (keptLocale l) = keptLocale l := by
  apply Locale.ext_part
  intro p
  rw [part_keptLocale, part_keptLocale, kept_kept]

/-- A start of a text fits wherever the text does. -/
theorem slotBytes_kept {slot : Slot} {text : Option String} {raw : List UInt8}
    (h : slotBytes slot text = .ok raw) : ∃ again, slotBytes slot (kept text) = .ok again := by
  cases hk : kept text with
  | none => exact ⟨[], rfl⟩
  | some s =>
    obtain ⟨starts, -, -⟩ := kept_eq_some hk
    obtain ⟨ascii, short, -⟩ := slotBytes_eq_ok h
    exact ⟨_, asciiBytes_ok (fun c hc => ascii c (starts.subset hc))
      (Nat.le_trans starts.length_le short)⟩

namespace Code

/-- Three characters are kept as a whole or cut to two. -/
theorem pack_kept {base : Char} {text : Option String} {bytes : List UInt8}
    (h : pack base text = .ok bytes) : ∃ again, pack base (kept text) = .ok again := by
  cases hk : kept text with
  | none => exact ⟨_, rfl⟩
  | some s =>
    obtain ⟨starts, -, -⟩ := kept_eq_some hk
    obtain ⟨ascii, three, -⟩ := packBytes_of_pack h
    by_cases short : s.toList.length ≤ 2
    · exact ⟨_, pack_short base (fun c hc => ascii c (starts.subset hc)) short⟩
    · have whole : s.toList = chars text := starts.eq_of_length_le (by omega)
      cases text with
      | none => cases hk
      | some t =>
        rw [String.toList_inj.mp whole]
        exact ⟨bytes, h⟩

end Code

theorem write_kept {r : Config} {bytes : List UInt8} (h : write r = .ok bytes) :
    ∃ again, write { r with locale := keptLocale r.locale } = .ok again := by
  obtain ⟨l, hl, g, hg, s, hs, v, hv, fit, -⟩ := write_eq_ok_iff.mp h
  obtain ⟨l', hl'⟩ := Code.pack_kept hl
  obtain ⟨g', hg'⟩ := Code.pack_kept hg
  obtain ⟨s', hs'⟩ := slotBytes_kept hs
  obtain ⟨v', hv'⟩ := slotBytes_kept hv
  exact ⟨_, write_eq_ok_iff.mpr ⟨l', hl', g', hg', s', hs', v', hv', fit, rfl⟩⟩

/-- **Reloading a configuration.** Every configuration that has a record comes back from it, with
all its numbers and with each text up to its first zero character. It comes back unchanged unless a
text is empty or holds a zero, and once reloaded it does not change again. -/
theorem reload_of_write {r : Config} {bytes : List UInt8} (h : write r = .ok bytes) :
    ∃ q, read bytes = .ok q ∧ (∀ f, q.get f = r.get f) ∧
      (∀ p, q.locale.part p = kept (r.locale.part p)) ∧
      (q = r ↔ ∀ p s, r.locale.part p = some s → s ≠ "" ∧ '\x00' ∉ s.toList) ∧
      ∃ again, write q = .ok again ∧ read again = .ok q := by
  refine ⟨{ r with locale := keptLocale r.locale }, read_of_write h, ?_, part_keptLocale _, ?_, ?_⟩
  · intro f
    cases f <;> rfl
  · rw [← keptLocale_eq_self_iff]
    constructor
    · intro same
      exact congrArg Config.locale same
    · intro same
      rw [same]
  · obtain ⟨again, rewritten⟩ := write_kept h
    refine ⟨again, rewritten, ?_⟩
    rw [read_of_write rewritten, keptLocale_keptLocale]

/-- Of three texts with a zero character one is cut, one goes, and a packed code stays. -/
theorem reload_cuts_texts :
    ∃ bytes, write { Config.unspecified with
        mnc := 0xFFFF, colorMode := 0xFF
        locale := ⟨some "fil", some "", some "\x00at", some "v1\x002"⟩ } = .ok bytes ∧
      read bytes = .ok { Config.unspecified with
        mnc := 0xFFFF, colorMode := 0xFF, locale := ⟨some "fil", none, none, some "v1"⟩ } := by
  refine ⟨_, rfl, ?_⟩
  obtain ⟨q, read, numbers, texts, -, -⟩ := reload_of_write (r := { Config.unspecified with
    mnc := 0xFFFF, colorMode := 0xFF
    locale := ⟨some "fil", some "", some "\x00at", some "v1\x002"⟩ }) rfl
  rw [read]
  congr
  apply Config.ext_fields
  · apply Locale.ext_part
    intro p
    rw [texts]
    cases p <;> rfl
  · intro f
    rw [numbers]
    cases f <;> rfl

end DeviceQualifier.Wire
