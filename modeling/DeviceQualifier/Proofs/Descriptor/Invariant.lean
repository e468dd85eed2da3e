import DeviceQualifier.Proofs.Config.Describable
import DeviceQualifier.Proofs.Descriptor.Scan

/-!
Whatever a category reads, what it writes keeps a configuration describable, in any order of the
categories. So a matcher can be asked again and again, at any tokens, and decoding never leaves the
describable configurations.
-/
namespace DeviceQualifier.Descriptor

open Category (Reads)

theorem Write.Fits.allows {w : Write} (hw : w.Fits) {r : Config}
    (h : ∀ f : NumField, f.Allows (r.get f)) (f : NumField) : f.Allows ((w.apply r).get f) := by
  cases w with
  | number g n => exact Config.allows_set h hw f
  | bits word mask n =>
    obtain ⟨v, -, rfl, rfl, hn⟩ := hw
    exact Config.allows_setBits h hn f
  | locale l => exact hw.elim

theorem Write.Fits.locale {w : Write} (hw : w.Fits) (r : Config) :
    (w.apply r).locale = r.locale := by
  cases w with
  | number g n => exact Config.locale_set r g n
  | bits word mask n => exact Config.locale_set r word _
  | locale l => exact hw.elim

theorem numbers_foldl {ws : List Write} (hws : ∀ w ∈ ws, w.Fits) {r : Config}
    (h : ∀ f : NumField, f.Allows (r.get f)) (f : NumField) :
    f.Allows ((ws.foldl Write.apply r).get f) := by
  induction ws generalizing r with
  | nil => exact h f
  | cons w ws ih =>
    have hw := hws w List.mem_cons_self
    exact ih (fun v hv => hws v (List.mem_cons_of_mem _ hv)) (hw.allows h)

theorem locale_foldl {ws : List Write} (hws : ∀ w ∈ ws, w.Fits) (r : Config) :
    (ws.foldl Write.apply r).locale = r.locale := by
  induction ws generalizing r with
  | nil => rfl
  | cons w ws ih =>
    have hw := hws w List.mem_cons_self
    rw [List.foldl_cons, ih fun v hv => hws v (List.mem_cons_of_mem _ hv), hw.locale]

theorem Write.Fits.apply_withLocale {w : Write} (hw : w.Fits) (r : Config) (l : Locale) :
    w.apply { r with locale := l } = { w.apply r with locale := l } := by
  cases w with
  | number f n => cases f <;> rfl
  | bits word mask n => cases word <;> rfl
  | locale k => exact hw.elim

/-- Writes that fit neither see the locale nor change it. -/
theorem foldl_withLocale {ws : List Write} (hws : ∀ w ∈ ws, w.Fits) (r : Config) (l : Locale) :
    ws.foldl Write.apply { r with locale := l } =
      { ws.foldl Write.apply r with locale := l } := by
  induction ws generalizing r with
  | nil => rfl
  | cons w ws ih =>
    have hw := hws w List.mem_cons_self
    rw [List.foldl_cons, hw.apply_withLocale, ih fun v hv => hws v (List.mem_cons_of_mem _ hv)]
    rfl

namespace Category

/-- The sizes in pixels are written together, the larger one first. -/
theorem Reads.pixels_order {c : Category} {g : List String} {ws : List Write} (h : Reads c g ws)
    {r : Config} (hr : r.screenHeight ≤ r.screenWidth) :
    (ws.foldl Write.apply r).screenHeight ≤ (ws.foldl Write.apply r).screenWidth := by
  have others {n : Int} (hc : c ≠ Category.pixels) :
      ((c.writes n).foldl Write.apply r).screenHeight = r.screenHeight ∧
        ((c.writes n).foldl Write.apply r).screenWidth = r.screenWidth := by
    cases c <;> first | exact absurd rfl hc | exact ⟨rfl, rfl⟩
  cases h with
  | wildcard hc =>
    by_cases hp : c = Category.pixels
    · subst hp
      exact Int.le_refl 0
    · rwa [(others hp).1, (others hp).2]
  | word hs hw =>
    have hp : c ≠ Category.pixels := by
      rintro rfl
      cases hs
    rwa [(others hp).1, (others hp).2]
  | number hm hn fits =>
    have hp : c ≠ Category.pixels := by
      rintro rfl
      cases hm
    rwa [(others hp).1, (others hp).2]
  | pixels hw hh fits order =>
    exact Int.ofNat_le.mpr order
  | locale h => exact hr

end Category

/-- What a category reads keeps a configuration describable. -/
theorem describable_of_reads {c : Category} {g : List String} {ws : List Write}
    (reads : Reads c g ws) {r : Config} (h : r.Describable) :
    (ws.foldl Write.apply r).Describable := by
  refine ⟨?_, reads.pixels_order h.pixels, ?_⟩
  · rcases reads.fits with fits | ⟨l, rfl, -⟩
    · exact numbers_foldl fits h.numbers
    · exact h.numbers
  · rcases reads.fits with fits | ⟨l, rfl, hl⟩
    · rw [locale_foldl fits]
      exact h.locale
    · exact hl

/-- Whatever a canonical matcher recognises is a group that its category reads. -/
theorem exists_reads_of_recognize {c : Category} {ts : List String} {found : Match}
    (h : c.matcher.recognize ts = .ok (some found)) : ∃ g, Reads c g found.writes := by
  cases ts with
  | nil => cases c <;> cases h
  | cons t rest =>
    have turn := Category.turn c t rest
    rw [h] at turn
    cases turn with
    | taken reads whole => exact ⟨_, reads⟩

/-- An attempt of a canonical matcher leaves a describable configuration describable. -/
theorem describable_of_attempt {c : Category} {ts : List String} {r r' : Config} {n : Nat}
    (ha : c.matcher.attempt ts r = .ok (n, r')) (h : r.Describable) : r'.Describable := by
  unfold Matcher.attempt at ha
  cases hrec : c.matcher.recognize ts with
  | error e =>
    rw [hrec] at ha
    cases ha
  | ok found =>
    rw [hrec] at ha
    cases found with
    | none =>
      cases ha
      exact h
    | some found =>
      cases ha
      obtain ⟨g, reads⟩ := exists_reads_of_recognize hrec
      exact describable_of_reads reads h

/-- Canonical matchers in any order, with any repetitions, run to a describable configuration. -/
theorem describable_of_run {cs : List Category} {ts : List String} {r r' : Config}
    (hrun : run (cs.map Category.matcher) ts r = .ok r') (h : r.Describable) : r'.Describable := by
  induction cs generalizing ts r with
  | nil =>
    cases ts with
    | nil =>
      cases hrun
      exact h
    | cons t rest => cases hrun
  | cons c cs ih =>
    cases ts with
    | nil =>
      cases hrun
      exact h
    | cons t rest =>
      rw [List.map_cons, run] at hrun
      split at hrun
      · cases hrun
      · cases hrun
      · rename_i taken q ha
        exact ih hrun (describable_of_attempt ha h)

theorem describable_of_decodeWith {cs : List Category} {d : String} {r : Config}
    (h : decodeWith (cs.map Category.matcher) d = .ok r) : r.Describable := by
  unfold decodeWith at h
  cases hrun : run (cs.map Category.matcher) (tokens d) Config.unspecified with
  | error e =>
    rw [hrun] at h
    cases h
  | ok q =>
    rw [hrun] at h
    cases h
    exact describable_of_run hrun Config.describable_unspecified

theorem describable_of_decode {d : String} {r : Config} (h : decode d = .ok r) : r.Describable :=
  @describable_of_decodeWith Category.all d r h

end DeviceQualifier.Descriptor
