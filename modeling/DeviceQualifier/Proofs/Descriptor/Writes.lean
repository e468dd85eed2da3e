import DeviceQualifier.Proofs.Bits
import DeviceQualifier.Proofs.Config.Describable
import DeviceQualifier.Proofs.Descriptor.Owner

/-!
What is in a configuration after some writes, said by its fields: a number and a locale are the ones
written, a packed word shows what was written through its view, and the rest is as before. There is
one such configuration, `Leaves.unique`, and where no two writes meet it is the one that they make,
`leaves_foldl`.
-/
namespace DeviceQualifier

/-- A code of a part has no bits outside it. -/
theorem View.conj_codes : ∀ v ∈ View.all, ∀ n ∈ v.codes, Bits.conj n v.mask = n := by
  decide +kernel

namespace Descriptor

/-- What a write may change. -/
inductive Place where
  | number (f : NumField)
  | part (word : NumField) (mask : Int)
  | locale
  deriving DecidableEq, Repr

namespace Place

/-- The bits of a number that belong to a place. -/
def Selects : Place → NumField → Nat → Prop
  | number f, g, _ => g = f
  | part word mask, g, i => g = word ∧ Bits.bit mask i = true
  | locale, _, _ => False

/-- Two places that have nothing in common. -/
def Apart : Place → Place → Prop
  | number f, number g => f ≠ g
  | number f, part word _ => f ≠ word
  | part word _, number f => word ≠ f
  | part word m, part other n => word = other → Bits.conj m n = 0
  | locale, locale => False
  | _, _ => True

instance (a b : Place) : Decidable (a.Apart b) :=
  match a, b with
  | number _, number _ => inferInstanceAs (Decidable (_ ≠ _))
  | number _, part .. => inferInstanceAs (Decidable (_ ≠ _))
  | part .., number _ => inferInstanceAs (Decidable (_ ≠ _))
  | part .., part .. => inferInstanceAs (Decidable (_ → _))
  | locale, locale => inferInstanceAs (Decidable False)
  | number _, locale | part .., locale | locale, number _ | locale, part .. =>
    inferInstanceAs (Decidable True)

theorem Apart.not_selects {a b : Place} (apart : a.Apart b) {f : NumField} {i : Nat}
    (ha : a.Selects f i) : ¬b.Selects f i := by
  intro hb
  cases a with
  | locale => exact ha
  | number g =>
    obtain rfl : f = g := ha
    cases b with
    | locale => exact hb
    | number _ => exact apart hb
    | part _ _ => exact apart hb.1
  | part word m =>
    obtain ⟨rfl, ha⟩ := ha
    cases b with
    | locale => exact hb
    | number _ => exact apart hb
    | part other n =>
      obtain ⟨same, hb⟩ := hb
      have none := Bits.not_bit_of_conj_eq_zero (apart same) ha
      exact Bool.false_ne_true (none.symm.trans hb)

end Place

namespace Write

def place : Write → Place
  | number f _ => .number f
  | bits word mask _ => .part word mask
  | locale _ => .locale

/-- What was written shows. -/
def ShownBy (q : Config) : Write → Prop
  | number f n => q.get f = n
  | bits word mask n => ∃ v : View, v.word = word ∧ v.mask = mask ∧ q.view v = n
  | locale l => q.locale = l

/-- `q` is what some writes leave of `r`. -/
structure Leaves (ws : List Write) (r q : Config) : Prop where
  shown : ∀ w ∈ ws, w.ShownBy q
  numbers : ∀ f i, (∀ w ∈ ws, ¬w.place.Selects f i) →
    Bits.bit (q.get f) i = Bits.bit (r.get f) i
  locale : (∀ w ∈ ws, w.place ≠ .locale) → q.locale = r.locale

theorem ShownBy.bit_eq {w : Write} {p q : Config} (hp : w.ShownBy p) (hq : w.ShownBy q)
    {f : NumField} {i : Nat} (selected : w.place.Selects f i) :
    Bits.bit (p.get f) i = Bits.bit (q.get f) i := by
  cases w with
  | locale l => exact selected.elim
  | number g n =>
    obtain rfl : f = g := selected
    exact congrArg (Bits.bit · i) (hp.trans hq.symm)
  | bits word mask n =>
    obtain ⟨rfl, selected⟩ := selected
    obtain ⟨v, rfl, rfl, hp⟩ := hp
    obtain ⟨u, word, mask, hq⟩ := hq
    have same := congrArg (Bits.bit · i) (hp.trans hq.symm)
    simpa [Config.view, word, mask, Bits.bit_conj, selected] using same

theorem ShownBy.congr {w : Write} {p q : Config} (hp : w.ShownBy p)
    (numbers : ∀ f i, w.place.Selects f i → Bits.bit (q.get f) i = Bits.bit (p.get f) i)
    (locale : w.place = .locale → q.locale = p.locale) : w.ShownBy q := by
  cases w with
  | locale l => exact (locale rfl).trans hp
  | number f n => exact Eq.trans (Bits.eq_of_bit_eq fun i => numbers f i rfl) hp
  | bits word mask n =>
    obtain ⟨v, rfl, rfl, rfl⟩ := hp
    refine ⟨v, rfl, rfl, Bits.eq_of_bit_eq fun i => ?_⟩
    simp only [Config.view, Bits.bit_conj]
    cases selected : Bits.bit v.mask i with
    | false => simp
    | true => rw [numbers v.word i ⟨rfl, selected⟩]

namespace Leaves

theorem refl (r : Config) : Leaves [] r r :=
  ⟨List.forall_mem_nil _, fun _ _ _ => rfl, fun _ => rfl⟩

/-- Some writes leave one configuration. -/
theorem unique {ws : List Write} {r p q : Config} (hp : Leaves ws r p) (hq : Leaves ws r q) :
    p = q := by
  apply Config.ext_fields
  · by_cases written : ∃ l, Write.locale l ∈ ws
    · obtain ⟨l, hl⟩ := written
      exact Eq.trans (hp.shown _ hl) (hq.shown _ hl).symm
    · have elsewhere : ∀ w ∈ ws, w.place ≠ .locale := by
        intro w hw
        cases w with
        | locale l => exact absurd ⟨l, hw⟩ written
        | number | bits => exact nofun
      rw [hp.locale elsewhere, hq.locale elsewhere]
  · intro f
    apply Bits.eq_of_bit_eq
    intro i
    by_cases written : ∃ w ∈ ws, w.place.Selects f i
    · obtain ⟨w, hw, selected⟩ := written
      exact (hp.shown w hw).bit_eq (hq.shown w hw) selected
    · have elsewhere : ∀ w ∈ ws, ¬w.place.Selects f i :=
        fun w hw selected => written ⟨w, hw, selected⟩
      rw [hp.numbers f i elsewhere, hq.numbers f i elsewhere]

/-- Later writes keep what earlier ones left, as long as they go elsewhere. -/
theorem append {as bs : List Write} {r p q : Config} (hp : Leaves as r p) (hq : Leaves bs p q)
    (apart : ∀ a ∈ as, ∀ b ∈ bs, a.place.Apart b.place) : Leaves (as ++ bs) r q where
  shown w hw := by
    rcases List.mem_append.mp hw with hw | hw
    · refine (hp.shown w hw).congr (fun f i selected => hq.numbers f i fun b hb => ?_)
        fun locale => hq.locale fun b hb => ?_
      · exact (apart w hw b hb).not_selects selected
      · have := apart w hw b hb
        rw [locale] at this
        intro again
        rw [again] at this
        exact this
    · exact hq.shown w hw
  numbers f i elsewhere := by
    rw [hq.numbers f i fun b hb => elsewhere b (List.mem_append_right _ hb),
      hp.numbers f i fun a ha => elsewhere a (List.mem_append_left _ ha)]
  locale elsewhere := by
    rw [hq.locale fun b hb => elsewhere b (List.mem_append_right _ hb),
      hp.locale fun a ha => elsewhere a (List.mem_append_left _ ha)]

end Leaves

/-- A number, or the part of a packed word, that a descriptor can ask for. -/
def Fits : Write → Prop
  | number f n => f.Allows n
  | bits word mask n => ∃ v ∈ View.all, v.word = word ∧ v.mask = mask ∧ n ∈ v.codes
  | locale _ => False

instance (w : Write) : Decidable w.Fits :=
  match w with
  | .number f n => inferInstanceAs (Decidable (f.Allows n))
  | .bits .. => inferInstanceAs (Decidable (∃ v ∈ View.all, _))
  | .locale _ => inferInstanceAs (Decidable False)

/-- A write that fits, or one of a locale, is done by what it writes. -/
theorem leaves_apply {w : Write} (h : w.Fits ∨ ∃ l, w = .locale l) (r : Config) :
    Leaves [w] r (w.apply r) := by
  have elsewhere {f : NumField} {i : Nat} (h : ∀ v ∈ [w], ¬v.place.Selects f i) :=
    h w List.mem_cons_self
  cases w with
  | number g n =>
    refine ⟨List.forall_mem_singleton.mpr ?_, fun f i h => ?_, fun _ => Config.locale_set r g n⟩
    · exact (Config.get_set r g g n).trans (if_pos rfl)
    · have other : f ≠ g := elsewhere h
      rw [apply, Config.get_set, if_neg other]
  | bits word mask n =>
    obtain ⟨v, -, rfl, rfl, hn⟩ : Fits (.bits word mask n) := h.resolve_right nofun
    refine ⟨List.forall_mem_singleton.mpr ⟨v, rfl, rfl, ?_⟩, fun f i h => ?_,
      fun _ => Config.locale_set r v.word _⟩
    · rw [apply, Config.view, Config.get_setBits, if_pos rfl, Bits.conj_setBits]
      exact View.conj_codes v v.mem_all n hn
    · have other : ¬(f = v.word ∧ Bits.bit v.mask i = true) := elsewhere h
      rw [apply, Config.get_setBits]
      by_cases same : f = v.word
      · have clear : ¬Bits.bit v.mask i = true := fun set => other ⟨same, set⟩
        rw [if_pos same, Bits.bit_setBits, if_neg clear, same]
      · rw [if_neg same]
  | locale l =>
    refine ⟨List.forall_mem_singleton.mpr rfl, fun _ _ _ => rfl, fun h => ?_⟩
    exact absurd rfl (h _ List.mem_cons_self)

/-- Writes that go to places of their own are all there in the end. -/
theorem leaves_foldl {ws : List Write} (h : ∀ w ∈ ws, w.Fits ∨ ∃ l, w = .locale l)
    (apart : (ws.map place).Pairwise Place.Apart) (r : Config) :
    Leaves ws r (ws.foldl apply r) := by
  induction ws generalizing r with
  | nil => exact .refl r
  | cons w ws ih =>
    obtain ⟨first, others⟩ := List.forall_mem_cons.mp h
    obtain ⟨ahead, apart⟩ := List.pairwise_cons.mp apart
    refine (leaves_apply first r).append (ih others apart (w.apply r)) ?_
    rintro a ha b hb
    cases List.mem_singleton.mp ha
    exact ahead _ (List.mem_map_of_mem hb)

end Write

namespace Category

theorem fits_wildcard : ∀ c ∈ all, ∀ w ∈ c.writes 0, w.Fits := by
  decide +kernel

theorem fits_words : ∀ c ∈ all, ∀ s ∈ c.scale?, ∀ e ∈ s.words, ∀ w ∈ c.writes e.2, w.Fits := by
  decide +kernel

theorem fits_number {c : Category} {m : String × String} (hm : c.marks? = some m) {n : Int}
    (h0 : 0 ≤ n) (h : n ≤ 65535) : ∀ w ∈ c.writes n, w.Fits := by
  cases c <;> cases hm <;> simp [writes, Write.Fits, NumField.Allows, h0, h]

theorem limit_le (c : Category) : c.limit ≤ 65535 := by
  cases c <;> decide

theorem stored_range {c : Category} {n : Nat} (h : n ≤ c.limit) :
    0 ≤ c.stored n ∧ c.stored n ≤ 65535 := by
  have := c.limit_le
  unfold stored
  split <;> omega

theorem Reads.spelled {g : List String} {ws : List Write} (h : Reads .locale g ws) :
    ∃ l, ws = [.locale l] ∧ Locale.Spelled g l := by
  cases h with
  | wildcard hc => exact absurd rfl hc
  | word hs => cases hs
  | number hm => cases hm
  | locale h => exact ⟨_, rfl, h⟩

/-- Outside the locale, what is read writes numbers and parts that fit. -/
theorem Reads.fits_of_ne_locale {c : Category} {g : List String} {ws : List Write}
    (h : Reads c g ws) (hc : c ≠ .locale) : ∀ w ∈ ws, w.Fits := by
  cases h with
  | wildcard => exact fits_wildcard c c.mem_all
  | word hs hw => exact fits_words c c.mem_all _ hs _ hw
  | number hm hn fits =>
    obtain ⟨low, high⟩ := stored_range fits
    exact fits_number hm low high
  | pixels hw hh fits order =>
    simp [Write.Fits, NumField.Allows]
    omega
  | locale => exact absurd rfl hc

/-- What is read writes numbers and parts that fit, or a locale that tokens spell. -/
theorem Reads.fits {c : Category} {g : List String} {ws : List Write} (h : Reads c g ws) :
    (∀ w ∈ ws, w.Fits) ∨ ∃ l, ws = [.locale l] ∧ l.Describable := by
  by_cases hc : c = .locale
  · subst hc
    obtain ⟨l, rfl, spelled⟩ := h.spelled
    exact .inr ⟨l, rfl, .inr (Locale.described_of_spelled spelled)⟩
  · exact .inl (h.fits_of_ne_locale hc)

/-- The places that a category writes to. -/
def places : Category → List Place
  | locale => [.locale]
  | c => (c.writes 0).map Write.place

theorem map_place_writes {c : Category} (hc : c ≠ .locale) (n : Int) :
    (c.writes n).map Write.place = c.places := by
  cases c <;> first | exact absurd rfl hc | rfl

theorem Reads.places {c : Category} {g : List String} {ws : List Write} (h : Reads c g ws) :
    ws.map Write.place = c.places := by
  cases h with
  | wildcard hc => exact map_place_writes hc _
  | word hs hw =>
    refine map_place_writes ?_ _
    rintro rfl
    cases hs
  | number hm hn fits =>
    refine map_place_writes ?_ _
    rintro rfl
    cases hm
  | pixels | locale => rfl

theorem pairwise_places : ∀ c ∈ all, c.places.Pairwise Place.Apart := by
  decide +kernel

/-- No two categories write to the same place. -/
theorem apart_of_lt : ∀ b ∈ all, ∀ c ∈ all, b.number < c.number →
    ∀ p ∈ b.places, ∀ q ∈ c.places, p.Apart q := by
  decide +kernel

section Leaves
variable {c : Category} {g : List String} {ws : List Write} (reads : Reads c g ws)
include reads

theorem Reads.fits_or_locale : ∀ w ∈ ws, w.Fits ∨ ∃ l, w = .locale l := by
  rcases reads.fits with fits | ⟨l, rfl, -⟩
  · exact fun w hw => .inl (fits w hw)
  · exact List.forall_mem_singleton.mpr (.inr ⟨l, rfl⟩)

/-- What a category reads is done by its writes. -/
theorem Reads.leaves (r : Config) : Write.Leaves ws r (ws.foldl Write.apply r) := by
  refine Write.leaves_foldl reads.fits_or_locale ?_ r
  rw [reads.places]
  exact pairwise_places c c.mem_all

theorem Reads.eq_of_leaves {r q : Config} (left : Write.Leaves ws r q) :
    ws.foldl Write.apply r = q :=
  (reads.leaves r).unique left

end Leaves

end Category
end Descriptor
end DeviceQualifier
