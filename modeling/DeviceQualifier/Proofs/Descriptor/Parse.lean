import DeviceQualifier.Proofs.Descriptor.Scan
import Mathlib.Data.List.Chain

/-!
A parse cuts tokens into groups, each read by a category of its own, in canonical order. Decoding
never goes back on a group it took, and need not: `Scan.parse` and `Scan.ok_of_parse` say that the
first category to recognise a token is always a good one to give it to, unless a wildcard takes the
place of a language in front of its region.
-/
namespace DeviceQualifier.Descriptor

open Category (Reads Whole Recognizes)

structure Group where
  category : Category
  tokens : List String
  writes : List Write

/-- A parse of tokens by categories behind the one with number `last`. -/
inductive Parse : Nat → List String → List Group → Prop
  | nil {last} : Parse last [] []
  | cons {last c t g rest ws gs} (above : last < c.number) (reads : Reads c (t :: g) ws)
      (next : Parse c.number rest gs) : Parse last (t :: (g ++ rest)) (⟨c, t :: g, ws⟩ :: gs)

theorem Parse.step {last : Nat} {t : String} {more : List String} {gs : List Group}
    (h : Parse last (t :: more) gs) :
    ∃ c g rest ws gs', more = g ++ rest ∧ gs = ⟨c, t :: g, ws⟩ :: gs' ∧ last < c.number ∧
      Reads c (t :: g) ws ∧ Parse c.number rest gs' := by
  cases h with
  | cons above reads next => exact ⟨_, _, _, _, _, rfl, rfl, above, reads, next⟩

theorem Parse.lower {last low : Nat} {ts : List String} {gs : List Group} (h : Parse last ts gs)
    (hl : low ≤ last) : Parse low ts gs := by
  cases h with
  | nil => exact .nil
  | cons above reads next => exact .cons (by omega) reads next

/-- Tokens other than the wildcard are owned by categories behind the start of their parse. -/
theorem Parse.number_lt_owner {last : Nat} {ts : List String} {gs : List Group}
    (h : Parse last ts gs) {t : String} (ht : t ∈ ts) (named : t ≠ wildcard) :
    last < (Category.owner t).number := by
  induction h with
  | nil => cases ht
  | @cons last c u g rest ws gs above reads next ih =>
    rw [← List.cons_append, List.mem_append] at ht
    cases ht with
    | inl ht => rwa [Category.owner_of_mem reads ht named]
    | inr ht => exact Nat.lt_trans above (ih ht)

/-- Behind the locale nothing starts with a region token. -/
theorem Parse.not_region {last : Nat} {t : String} {more : List String} {gs : List Group}
    (h : Parse last (t :: more) gs) (hl : Category.locale.number ≤ last) :
    Locale.isRegionToken t = false := by
  cases ht : Locale.isRegionToken t with
  | false => rfl
  | true =>
    have named : t ≠ wildcard := by
      rintro rfl
      cases ht
    have above := h.number_lt_owner List.mem_cons_self named
    rw [Category.owner_of_isRegionToken ht] at above
    omega

/-- The groups of a parse write to places of categories that are still to come. -/
theorem Parse.places {last : Nat} {ts : List String} {gs : List Group} (h : Parse last ts gs) :
    ∀ w ∈ gs.flatMap Group.writes, ∃ c : Category, last < c.number ∧ w.place ∈ c.places := by
  induction h with
  | nil => exact nofun
  | @cons last c t g rest ws gs above reads next ih =>
    intro w hw
    rcases List.mem_append.mp hw with hw | hw
    · exact ⟨c, above, reads.places ▸ List.mem_map_of_mem hw⟩
    · obtain ⟨b, behind, hb⟩ := ih w hw
      exact ⟨b, Nat.lt_trans above behind, hb⟩

/-- What a scan takes on its way to a record is a parse, and the record is what its groups leave. -/
theorem Scan.parse {last : Nat} {ts : List String} {r r' : Config}
    {out : Except Rejection Config} (h : Scan last ts r out) (hr : out = .ok r') :
    ∃ gs, Parse last ts gs ∧ Write.Leaves (gs.flatMap Group.writes) r r' := by
  induction h with
  | done =>
    cases hr
    exact ⟨[], .nil, .refl _⟩
  | @take last c t g rest ws r q out above reads least whole left next ih =>
    obtain ⟨gs, parse, written⟩ := ih hr
    refine ⟨_, .cons above reads parse, left.append written fun a ha b hb => ?_⟩
    obtain ⟨c', behind, hb⟩ := parse.places b hb
    have here : a.place ∈ c.places := reads.places ▸ List.mem_map_of_mem ha
    exact Category.apart_of_lt c c.mem_all c' c'.mem_all behind _ here _ hb
  | malformed | unread => cases hr

/-- No wildcard stands right in front of a region token. -/
def Apart (ts : List String) : Prop :=
  ts.IsChain fun t next => t = wildcard → Locale.isRegionToken next = false

instance (ts : List String) : Decidable (Apart ts) := inferInstanceAs (Decidable (ts.IsChain _))

/-- A scan gets through all tokens that have a parse. The group it takes is never behind the first
group of the parse, so what is left has a parse as well. -/
theorem Scan.ok_of_parse {last : Nat} {ts : List String} {r : Config}
    {out : Except Rejection Config} {gs : List Group} (h : Scan last ts r out)
    (parse : Parse last ts gs) (apart : Apart ts) : ∃ r', out = .ok r' := by
  induction h generalizing gs with
  | done => exact ⟨_, rfl⟩
  | @take last c t g rest ws r q out above reads least whole left next ih =>
    have behind : Apart rest := List.IsChain.suffix apart (List.suffix_append (t :: g) rest)
    obtain ⟨c', g', rest', ws', gs', same, -, above', reads', parse'⟩ := parse.step
    have first : c.number ≤ c'.number :=
      Nat.le_of_not_lt fun lt => least c' above' lt ⟨_, _, reads'⟩
    rcases reads.tail with rfl | ⟨rfl, hw, next, rfl, hn⟩ <;>
      rcases reads'.tail with rfl | ⟨rfl, hw', next', rfl, hn'⟩
    · simp only [List.nil_append] at same
      subst same
      exact ih (parse'.lower first) behind
    · -- the parse has a language with its region where the scan took the language alone
      exfalso
      by_cases hc : c = .locale
      · have := whole hc t next' rfl hw' (by rw [← List.nil_append rest, same]; rfl)
        rw [hn'] at this
        cases this
      · have ht : t = wildcard := by
          apply Decidable.byContradiction
          intro ht
          rw [← Category.owner_of_reads reads ht, Category.owner_of_reads reads' ht] at hc
          exact hc rfl
        simp only [List.nil_append, List.cons_append] at same
        subst same
        have := (List.isChain_cons_cons.mp apart).1 ht
        rw [hn'] at this
        cases this
    · -- the scan took a language with its region where the parse has the language alone
      simp only [List.cons_append, List.nil_append] at same
      subst same
      have := parse'.not_region first
      rw [hn] at this
      cases this
    · simp only [List.cons_append, List.nil_append, List.cons.injEq] at same
      obtain ⟨-, rfl⟩ := same
      exact ih (parse'.lower first) behind
  | malformed early hf =>
    obtain ⟨c, g, rest, ws, gs', -, -, -, reads, -⟩ := parse.step
    exact absurd ⟨_, _, reads⟩ (not_recognizes_of_malformed hf c)
  | unread unknown sound =>
    obtain ⟨c, g, rest, ws, gs', -, -, above, reads, -⟩ := parse.step
    exact absurd ⟨_, _, reads⟩ (unknown c above)

/-- A group of a parse never leaves a region token to what is behind it. -/
theorem Parse.whole {c : Category} {t : String} {g rest : List String} {gs : List Group}
    (next : Parse c.number rest gs) : Whole c (t :: g) rest := by
  rintro rfl w next' - - hn
  obtain ⟨more, rfl⟩ := List.head?_eq_some_iff.mp hn
  exact next.not_region (Nat.le_refl _)

/-- Without wildcards every token has an owner, so there is one way to cut. -/
theorem Parse.unique {last low : Nat} {ts : List String} {gs gs' : List Group}
    (hw : wildcard ∉ ts) (h : Parse last ts gs) (h' : Parse low ts gs') : gs = gs' := by
  induction h generalizing low gs' with
  | nil =>
    cases h'
    rfl
  | @cons last c t g rest ws gs above reads next ih =>
    obtain ⟨c', g', rest', ws', gs', same, rfl, above', reads', next'⟩ := h'.step
    have ht : t ≠ wildcard := fun he => hw (he ▸ List.mem_cons_self)
    have hc : c = c' := by
      rw [← Category.owner_of_reads reads ht, Category.owner_of_reads reads' ht]
    subst hc
    obtain ⟨rfl, rfl⟩ := Whole.unique reads reads' next.whole next'.whole same
    have fewer : wildcard ∉ rest := fun hm =>
      hw (List.mem_cons_of_mem _ (List.mem_append_right _ hm))
    rw [reads.unique reads', ih fewer next']

/-- **Greedy decoding loses nothing.** A descriptor decodes just if its tokens have a parse, as long
as no wildcard stands right in front of a region token. Without wildcards there is one parse, and
the record is what its groups leave of the unspecified one. -/
theorem decode_parse (d : String) :
    (Apart (tokens d) → ((∃ r, decode d = .ok r) ↔ ∃ gs, Parse 0 (tokens d) gs)) ∧
      (wildcard ∉ tokens d → ∀ r, decode d = .ok r →
        ∃ gs, (∀ gs', Parse 0 (tokens d) gs' ↔ gs' = gs) ∧
          ∀ q, Write.Leaves (gs.flatMap Group.writes) Config.unspecified q ↔ q = r) := by
  obtain ⟨out, scan, h⟩ := exists_scan d
  rw [h]
  have parsed {r : Config} (hr : (out.mapError fun e => Failure.rejected (e.error d)) = .ok r) :
      ∃ gs, Parse 0 (tokens d) gs ∧
        Write.Leaves (gs.flatMap Group.writes) Config.unspecified r := by
    cases out with
    | error e => cases hr
    | ok r' =>
      cases hr
      exact scan.parse rfl
  refine ⟨fun apart => ⟨?_, ?_⟩, fun hw r hr => ?_⟩
  · rintro ⟨r, hr⟩
    obtain ⟨gs, parse, -⟩ := parsed hr
    exact ⟨gs, parse⟩
  · rintro ⟨gs, parse⟩
    obtain ⟨r, rfl⟩ := scan.ok_of_parse parse apart
    exact ⟨r, rfl⟩
  · obtain ⟨gs, parse, left⟩ := parsed hr
    refine ⟨gs, fun gs' => ⟨fun parse' => parse'.unique hw parse, ?_⟩,
      fun q => ⟨fun left' => left'.unique left, ?_⟩⟩
    · rintro rfl
      exact parse
    · rintro rfl
      exact left

/-- The wildcard goes to the first category; the language still gets its region. Without it, the
record is that of the one parse. -/
theorem parse_wildcard_before_locale :
    (∃ gs, Parse 0 (tokens "any-en-rUS-land") gs) ∧
      ∃ gs, (∀ gs', Parse 0 (tokens "mcc310-de-rAT-w600dp-long") gs' ↔ gs' = gs) ∧
        ∃ r, Write.Leaves (gs.flatMap Group.writes) Config.unspecified r ∧ r.get .mcc = 310 ∧
          r.locale = ⟨some "de", some "AT", none, none⟩ ∧ r.view .screenLayoutLong = 0x20 ∧
          r.get .screenWidthDp = 600 ∧ r.get .mnc = 0 ∧ r.view .screenLayoutSize = 0 := by
  refine ⟨((decode_parse _).1 (by decide +kernel)).mp ⟨_, rfl⟩, ?_⟩
  obtain ⟨gs, unique, left⟩ :=
    (decode_parse "mcc310-de-rAT-w600dp-long").2 (by decide +kernel) _ rfl
  exact ⟨gs, unique, _, (left _).mpr rfl, rfl, rfl, rfl, rfl, rfl, rfl⟩

/-- A locale would read both tokens, but the wildcard is gone by then. -/
example : decode "any-r41" = .error (.rejected ⟨"any-r41", "r41", none⟩) := by rfl

end DeviceQualifier.Descriptor
