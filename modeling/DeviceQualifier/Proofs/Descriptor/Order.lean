import DeviceQualifier.Proofs.Descriptor.Exchange
import Mathlib.Data.List.Permutation

/-!
The order of tokens. Every token has an owner, and owners come in canonical order, so tokens that
decode do not decode in any other order: `Parse.perm`. Inside the one group that can have two tokens
there is an exception, if the language looks like a region and the region like a language.
-/
namespace DeviceQualifier.Descriptor

open Category (Reads)

/-- A language and its region have changed places. Both are the letter r with two more letters. -/
structure Swap (ts us : List String) (a b : String) : Prop where
  language : Locale.IsLetterPair a
  region : Locale.IsLetterPair b
  places : ∃ before after, ts = before ++ ("r" ++ a) :: ("r" ++ b) :: after ∧
    us = before ++ ("r" ++ b) :: ("r" ++ a) :: after

theorem Swap.append_left {ts us : List String} {a b : String} (h : Swap ts us a b)
    (g : List String) : Swap (g ++ ts) (g ++ us) a b := by
  obtain ⟨ha, hb, before, after, rfl, rfl⟩ := h
  exact ⟨ha, hb, g ++ before, after, by simp, by simp⟩

theorem Swap.append_right {ts us : List String} {a b : String} (h : Swap ts us a b)
    (rest : List String) : Swap (ts ++ rest) (us ++ rest) a b := by
  obtain ⟨ha, hb, before, after, rfl, rfl⟩ := h
  exact ⟨ha, hb, before, after ++ rest, by simp, by simp⟩

theorem Swap.mem {ts us : List String} {a b : String} (h : Swap ts us a b) : "r" ++ a ∈ ts := by
  obtain ⟨-, -, before, after, rfl, -⟩ := h
  exact List.mem_append_right _ List.mem_cons_self

/-- The tokens of a group in another order are no group of the category, unless they are a language
and a region that have changed places. -/
theorem Category.Reads.perm {c : Category} {t u : String} {g g' : List String}
    {ws ws' : List Write} (h : Reads c (t :: g) ws) (h' : Reads c (u :: g') ws')
    (p : (u :: g').Perm (t :: g)) :
    u :: g' = t :: g ∨ c = .locale ∧ ∃ a b, Swap (t :: g) (u :: g') a b := by
  rcases h.tail with rfl | ⟨hc, word, x, rfl, region⟩
  · exact .inl (List.perm_singleton.mp p)
  rcases List.perm_pair.mp p with same | turned
  · exact .inl same
  · obtain ⟨rfl, rfl⟩ := List.cons.inj turned
    rcases h'.tail with he | ⟨-, word', y, hy, region'⟩
    · cases he
    · obtain rfl : t = y := List.singleton_inj.mp hy
      obtain ⟨a, ha, rfl⟩ := Locale.exists_letterPair word region'
      obtain ⟨b, hb, rfl⟩ := Locale.exists_letterPair word' region
      exact .inr ⟨hc, a, b, ha, hb, [], [], rfl, rfl⟩

/-- The tokens that the first category of a parse owns are those of its group. -/
theorem Parse.filter_owner {c : Category} {g rest : List String} {ws : List Write}
    {gs : List Group} (reads : Reads c g ws) (next : Parse c.number rest gs)
    (hw : wildcard ∉ g ++ rest) :
    (g ++ rest).filter (fun u => Category.owner u = c) = g := by
  have named (u : String) (hu : u ∈ g ++ rest) : u ≠ wildcard := by
    rintro rfl
    exact hw hu
  have own : g.filter (fun u => Category.owner u = c) = g := by
    rw [List.filter_eq_self]
    intro u hu
    exact decide_eq_true (Category.owner_of_mem reads hu (named u (List.mem_append_left _ hu)))
  have behind : rest.filter (fun u => Category.owner u = c) = [] := by
    rw [List.filter_eq_nil_iff]
    intro u hu hc
    have above := next.number_lt_owner hu (named u (List.mem_append_right _ hu))
    rw [of_decide_eq_true hc] at above
    exact Nat.lt_irrefl _ above
  rw [List.filter_append, own, behind, List.append_nil]

/-- No token of a parse is owned in front of its first group. -/
theorem Parse.number_le_owner {c : Category} {t : String} {g rest : List String}
    {ws : List Write} {gs : List Group} (reads : Reads c g ws) (next : Parse c.number rest gs)
    (ht : t ∈ g ++ rest) (named : t ≠ wildcard) : c.number ≤ (Category.owner t).number := by
  rw [List.mem_append] at ht
  cases ht with
  | inl ht => rw [Category.owner_of_mem reads ht named]
  | inr ht => exact Nat.le_of_lt (next.number_lt_owner ht named)

section Perm
variable {c c' : Category} {t u : String} {g g' rest rest' : List String} {ws ws' : List Write}
  {gs gs' : List Group} (reads : Reads c (t :: g) ws) (next : Parse c.number rest gs)
  (reads' : Reads c' (u :: g') ws') (next' : Parse c'.number rest' gs')
  (hw : wildcard ∉ t :: (g ++ rest)) (p : (u :: (g' ++ rest')).Perm (t :: (g ++ rest)))
include reads next reads' next' hw p

/-- Each parse has all tokens of the other, so neither starts in front of the other. -/
theorem Parse.perm_category : c' = c := by
  have named : t ≠ wildcard := fun he => hw (he ▸ List.mem_cons_self)
  have named' : u ≠ wildcard := fun he => hw (p.mem_iff.mp (he ▸ List.mem_cons_self))
  apply Category.number_injective
  apply Nat.le_antisymm
  · rw [← Category.owner_of_reads reads named]
    exact Parse.number_le_owner reads' next' (p.mem_iff.mpr List.mem_cons_self) named
  · rw [← Category.owner_of_reads reads' named']
    exact Parse.number_le_owner reads next (p.mem_iff.mp List.mem_cons_self) named'

/-- The first groups have the same tokens, and so has what is left. -/
theorem Parse.perm_first : (u :: g').Perm (t :: g) ∧ rest'.Perm rest := by
  obtain rfl := Parse.perm_category reads next reads' next' hw p
  have groups : (u :: g').Perm (t :: g) := by
    have owned := p.filter fun v => Category.owner v = c'
    have hw' : wildcard ∉ u :: (g' ++ rest') := fun hm => hw (p.mem_iff.mp hm)
    rwa [← List.cons_append, ← List.cons_append, Parse.filter_owner reads' next' hw',
      Parse.filter_owner reads next hw] at owned
  exact ⟨groups, (List.perm_append_left_iff (t :: g)).mp ((groups.symm.append_right rest').trans p)⟩

end Perm

/-- **One order.** The induction goes from group to group. If the tokens of one group have changed
places, they are those of the locale, and this can happen only once. -/
theorem Parse.perm {last low : Nat} {ts us : List String} {gs gs' : List Group}
    (h : Parse last ts gs) (h' : Parse low us gs') (hw : wildcard ∉ ts) (p : us.Perm ts) :
    us = ts ∨ ∃ a b, Swap ts us a b := by
  induction h generalizing low us gs' with
  | nil => exact .inl p.eq_nil
  | @cons last c t g rest ws gs above reads next ih =>
    cases h' with
    | nil => cases p.symm.eq_nil
    | @cons _ c' u g' rest' ws' gs' above' reads' next' =>
      obtain rfl := Parse.perm_category reads next reads' next' hw p
      obtain ⟨first, left⟩ := Parse.perm_first reads next reads' next' hw p
      have fewer : wildcard ∉ rest := fun hm =>
        hw (List.mem_cons_of_mem _ (List.mem_append_right _ hm))
      rcases reads.perm reads' first with same | ⟨rfl, a, b, turned⟩
      · obtain ⟨rfl, rfl⟩ := List.cons.inj same
        rcases ih next' fewer left with rfl | ⟨a, b, swap⟩
        · exact .inl rfl
        · exact .inr ⟨a, b, swap.append_left (u :: g')⟩
      · rcases ih next' fewer left with rfl | ⟨a', b', swap⟩
        · exact .inr ⟨a, b, turned.append_right rest'⟩
        · -- behind the locale there is no other language
          have late := next.number_lt_owner swap.mem fun he => fewer (he ▸ swap.mem)
          rw [Category.owner_of_isLanguageWord swap.language.isLanguageWord] at late
          exact absurd late (Nat.lt_irrefl _)

/-- Tokens that change places trade the language for the region. -/
theorem decode_swap {ts us : List String} {a b : String} (swap : Swap ts us a b)
    (pieces : ∀ t ∈ ts, Piece t) (pieces' : ∀ u ∈ us, Piece u) {r : Config}
    (ok : decode (joined ts) = .ok r) :
    r.locale = ⟨some ("r" ++ a), some (Text.upper b), none, none⟩ ∧
      decode (joined us) =
        .ok { r with locale := ⟨some ("r" ++ b), some (Text.upper a), none, none⟩ } := by
  obtain ⟨ha, hb, before, after, rfl, rfl⟩ := swap
  have named (s : String) : "r" ++ s ≠ wildcard := by
    simp [wildcard, ← String.toList_inj]
  have old := localeGroup_wordRegion ha.isLanguageWord (named a) hb after
  have new := localeGroup_wordRegion hb.isLanguageWord (named b) ha after
  exact decode_exchange old new pieces pieces' ok

/-- **The order is rigid.** Tokens without wildcards that decode are rejected in every other order,
unless a language and its region change places. Then they change places in the locale. -/
theorem decode_perm {ts us : List String} (pieces : ∀ t ∈ ts, Piece t) (plain : wildcard ∉ ts)
    {r : Config} (ok : decode (joined ts) = .ok r) (order : us.Perm ts) (moved : us ≠ ts) :
    ((∃ q, decode (joined us) = .ok q) ↔ ∃ a b, Swap ts us a b) ∧
      (∀ a b, Swap ts us a b →
        r.locale = ⟨some ("r" ++ a), some (Text.upper b), none, none⟩ ∧
        decode (joined us) =
          .ok { r with locale := ⟨some ("r" ++ b), some (Text.upper a), none, none⟩ }) ∧
      ((¬∃ a b, Swap ts us a b) → ∃ e, decode (joined us) = .error (.rejected e)) := by
  have pieces' : ∀ u ∈ us, Piece u := fun u hu => pieces u (order.mem_iff.mp hu)
  have swapped (q : Config) (hq : decode (joined us) = .ok q) : ∃ a b, Swap ts us a b := by
    obtain ⟨gs, parse, -⟩ := ((decode_joined_eq_ok_iff pieces).mp ok).parse rfl
    obtain ⟨gs', parse', -⟩ := ((decode_joined_eq_ok_iff pieces').mp hq).parse rfl
    exact (parse.perm parse' plain order).resolve_left moved
  refine ⟨⟨?_, ?_⟩, fun a b swap => decode_swap swap pieces pieces' ok, fun none => ?_⟩
  · rintro ⟨q, hq⟩
    exact swapped q hq
  · rintro ⟨a, b, swap⟩
    exact ⟨_, (decode_swap swap pieces pieces' ok).2⟩
  · apply rejected_of_not_ok
    rintro ⟨q, hq⟩
    exact none (swapped q hq)

/-- Two words that are languages and regions at once, in two other orders. -/
theorem decode_perm_languages :
    (∃ r, decode "mcc310-rus-rgb-land" = .ok r ∧ r.locale = ⟨some "rus", some "GB", none, none⟩ ∧
      decode "mcc310-rgb-rus-land" =
        .ok { r with locale := ⟨some "rgb", some "US", none, none⟩ }) ∧
      ∃ e, decode "rus-rgb-mcc310-land" = .error (.rejected e) := by
  obtain ⟨-, turned, -⟩ := @decode_perm ["mcc310", "rus", "rgb", "land"]
    ["mcc310", "rgb", "rus", "land"] (by decide) (by decide) _ rfl (by decide) (by decide)
  obtain ⟨unchanged, -, rejected⟩ := @decode_perm ["mcc310", "rus", "rgb", "land"]
    ["rus", "rgb", "mcc310", "land"] (by decide) (by decide) _ rfl (by decide) (by decide)
  have swap : Swap ["mcc310", "rus", "rgb", "land"] ["mcc310", "rgb", "rus", "land"] "us" "gb" :=
    ⟨by decide, by decide, ["mcc310"], ["land"], rfl, rfl⟩
  obtain ⟨locale, decoded⟩ := turned "us" "gb" swap
  refine ⟨⟨_, rfl, locale, decoded⟩, rejected ?_⟩
  intro swapped
  obtain ⟨q, hq⟩ := unchanged.mpr swapped
  cases hq

end DeviceQualifier.Descriptor
