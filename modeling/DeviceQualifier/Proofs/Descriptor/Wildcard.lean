import DeviceQualifier.Proofs.Descriptor.Holding
import DeviceQualifier.Proofs.Descriptor.Joined

/-!
Wildcards behind tokens that decode. A wildcard goes to the category right behind the last one
taken, whichever that is. As no turn was given to what lies behind, there is nothing to take back
there: `Fresh` is kept from turn to turn. Only the locale reads the wildcard as a word of its own.
-/
namespace DeviceQualifier.Descriptor

open Category (Reads)
open Relation (ReflTransGen)

/-- All that belongs to the categories behind `last` has its unspecified value, so that a wildcard
changes none of it. -/
def Fresh (last : Nat) (r : Config) : Prop :=
  ∀ c : Category, last < c.number → c ≠ .locale → (c.writes 0).foldl Write.apply r = r

theorem fresh_unspecified : Fresh 0 Config.unspecified := by
  intro c _ hc
  cases c with
  | locale => exact absurd rfl hc
  | _ => rfl

theorem Fresh.mono {last next : Nat} {r : Config} (h : Fresh last r) (le : last ≤ next) :
    Fresh next r :=
  fun c above hc => h c (Nat.lt_of_le_of_lt le above) hc

/-- What a category reads leaves all behind it as it was. -/
theorem Fresh.reads {last : Nat} {r : Config} (h : Fresh last r) {c : Category}
    (above : last < c.number) {g : List String} {ws : List Write} (reads : Reads c g ws) :
    Fresh c.number (ws.foldl Write.apply r) := by
  intro b behind hb
  have other : b ≠ c := by
    rintro rfl
    exact Nat.lt_irrefl _ behind
  have reset (p q : Config) := (Reads.wildcard hb).overlay p q
  have before := reset Config.unspecified r
  rw [h b (Nat.lt_trans above behind) hb] at before
  exact (Category.overlay_comm other before (reads.overlay Config.unspecified r)
    (reads.overlay Config.unspecified r) (reset Config.unspecified _)).symm

/-- A decoding after `n` turns. -/
structure After (n : Nat) (a : Progress) : Prop where
  matchers : a.matchers = (Category.all.drop n).map Category.matcher
  fresh : Fresh n a.config

theorem after_start : After 0 (.start canonicalMatchers) := ⟨rfl, fresh_unspecified⟩

/-- The turn behind `n` others is that of the category with the next number. -/
theorem Advance.after {ts : List String} {a b : Progress} (h : Advance ts a b) {n : Nat}
    (ha : After n a) : ∃ c : Category, c.number = n + 1 ∧ a.matchers.head? = some c.matcher ∧
      After (n + 1) b := by
  cases h with
  | @turn m ms position r taken r' inside attempted =>
    obtain ⟨c, cs, hcs, rfl, rfl⟩ := List.map_eq_cons_iff.mp ha.matchers.symm
    obtain ⟨number, next⟩ := Category.number_of_drop hcs
    refine ⟨c, number, rfl, ?_, ?_⟩
    · rw [next]
    obtain ⟨t, rest, -, hd⟩ := drop_of_lt inside
    rw [hd] at attempted
    rcases attempt_cases c t rest r with passed | ⟨fault, -, -, broken⟩ |
      ⟨g, left, ws, -, reads, given⟩
    · cases attempted.symm.trans passed
      exact ha.fresh.mono (Nat.le_succ n)
    · cases attempted.symm.trans broken
    · cases attempted.symm.trans given
      rw [← number]
      exact ha.fresh.reads (by omega) reads

theorem After.of_turns {ts : List String} {a b : Progress} (turns : ReflTransGen (Advance ts) a b)
    {n : Nat} (ha : After n a) : ∃ m, After m b := by
  induction turns with
  | refl => exact ⟨n, ha⟩
  | tail _ turn ih =>
    obtain ⟨m, hm⟩ := ih
    obtain ⟨c, -, -, hc⟩ := turn.after hm
    exact ⟨m + 1, hc⟩

/-- A rule looks at the token behind the first one, and at no others, and that only to see whether
it is a region. -/
theorem Rule.recognize_append (rule : Rule) (t : String) {rest after : List String}
    (alone : ∀ u, after.head? = some u → Locale.isRegionToken u = false) :
    rule.recognize (t :: (rest ++ after)) = rule.recognize (t :: rest) := by
  have next : (rest ++ after).head?.bind Locale.Reading.regionOfToken? =
      rest.head?.bind Locale.Reading.regionOfToken? := by
    cases rest with
    | cons u rest => rfl
    | nil =>
      cases after with
      | nil => rfl
      | cons u after =>
        have nothing : Locale.Reading.regionOfToken? u = none := by
          simpa [Locale.isRegionToken] using alone u rfl
        exact nothing
  cases rule with
  | locale =>
    simp only [Rule.recognize, Rule.recognizeLocale, Locale.Reading.ofTokens, Locale.Reading.ofWord,
      next]
  | _ => rfl

section Append
variable {ts after : List String}
  (alone : ∀ u, after.head? = some u → Locale.isRegionToken u = false)
include alone

theorem Advance.append {a b : Progress} (h : Advance ts a b) : Advance (ts ++ after) a b := by
  cases h with
  | @turn m ms position r taken r' inside attempted =>
    refine .turn (by rw [List.length_append]; omega) ?_
    obtain ⟨t, rest, -, hd⟩ := drop_of_lt inside
    rw [List.drop_append_of_le_length (Nat.le_of_lt inside), hd]
    rw [hd] at attempted
    rw [← attempted]
    exact congrArg (Except.map _) (Rule.recognize_append m.rule t alone)

theorem turns_append {a b : Progress} (turns : ReflTransGen (Advance ts) a b) :
    ReflTransGen (Advance (ts ++ after)) a b := by
  induction turns with
  | refl => exact .refl
  | tail _ turn ih => exact ih.tail (turn.append alone)

end Append

/-- The locale that the wildcard spells. -/
def anyLanguage : Locale := ⟨some "any", none, none, none⟩

theorem recognize_wildcard {c : Category} (hc : c ≠ .locale) (rest : List String) :
    c.matcher.recognize (wildcard :: rest) = .ok (some ⟨1, c.writes 0⟩) := by
  obtain ⟨o, found, reads⟩ := Category.recognize_token hc wildcard rest
  rw [found, (reads _).mpr (.wildcard hc)]
  rfl

theorem recognize_wildcard_locale {rest : List String}
    (alone : rest.head?.bind Locale.Reading.regionOfToken? = none) :
    Category.locale.matcher.recognize (wildcard :: rest) =
      .ok (some ⟨1, [.locale anyLanguage]⟩) :=
  Category.recognizeLocale_of_ok (Locale.Reading.ofTokens_word rfl alone)

theorem Fresh.withLocale {last : Nat} {r : Config} (h : Fresh last r) (l : Locale) :
    Fresh last { r with locale := l } := by
  intro c above hc
  rw [foldl_withLocale (Category.fits_wildcard c c.mem_all), h c above hc]

/-- Each wildcard is taken on the next turn, until there are no turns left. -/
theorem run_wildcards (k : Nat) {n : Nat} {r : Config} (fresh : Fresh n r) (hn : n ≤ 23) :
    run ((Category.all.drop n).map Category.matcher) (List.replicate k wildcard) r =
      if n + k ≤ 23 then
        .ok (if n < 3 ∧ 3 ≤ n + k then { r with locale := anyLanguage } else r)
      else .error (.leftOver wildcard) := by
  -- each wildcard moves one turn on; a turn changes nothing behind it, so that the next is as fresh
  induction k generalizing n r with
  | zero => rw [List.replicate_zero, run_nil, if_pos (by omega), if_neg (by omega)]
  | succ k ih =>
    rcases Nat.lt_or_eq_of_le hn with lt | rfl
    · obtain ⟨c, cs, hcs⟩ : ∃ c cs, Category.all.drop n = c :: cs :=
        List.exists_cons_of_ne_nil fun behind => Nat.not_lt.mpr (List.drop_eq_nil_iff.mp behind) lt
      obtain ⟨number, rfl⟩ := Category.number_of_drop hcs
      have total : n + (k + 1) = n + 1 + k := by omega
      rw [hcs, List.map_cons, List.replicate_succ, total]
      by_cases hc : c = .locale
      · subst hc
        obtain rfl : n = 2 := (Nat.succ.inj number).symm
        have alone :
            (List.replicate k wildcard).head?.bind Locale.Reading.regionOfToken? = none := by
          cases k <;> rfl
        rw [run_taken (recognize_wildcard_locale alone), List.drop_zero]
        have locale := (fresh.mono (Nat.le_succ 2)).withLocale anyLanguage
        refine (ih locale (by decide)).trans ?_
        simp
      · have later : n + 1 ≠ 3 := fun he => hc (Category.number_injective (number.trans he))
        have here : n < 3 ∧ 3 ≤ n + 1 + k ↔ n + 1 < 3 ∧ 3 ≤ n + 1 + k := by omega
        rw [run_taken (recognize_wildcard hc _), List.drop_zero, fresh c (by omega) hc,
          ih (fresh.mono (Nat.le_succ n)) lt]
        simp only [here]
    · rw [if_neg (by omega)]
      rfl

/-- The number of the category whose turn takes the last of some tokens; zero if there are none. -/
inductive LastTurn (ts : List String) : Nat → Prop
  | empty (none : ts = []) : LastTurn ts 0
  | turn {c : Category} {a b : Progress}
      (turns : ReflTransGen (Advance ts) (.start canonicalMatchers) a)
      (own : a.matchers.head? = some c.matcher) (turn : Advance ts a b)
      (all : b.position = ts.length) : LastTurn ts c.number

theorem Category.matcher_injective : ∀ b ∈ Category.all, ∀ c ∈ Category.all,
    b.matcher = c.matcher → b = c := by
  decide +kernel

section LastTurn
variable {ts : List String} {n : Nat}

theorem LastTurn.le (h : LastTurn ts n) : n ≤ 23 := by
  cases h with
  | empty => exact Nat.zero_le _
  | turn => exact Category.number_le _

theorem LastTurn.after (h : LastTurn ts n) : ∃ b,
    ReflTransGen (Advance ts) (.start canonicalMatchers) b ∧ b.position = ts.length ∧
      After n b := by
  cases h with
  | empty none =>
    subst none
    exact ⟨_, .refl, rfl, after_start⟩
  | @turn c a b turns own turn all =>
    obtain ⟨m, hm⟩ := after_start.of_turns turns
    obtain ⟨c', number, own', after⟩ := turn.after hm
    have same : c = c' := Category.matcher_injective c c.mem_all c' c'.mem_all
      (Option.some.inj (own.symm.trans own'))
    rw [same, number]
    exact ⟨b, turns.tail turn, all, after⟩

theorem decode_joined_eq_outcome (pieces : ∀ t ∈ ts, Piece t) :
    decode (joined ts) = (Progress.outcome ts (.start canonicalMatchers)).mapError
      (Stop.failure (joined ts)) := by
  rw [decode, decodeWith, tokens_joined pieces]
  rfl

variable (pieces : ∀ t ∈ ts, Piece t) {r : Config} (decoded : decode (joined ts) = .ok r)
include pieces decoded

/-- Tokens that decode are taken to the end, the last one on some turn. -/
theorem exists_lastTurn : ∃ n, LastTurn ts n := by
  obtain ⟨b, out, turns, ends, same⟩ :=
    exists_ends Category.all (Nat.zero_le ts.length) Config.unspecified
  have outcome := decode_joined_eq_outcome pieces
  rw [decoded, Progress.start, canonicalMatchers, same] at outcome
  cases ends with
  | leftOver | malformed => cases outcome
  | done all =>
    rcases turns.cases_tail with rfl | ⟨a, before, turn⟩
    · exact ⟨0, .empty (List.eq_nil_of_length_eq_zero all.symm)⟩
    · obtain ⟨m, hm⟩ := after_start.of_turns before
      obtain ⟨c, -, own, -⟩ := turn.after hm
      exact ⟨_, .turn before own turn all⟩

/-- What becomes of wildcards behind the last token depends on the number of its category only. -/
theorem LastTurn.decode_append (h : LastTurn ts n) (k : Nat) :
    decode (joined (ts ++ List.replicate k wildcard)) =
      if n + k ≤ 23 then
        .ok (if n < 3 ∧ 3 ≤ n + k then { r with locale := anyLanguage } else r)
      else .error (.rejected ⟨joined (ts ++ List.replicate k wildcard), wildcard, none⟩) := by
  obtain ⟨b, turns, all, after⟩ := h.after
  have config : b.config = r := by
    have outcome := decode_joined_eq_outcome pieces
    rw [decoded, outcome_of_turns turns, outcome_behind all] at outcome
    exact (Except.ok.inj outcome).symm
  have alone : ∀ u, (List.replicate k wildcard).head? = some u →
      Locale.isRegionToken u = false := by
    intro u hu
    rw [List.eq_of_mem_replicate (List.mem_of_mem_head? hu)]
    rfl
  have longer : ∀ t ∈ ts ++ List.replicate k wildcard, Piece t := by
    intro t ht
    rcases List.mem_append.mp ht with ht | ht
    · exact pieces t ht
    · rw [List.eq_of_mem_replicate ht]
      decide
  rw [decode_joined_eq_outcome longer, outcome_of_turns (turns_append alone turns),
    Progress.outcome, all, List.drop_left, after.matchers, run_wildcards k after.fresh h.le, config]
  split
  · rfl
  · rfl

end LastTurn

/-- **What wildcards do.** Tokens that decode have one category that takes the last of them. Every
wildcard behind them is taken by a category of its own, the next one in order, as long as there is
one, and then the error is at a wildcard. The category of the locale makes a language of it; the
others leave the configuration as it was. -/
theorem decode_wildcards {ts : List String} (pieces : ∀ t ∈ ts, Piece t) {r : Config}
    (decoded : decode (joined ts) = .ok r) :
    ∃ c, (∀ n, LastTurn ts n ↔ n = c) ∧ ∀ k,
      decode (joined (ts ++ List.replicate k wildcard)) =
        if c + k ≤ 23 then
          .ok (if c < 3 ∧ 3 ≤ c + k then { r with locale := ⟨some "any", none, none, none⟩ } else r)
        else .error (.rejected ⟨joined (ts ++ List.replicate k wildcard), wildcard, none⟩) := by
  obtain ⟨c, last⟩ := exists_lastTurn pieces decoded
  -- two numbers would not leave the same count of wildcards to be taken
  have least {n m : Nat} (hn : LastTurn ts n) (hm : LastTurn ts m) : m ≤ n := by
    apply Nat.le_of_not_lt
    intro lt
    have first := hn.decode_append pieces decoded (23 - n)
    have second := hm.decode_append pieces decoded (23 - n)
    have hle := hn.le
    rw [if_pos (by omega)] at first
    rw [if_neg (by omega)] at second
    cases first.symm.trans second
  refine ⟨c, fun n => ⟨fun h => Nat.le_antisymm (least last h) (least h last), ?_⟩,
    last.decode_append pieces decoded⟩
  rintro rfl
  exact last

/-- A wildcard in front takes the turn of the network code, so the next one is a language; there are
turns for twenty more. -/
theorem decode_wildcards_behind_country :
    LastTurn ["mcc310", "any"] 2 ∧
      decode "mcc310-any-any" = .ok { Config.unspecified with
        mcc := 310, locale := ⟨some "any", none, none, none⟩ } ∧
      (∃ q, decode (joined (["mcc310", "any"] ++ List.replicate 21 wildcard)) = .ok q) ∧
      ∃ d, decode (joined (["mcc310", "any"] ++ List.replicate 22 wildcard)) =
        .error (.rejected ⟨d, "any", none⟩) := by
  obtain ⟨c, last, after⟩ := @decode_wildcards ["mcc310", "any"] (by decide) _ rfl
  have turns : LastTurn ["mcc310", "any"] Category.mnc.number :=
    .turn (.single (.turn (by decide) rfl)) rfl (.turn (by decide) rfl) rfl
  obtain rfl : 2 = c := (last 2).mp turns
  exact ⟨turns, after 1, ⟨_, after 21⟩, ⟨_, after 22⟩⟩

end DeviceQualifier.Descriptor
