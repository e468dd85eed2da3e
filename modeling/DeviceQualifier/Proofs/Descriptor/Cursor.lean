import DeviceQualifier.Proofs.Descriptor.Scan
import Mathlib.Logic.Relation

/-!
Decoding turn by turn, for canonical matchers in any order and with any repetitions. The cursor
stays within the tokens, so every turn finds the token it looks at, and what stops the turns is the
token at the cursor: `exists_ends`.
-/
namespace DeviceQualifier

/-- What can be malformed has the mark of a tag. -/
theorem Locale.Malformed.starts {t : String} {fault : Locale.TagFault}
    (h : Locale.Malformed t fault) : "b+".toList <+: t.toList := by
  obtain ⟨body, tag, -⟩ := h
  unfold Locale.tagBody? at tag
  split at tag
  · rename_i ht
    rw [ht]
    exact ⟨_, rfl⟩
  · cases tag

namespace Descriptor

open Category (Reads)
open Relation (ReflTransGen)

/-- A decoding between two turns: the matchers to come, the count of tokens taken, and the
configuration so far. -/
structure Progress where
  matchers : List Matcher
  position : Nat
  config : Config

namespace Progress

def start (matchers : List Matcher) : Progress := ⟨matchers, 0, Config.unspecified⟩

/-- What the turns to come make of the tokens that are left. -/
def outcome (ts : List String) (a : Progress) : Except Stop Config :=
  run a.matchers (ts.drop a.position) a.config

end Progress

/-- One turn at a token, whether the matcher takes it or passes it by. -/
inductive Advance (ts : List String) : Progress → Progress → Prop
  | turn {m ms position r taken r'} (inside : position < ts.length)
      (attempted : m.attempt (ts.drop position) r = .ok (taken, r')) :
      Advance ts ⟨m :: ms, position, r⟩ ⟨ms, position + taken, r'⟩

/-- All that an attempt of a canonical matcher can do with the token at the cursor. -/
theorem attempt_cases (c : Category) (t : String) (rest : List String) (r : Config) :
    c.matcher.attempt (t :: rest) r = .ok (0, r) ∨
      (∃ fault, c = .locale ∧ Locale.Malformed t fault ∧
        c.matcher.attempt (t :: rest) r = .error (.locale ⟨t, fault⟩)) ∨
      ∃ g left ws, rest = g ++ left ∧ Reads c (t :: g) ws ∧
        c.matcher.attempt (t :: rest) r = .ok (g.length + 1, ws.foldl Write.apply r) := by
  have turn := Category.turn c t rest
  unfold Matcher.attempt
  generalize c.matcher.recognize (t :: rest) = result at turn
  cases turn with
  | taken reads whole => exact .inr (.inr ⟨_, _, _, rfl, reads, rfl⟩)
  | passed => exact .inl rfl
  | malformed h => exact .inr (.inl ⟨_, rfl, h, rfl⟩)

theorem attempt_le {c : Category} {t : String} {rest : List String} {r r' : Config} {n : Nat}
    (h : c.matcher.attempt (t :: rest) r = .ok (n, r')) : n ≤ (t :: rest).length := by
  rcases attempt_cases c t rest r with passed | ⟨fault, -, -, broken⟩ | ⟨g, left, ws, rfl, -, taken⟩
  · cases h.symm.trans passed
    exact Nat.zero_le _
  · cases h.symm.trans broken
  · cases h.symm.trans taken
    simp only [List.length_cons, List.length_append]
    omega

theorem outcome_behind {ts : List String} {a : Progress} (all : a.position = ts.length) :
    a.outcome ts = .ok a.config := by
  rw [Progress.outcome, all, List.drop_length, run_nil]

/-- Between two turns the cursor stands within the tokens or right behind them. -/
structure Inside (ts : List String) (a : Progress) : Prop where
  canonical : ∃ cs : List Category, a.matchers = cs.map Category.matcher
  position : a.position ≤ ts.length

theorem drop_of_lt {ts : List String} {position : Nat} (inside : position < ts.length) :
    ∃ t rest, ts[position]? = some t ∧ ts.drop position = t :: rest :=
  ⟨_, _, List.getElem?_eq_getElem inside, List.drop_eq_getElem_cons inside⟩

theorem Advance.inside {ts : List String} {a b : Progress} (h : Advance ts a b)
    (ha : Inside ts a) : Inside ts b := by
  cases h with
  | @turn m ms position r taken r' lt attempted =>
    obtain ⟨⟨cs, hcs⟩, -⟩ := ha
    obtain ⟨c, cs, rfl, rfl, rfl⟩ := List.map_eq_cons_iff.mp hcs.symm
    refine ⟨⟨cs, rfl⟩, ?_⟩
    obtain ⟨t, rest, -, hd⟩ := drop_of_lt lt
    have length := congrArg List.length hd
    rw [hd] at attempted
    have := attempt_le attempted
    rw [List.length_drop] at length
    simp only
    omega

/-- A turn leaves the outcome to the turns behind it. -/
theorem Advance.outcome {ts : List String} {a b : Progress} (h : Advance ts a b) :
    a.outcome ts = b.outcome ts := by
  cases h with
  | turn lt attempted =>
    obtain ⟨t, rest, -, hd⟩ := drop_of_lt lt
    unfold Progress.outcome
    rw [← List.drop_drop, hd]
    rw [hd] at attempted
    rw [run, attempted]

theorem Inside.of_turns {ts : List String} {a b : Progress}
    (turns : ReflTransGen (Advance ts) a b) (ha : Inside ts a) : Inside ts b := by
  induction turns with
  | refl => exact ha
  | tail _ turn ih => exact turn.inside ih

theorem outcome_of_turns {ts : List String} {a b : Progress}
    (turns : ReflTransGen (Advance ts) a b) : a.outcome ts = b.outcome ts := by
  induction turns with
  | refl => rfl
  | tail _ turn ih => exact ih.trans turn.outcome

/-- How the turns of some categories end: all tokens are taken, or the token at the cursor stops
them, for a reason only if it is a tag that the locale was asked for. -/
inductive Ends (cs : List Category) (ts : List String) :
    Progress → Except Rejection Config → Prop
  | done {a} (all : a.position = ts.length) : Ends cs ts a (.ok a.config)
  | leftOver {a t} (next : ts[a.position]? = some t) : Ends cs ts a (.error ⟨t, none⟩)
  | malformed {a t fault} (next : ts[a.position]? = some t) (h : Locale.Malformed t fault)
      (asked : .locale ∈ cs) : Ends cs ts a (.error ⟨t, some fault⟩)

theorem Ends.mono {cs cs' : List Category} {ts : List String} {a : Progress}
    {out : Except Rejection Config} (h : Ends cs ts a out) (sub : cs ⊆ cs') :
    Ends cs' ts a out := by
  cases h with
  | done all => exact .done all
  | leftOver next => exact .leftOver next
  | malformed next h asked => exact .malformed next h (sub asked)

/-- The turns of canonical matchers come to an end, without any fault. -/
theorem exists_ends (cs : List Category) {ts : List String} {position : Nat}
    (inside : position ≤ ts.length) (r : Config) :
    ∃ b out, ReflTransGen (Advance ts) ⟨cs.map Category.matcher, position, r⟩ b ∧
      Ends cs ts b out ∧
      Progress.outcome ts ⟨cs.map Category.matcher, position, r⟩ =
        out.mapError Rejection.stop := by
  induction cs generalizing position r with
  | nil =>
    rcases Nat.lt_or_eq_of_le inside with lt | rfl
    · obtain ⟨t, rest, next, hd⟩ := drop_of_lt lt
      refine ⟨_, _, .refl, .leftOver next, ?_⟩
      rw [Progress.outcome, hd]
      rfl
    · exact ⟨_, _, .refl, .done rfl, outcome_behind rfl⟩
  | cons c cs ih =>
    rcases Nat.lt_or_eq_of_le inside with lt | rfl
    · obtain ⟨t, rest, next, hd⟩ := drop_of_lt lt
      cases attempted : c.matcher.attempt (ts.drop position) r with
      | ok result =>
        obtain ⟨taken, r'⟩ := result
        have turn : Advance ts ⟨(c :: cs).map Category.matcher, position, r⟩
            ⟨cs.map Category.matcher, position + taken, r'⟩ := .turn lt attempted
        have kept := (turn.inside ⟨⟨c :: cs, rfl⟩, inside⟩).position
        obtain ⟨b, out, turns, ends, same⟩ := ih kept r'
        exact ⟨b, out, .head turn turns, ends.mono (List.subset_cons_self c cs),
          turn.outcome.trans same⟩
      | error f =>
        rw [hd] at attempted
        rcases attempt_cases c t rest r with passed | ⟨fault, rfl, h, broken⟩ |
          ⟨g, left, ws, -, -, taken⟩
        · cases attempted.symm.trans passed
        · refine ⟨_, _, .refl, .malformed next h List.mem_cons_self, ?_⟩
          rw [Progress.outcome, hd, List.map_cons, run, broken]
          rfl
        · cases attempted.symm.trans taken
    · exact ⟨_, _, .refl, .done rfl, outcome_behind rfl⟩

theorem isValidWith_eq {ms : List Matcher} {d : String} {out : Except Rejection Config}
    (h : decodeWith ms d = out.mapError fun e => .rejected (e.error d)) :
    isValidWith ms d = .ok out.isOk := by
  unfold isValidWith
  rw [h]
  cases out <;> rfl

/-- **Decoding ends with a record or a rejection.** With canonical matchers in any order and with
any repetitions, the cursor stays within the tokens from turn to turn. In the end all tokens are
taken and there is a record, or the descriptor is rejected at the token under the cursor; a reason
is given only for a tag, and only if a locale was asked for. No fault of a matcher comes out, and a
descriptor is valid just if it decodes. -/
theorem decodeWith_outcome (cs : List Category) (d : String) :
    (∀ a, ReflTransGen (Advance (tokens d)) (.start (cs.map Category.matcher)) a →
      a.position ≤ (tokens d).length ∧
        decodeWith (cs.map Category.matcher) d =
          (a.outcome (tokens d)).mapError (Stop.failure d)) ∧
    ∃ a, ReflTransGen (Advance (tokens d)) (.start (cs.map Category.matcher)) a ∧
      ((a.position = (tokens d).length ∧
          decodeWith (cs.map Category.matcher) d = .ok a.config ∧
          isValidWith (cs.map Category.matcher) d = .ok true) ∨
        ∃ e, (tokens d)[a.position]? = some e.token ∧
          decodeWith (cs.map Category.matcher) d = .error (.rejected e) ∧
          isValidWith (cs.map Category.matcher) d = .ok false ∧
          e.descriptor = d ∧ e.token ∈ tokens d ∧
          (e.reason ≠ none → "b+".toList <+: e.token.toList ∧ .locale ∈ cs)) := by
  have start : Inside (tokens d) (.start (cs.map Category.matcher)) :=
    ⟨⟨cs, rfl⟩, Nat.zero_le _⟩
  constructor
  · intro a turns
    refine ⟨(start.of_turns turns).position, ?_⟩
    rw [← outcome_of_turns turns]
    rfl
  · obtain ⟨a, out, turns, ends, same⟩ :=
      exists_ends cs (Nat.zero_le (tokens d).length) Config.unspecified
    have decoded : decodeWith (cs.map Category.matcher) d =
        out.mapError fun e => .rejected (e.error d) := by
      change (Progress.outcome (tokens d) (.start (cs.map Category.matcher))).mapError _ = _
      rw [Progress.start, same]
      cases out with
      | ok r => rfl
      | error e => exact congrArg Except.error (failure_stop d e)
    have valid := isValidWith_eq decoded
    refine ⟨a, turns, ?_⟩
    cases ends with
    | done all => exact .inl ⟨all, decoded, valid⟩
    | @leftOver t next =>
      refine .inr ⟨⟨d, t, none⟩, next, decoded, valid, rfl, List.mem_of_getElem? next, ?_⟩
      intro reason
      exact absurd rfl reason
    | @malformed t fault next h asked =>
      refine .inr ⟨⟨d, t, some fault⟩, next, decoded, valid, rfl, List.mem_of_getElem? next, ?_⟩
      intro
      exact ⟨h.starts, asked⟩

/-- The second locale stops at a tag in place of the region that the first one has taken. -/
theorem decodeWith_outcome_second_locale :
    ∃ a, ReflTransGen (Advance (tokens "en-rUS-B+FR+"))
        (.start ([Category.locale, .locale].map Category.matcher)) a ∧
      (tokens "en-rUS-B+FR+")[a.position]? = some "b+fr+" ∧ a.position ≤ 3 ∧
      isValidWith ([Category.locale, .locale].map Category.matcher) "en-rUS-B+FR+" = .ok false := by
  obtain ⟨inside, a, turns, ⟨-, decoded, -⟩ | ⟨e, next, rejected, invalid, -⟩⟩ :=
    decodeWith_outcome [.locale, .locale] "en-rUS-B+FR+"
  · cases decoded
  · cases rejected
    exact ⟨a, turns, next, (inside a turns).1, invalid⟩

theorem completed_trial (ms : List Matcher) (n : Nat) (d : String) :
    (trial ms n d).completed = n + 2 * if (decodeWith ms d).isOk then 1 else 0 := by
  unfold trial
  cases decodeWith ms d <;> rfl

/-- A decoder can be shared: what it says of a descriptor does not depend on the ones before, and it
has completed a record for each that was decoded and one more for each that was found valid. -/
theorem getElem?_trials (ms : List Matcher) (n : Nat) (ds : List String) (i : Nat) :
    (trials ms n ds)[i]? = ds[i]?.map fun d =>
      ⟨decodeWith ms d, isValidWith ms d,
        n + 2 * (ds.take (i + 1)).countP fun d => (decodeWith ms d).isOk⟩ := by
  induction ds generalizing n i with
  | nil => rfl
  | cons d ds ih =>
    have counted := completed_trial ms n d
    cases i with
    | zero =>
      simp only [Nat.zero_add, List.take_succ_cons, List.take_zero, List.countP_cons,
        List.countP_nil, List.getElem?_cons_zero, Option.map_some, ← counted]
      rfl
    | succ i =>
      rw [trials, List.getElem?_cons_succ, ih, List.getElem?_cons_succ, counted,
        List.take_succ_cons]
      simp only [List.countP_cons, Nat.mul_add, Nat.add_assoc, Nat.add_comm]

end Descriptor
end DeviceQualifier
