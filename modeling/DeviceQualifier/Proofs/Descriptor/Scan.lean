import DeviceQualifier.Descriptor.Decoder
import DeviceQualifier.Proofs.Descriptor.Writes

/-!
Decoding gives every category one turn at the cursor. A scan goes by tokens instead: the token at
the cursor goes to the first category behind the last one taken that recognises it. `scan_run` says
that both come to the same outcome, for every descriptor.
-/
namespace DeviceQualifier.Descriptor

open Category (Reads Whole Recognizes)

/-- The token at which a descriptor is given up, with what is wrong with it if it is a tag. -/
structure Rejection where
  token : String
  reason : Option Locale.TagFault
  deriving DecidableEq, Repr

def Rejection.error (descriptor : String) (e : Rejection) : DecodeError :=
  ⟨descriptor, e.token, e.reason⟩

def Rejection.stop : Rejection → Stop
  | ⟨token, none⟩ => .leftOver token
  | ⟨token, some fault⟩ => .malformed token fault

/-- A scan of tokens behind the category with number `last`. What is taken goes on with what its
writes leave of the configuration. -/
inductive Scan : Nat → List String → Config → Except Rejection Config → Prop
  | done {last r} : Scan last [] r (.ok r)
  | take {last c t g rest ws r q out} (above : last < c.number) (reads : Reads c (t :: g) ws)
      (least : ∀ b, last < b.number → b.number < c.number → ¬Recognizes b t)
      (whole : Whole c (t :: g) rest) (left : Write.Leaves ws r q)
      (next : Scan c.number rest q out) : Scan last (t :: (g ++ rest)) r out
  | malformed {last t rest fault r} (early : last < Category.locale.number)
      (h : Locale.Malformed t fault) : Scan last (t :: rest) r (.error ⟨t, some fault⟩)
  | unread {last t rest r} (unknown : ∀ c, last < c.number → ¬Recognizes c t)
      (sound : last < Category.locale.number → ∀ fault, ¬Locale.Malformed t fault) :
      Scan last (t :: rest) r (.error ⟨t, none⟩)

namespace Category

theorem getElem?_number (c : Category) : all[c.number - 1]? = some c := by
  cases c <;> rfl

theorem number_le (c : Category) : c.number ≤ 23 := by
  cases c <;> decide

theorem number_injective {b c : Category} (h : b.number = c.number) : b = c := by
  have hb := getElem?_number b
  rw [h, getElem?_number c] at hb
  exact (Option.some.inj hb).symm

/-- The category that comes next is numbered next. -/
theorem number_of_drop {last : Nat} {c : Category} {cs : List Category}
    (h : all.drop last = c :: cs) : c.number = last + 1 ∧ all.drop (last + 1) = cs := by
  have ordered : ∀ i < all.length, ∀ c ∈ all[i]?, c.number = i + 1 := by decide
  have hlt : last < all.length := by
    have := congrArg List.length h
    simp only [List.length_drop, List.length_cons] at this
    omega
  have hc : all[last]? = some c := by
    rw [← List.head?_drop, h, List.head?_cons]
  refine ⟨ordered last hlt c hc, ?_⟩
  rw [← List.drop_drop, h, List.drop_one, List.tail_cons]

end Category

section Turns
variable {m : Matcher} {ms : List Matcher} {t : String} {rest : List String} {r : Config}

theorem run_taken {n : Nat} {ws : List Write}
    (h : m.recognize (t :: rest) = .ok (some ⟨n + 1, ws⟩)) :
    run (m :: ms) (t :: rest) r = run ms (rest.drop n) (ws.foldl Write.apply r) := by
  rw [run, Matcher.attempt, h]
  rfl

theorem run_passed (h : m.recognize (t :: rest) = .ok none) :
    run (m :: ms) (t :: rest) r = run ms (t :: rest) r := by
  rw [run, Matcher.attempt, h]
  rfl

theorem run_malformed {e : Locale.TagError} (h : m.recognize (t :: rest) = .error (.locale e)) :
    run (m :: ms) (t :: rest) r = .error (.malformed t e.fault) := by
  rw [run, Matcher.attempt, h]
  rfl

end Turns

/-- All that a scan can do with the token at the cursor. -/
theorem Scan.step {last : Nat} {t : String} {more : List String} {r : Config}
    {out : Except Rejection Config} (h : Scan last (t :: more) r out) :
    (∃ c g rest ws q, more = g ++ rest ∧ last < c.number ∧ Reads c (t :: g) ws ∧
      (∀ b, last < b.number → b.number < c.number → ¬Recognizes b t) ∧ Whole c (t :: g) rest ∧
      Write.Leaves ws r q ∧ Scan c.number rest q out) ∨
    (∃ fault, last < Category.locale.number ∧ Locale.Malformed t fault ∧
      out = .error ⟨t, some fault⟩) ∨
    (∀ c, last < c.number → ¬Recognizes c t) ∧
      (last < Category.locale.number → ∀ fault, ¬Locale.Malformed t fault) ∧
      out = .error ⟨t, none⟩ := by
  cases h with
  | take above reads least whole left next =>
    exact .inl ⟨_, _, _, _, _, rfl, above, reads, least, whole, left, next⟩
  | malformed early h => exact .inr (.inl ⟨_, early, h, rfl⟩)
  | unread unknown sound => exact .inr (.inr ⟨unknown, sound, rfl⟩)

/-- No category recognises a tag that is malformed. -/
theorem not_recognizes_of_malformed {t : String} {fault : Locale.TagFault}
    (h : Locale.Malformed t fault) (c : Category) : ¬Recognizes c t := by
  rintro ⟨g, ws, reads⟩
  obtain ⟨body, ht, -⟩ := id h
  have hw : t ≠ wildcard := by
    rintro rfl
    cases ht
  have hc := Category.owner_of_reads reads hw
  rw [Category.owner_of_tag ht] at hc
  subst hc
  cases reads with
  | wildcard hc => exact hc rfl
  | word hs => cases hs
  | number hm => cases hm
  | locale spelled =>
    cases spelled with
    | word hl | wordRegion hl =>
      rw [Locale.not_tag_of_isLanguageWord hl] at ht
      cases ht
    | tag ht' written => exact Locale.not_malformed_of_written ht' written h

/-- A scan has one outcome. -/
theorem Scan.unique {last : Nat} {ts : List String} {r : Config}
    {out out' : Except Rejection Config} (h : Scan last ts r out) (h' : Scan last ts r out') :
    out = out' := by
  induction h generalizing out' with
  | done =>
    cases h'
    rfl
  | @take last c t g rest ws r q out above reads least whole left next ih =>
    rcases h'.step with
      ⟨c', g', rest', ws', q', same, above', reads', least', whole', left', next'⟩ |
      ⟨fault, -, hf, -⟩ | ⟨unknown, -⟩
    · have hc : c.number = c'.number := by
        apply Nat.le_antisymm <;> apply Nat.le_of_not_lt
        · exact fun lt => least c' above' lt ⟨_, _, reads'⟩
        · exact fun lt => least' c above lt ⟨_, _, reads⟩
      cases Category.number_injective hc
      obtain ⟨rfl, rfl⟩ := Whole.unique reads reads' whole whole' same
      cases reads.unique reads'
      cases left.unique left'
      exact ih next'
    · exact absurd ⟨_, _, reads⟩ (not_recognizes_of_malformed hf c)
    · exact absurd ⟨_, _, reads⟩ (unknown c above)
  | malformed early hf =>
    rcases h'.step with ⟨c, g, rest, ws, q, -, -, reads, -⟩ | ⟨fault, -, hf', rfl⟩ | ⟨-, sound, -⟩
    · exact absurd ⟨_, _, reads⟩ (not_recognizes_of_malformed hf c)
    · rw [hf.unique hf']
    · exact absurd hf (sound early _)
  | unread unknown sound =>
    rcases h'.step with ⟨c, g, rest, ws, q, -, above, reads, -⟩ | ⟨fault, early, hf, -⟩ |
      ⟨-, -, rfl⟩
    · exact absurd ⟨_, _, reads⟩ (unknown c above)
    · exact absurd hf (sound early _)
    · rfl

/-- A category that does not know the token can be put before the scan. -/
theorem Scan.lower {last : Nat} {c : Category} {t : String} {rest : List String} {r : Config}
    {out : Except Rejection Config} (hc : c.number = last + 1) (unread : ¬Recognizes c t)
    (sound : c = .locale → ∀ fault, ¬Locale.Malformed t fault)
    (h : Scan (last + 1) (t :: rest) r out) : Scan last (t :: rest) r out := by
  have other {b : Category} (above : last < b.number) (known : Recognizes b t) :
      last + 1 < b.number := by
    apply Nat.lt_of_le_of_ne above
    intro he
    cases Category.number_injective (hc.trans he)
    exact unread known
  rcases h.step with ⟨b, g, rest', ws, q, rfl, above, reads, least, whole, left, next⟩ |
    ⟨fault, early, hf, rfl⟩ | ⟨unknown, quiet, rfl⟩
  · refine .take (by omega) reads (fun a ha hb known => ?_) whole left next
    exact least a (other ha known) hb known
  · exact .malformed (by omega) hf
  · refine .unread (fun b above known => unknown b (other above known) known) ?_
    intro early fault hf
    by_cases behind : last + 1 < Category.locale.number
    · exact quiet behind fault hf
    · have hl : c.number = Category.locale.number := by omega
      exact sound (Category.number_injective hl) fault hf

/-- The turns of the categories behind `last` scan the tokens. -/
theorem scan_run {cs : List Category} {last : Nat} (hcs : Category.all.drop last = cs)
    (ts : List String) (r : Config) :
    ∃ out, Scan last ts r out ∧
      run (cs.map Category.matcher) ts r = out.mapError Rejection.stop := by
  induction cs generalizing last ts r with
  | nil =>
    have hlast : 23 ≤ last := List.drop_eq_nil_iff.mp hcs
    cases ts with
    | nil => exact ⟨_, .done, rfl⟩
    | cons t rest =>
      refine ⟨_, .unread (fun c above => ?_) (fun early => ?_), rfl⟩
      · have := c.number_le
        omega
      · have := Category.locale.number_le
        omega
  | cons c cs ih =>
    obtain ⟨hc, hcs⟩ := Category.number_of_drop hcs
    cases ts with
    | nil => exact ⟨_, .done, rfl⟩
    | cons t rest =>
      have turn := Category.turn c t rest
      generalize hres : c.matcher.recognize (t :: rest) = res at turn
      cases turn with
      | @taken _ _ g rest ws reads whole =>
        obtain ⟨out, scan, hrun⟩ := ih hcs rest (ws.foldl Write.apply r)
        refine ⟨out, .take (by omega) reads (fun b above below => ?_) whole (reads.leaves r)
          (hc ▸ scan), ?_⟩
        · omega
        · rw [List.map_cons, run_taken hres, List.drop_left, hrun]
      | passed unread sound =>
        obtain ⟨out, scan, hrun⟩ := ih hcs (t :: rest) r
        exact ⟨out, scan.lower hc unread sound, by rw [List.map_cons, run_passed hres, hrun]⟩
      | malformed hf =>
        refine ⟨_, .malformed (by omega) hf, ?_⟩
        rw [List.map_cons, run_malformed hres]
        rfl

theorem failure_stop (d : String) (e : Rejection) :
    e.stop.failure d = .rejected (e.error d) := by
  obtain ⟨token, reason⟩ := e
  cases reason <;> rfl

/-- Decoding comes to what the scan of all tokens comes to. -/
theorem exists_scan (d : String) :
    ∃ out, Scan 0 (tokens d) Config.unspecified out ∧
      decode d = out.mapError fun e => .rejected (e.error d) := by
  obtain ⟨out, scan, hrun⟩ := @scan_run Category.all 0 rfl (tokens d) Config.unspecified
  refine ⟨out, scan, ?_⟩
  change (run (Category.all.map Category.matcher) _ _).mapError _ = _
  rw [hrun]
  cases out with
  | ok r => rfl
  | error e => exact congrArg Except.error (failure_stop d e)

theorem decode_eq_ok_iff {d : String} {r : Config} :
    decode d = .ok r ↔ Scan 0 (tokens d) Config.unspecified (.ok r) := by
  obtain ⟨out, scan, decoded⟩ := exists_scan d
  rw [decoded]
  constructor
  · intro ok
    cases out with
    | ok q =>
      cases ok
      exact scan
    | error e => cases ok
  · intro scan'
    rw [scan.unique scan']
    rfl

theorem decode_eq_error_iff {d : String} {f : Failure} :
    decode d = .error f ↔
      ∃ e, Scan 0 (tokens d) Config.unspecified (.error e) ∧ f = .rejected (e.error d) := by
  obtain ⟨out, scan, decoded⟩ := exists_scan d
  rw [decoded]
  constructor
  · intro failed
    cases out with
    | ok q => cases failed
    | error e =>
      cases failed
      exact ⟨e, scan, rfl⟩
  · rintro ⟨e, scan', rfl⟩
    rw [scan.unique scan']
    rfl

/-- What does not decode is rejected. -/
theorem rejected_of_not_ok {d : String} (failed : ¬∃ r, decode d = .ok r) :
    ∃ e, decode d = .error (.rejected e) := by
  cases hd : decode d with
  | ok r => exact absurd ⟨r, hd⟩ failed
  | error f =>
    obtain ⟨e, -, rfl⟩ := decode_eq_error_iff.mp hd
    exact ⟨_, rfl⟩

/-- **Decoding is the scan.** The scan of a descriptor has exactly one outcome, and decoding has the
same: its record, or its token and reason with the descriptor itself. -/
theorem decode_scan (d : String) :
    ∃ out, (∀ out', Scan 0 (tokens d) Config.unspecified out' ↔ out' = out) ∧
      decode d = out.mapError fun e => .rejected (e.error d) := by
  obtain ⟨out, scan, h⟩ := exists_scan d
  refine ⟨out, fun out' => ⟨fun scan' => scan'.unique scan, ?_⟩, h⟩
  rintro rfl
  exact scan

/-- The wildcard is taken before the language, which takes two tokens; a tag in its place stops the
scan. -/
theorem decode_scan_language_region :
    (∃ r, Scan 0 (tokens "any-fr-rCA-ldrtl-land-v21") Config.unspecified (.ok r) ∧
      r.get .mcc = 0 ∧ r.locale = ⟨some "fr", some "CA", none, none⟩ ∧
      r.view .layoutDirection = 0x80 ∧ r.get .orientation = 2 ∧ r.get .sdkVersion = 21) ∧
    Scan 0 (tokens "any-b+fr+c-ldrtl") Config.unspecified
      (.error ⟨"b+fr+c", some (.wrongLength "c")⟩) := by
  constructor
  · obtain ⟨out, unique, h⟩ := decode_scan "any-fr-rCA-ldrtl-land-v21"
    cases out with
    | error e => cases h
    | ok r =>
      cases h
      exact ⟨_, (unique _).mpr rfl, rfl, rfl, rfl, rfl, rfl⟩
  · obtain ⟨out, unique, h⟩ := decode_scan "any-b+fr+c-ldrtl"
    have known : decode "any-b+fr+c-ldrtl" = .error (.rejected
        ⟨"any-b+fr+c-ldrtl", "b+fr+c", some (.wrongLength "c")⟩) := rfl
    rw [known] at h
    cases out with
    | ok r => cases h
    | error e =>
      obtain ⟨token, reason⟩ := e
      cases h
      exact (unique _).mpr rfl

end DeviceQualifier.Descriptor
