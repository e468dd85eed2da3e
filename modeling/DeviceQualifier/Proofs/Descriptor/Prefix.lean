import DeviceQualifier.Proofs.Descriptor.Joined

/-!
Decoding goes from left to right and never takes anything back. What stands in front of the token
at which a descriptor is given up decodes, cut off anywhere, and what stands behind it has no say:
`Scan.take_ok` and `Scan.split_error`. The one token that is looked at ahead of its turn, the region
of a language, does not spoil this, because a language can do without a region.
-/
namespace DeviceQualifier.Descriptor

open Category (Reads Whole Recognizes)

/-- Tokens that scan to the end can be cut off anywhere. Between a language and its region, the
language remains. -/
theorem Scan.take_ok {last : Nat} {ts : List String} {r q : Config}
    {out : Except Rejection Config} (h : Scan last ts r out) (hq : out = .ok q) (m : Nat) :
    ∃ q', Scan last (ts.take m) r (.ok q') := by
  induction h generalizing m with
  | @done last r =>
    rw [List.take_nil]
    exact ⟨r, .done⟩
  | @take last c t g rest ws r q' out above reads least whole left next ih =>
    cases m with
    | zero => exact ⟨r, .done⟩
    | succ m =>
      rw [List.take_succ_cons]
      rcases reads.tail with rfl | ⟨rfl, hw, next, rfl, -⟩
      · obtain ⟨q', scan⟩ := ih hq m
        refine ⟨q', .take (g := []) above reads least (whole.congr fun next hn => ?_) left scan⟩
        cases m with
        | zero => cases hn
        | succ m => rwa [List.head?_take, if_neg (Nat.succ_ne_zero m)] at hn
      · cases m with
        | zero =>
          have alone : Reads .locale [t] _ := .locale (.word hw)
          exact ⟨_, .take (g := []) above alone least (Category.whole_nil _ _) (alone.leaves r)
            .done⟩
        | succ m =>
          obtain ⟨q', scan⟩ := ih hq m
          exact ⟨q', .take (g := [next]) above reads least (Category.whole_pair _ _ _ _) left scan⟩
  | malformed | unread => cases hq

/-- A scan that is given up splits at the token of the error: what stands in front scans to its end,
and whatever is put behind, the error remains. -/
theorem Scan.split_error {last : Nat} {ts : List String} {r : Config} {e : Rejection}
    {out : Except Rejection Config} (h : Scan last ts r out) (he : out = .error e) :
    ∃ front rest, ts = front ++ e.token :: rest ∧ (∃ q, Scan last front r (.ok q)) ∧
      ∀ rest', Scan last (front ++ e.token :: rest') r (.error e) := by
  induction h with
  | done => cases he
  | @take last c t g rest ws r q' out above reads least whole left next ih =>
    obtain ⟨front, behind, rfl, ⟨q, scan⟩, always⟩ := ih he
    refine ⟨t :: (g ++ front), behind, by simp, ⟨q, ?_⟩, fun rest' => ?_⟩
    · refine .take above reads least (whole.congr fun next hn => ?_) left scan
      rw [List.head?_append, hn, Option.some_or]
    · have scan' := always rest'
      rw [List.cons_append, List.append_assoc]
      refine .take above reads least (whole.congr fun next hn => ?_) left scan'
      rwa [List.head?_append, List.head?_cons] at hn ⊢
  | @malformed last t rest fault r early hf =>
    cases he
    exact ⟨[], rest, rfl, ⟨r, .done⟩, fun rest' => .malformed early hf⟩
  | @unread last t rest r unknown sound =>
    cases he
    exact ⟨[], rest, rfl, ⟨r, .done⟩, fun rest' => .unread unknown sound⟩

/-- **The first token that is wrong.** If some tokens decode, so does every start of them. If not,
the error names one of them such that the starts that end in front of it decode, and the others do
not; and all tokens that start with those up to the error are given up there for the same reason. -/
theorem decode_starts {ts : List String} (pieces : ∀ t ∈ ts, Piece t) :
    (∀ r, decode (joined ts) = .ok r → ∀ m, ∃ q, decode (joined (ts.take m)) = .ok q) ∧
      ∀ f, decode (joined ts) = .error f → ∃ k, ∃ hk : k < ts.length, ∃ reason,
        f = .rejected ⟨joined ts, ts[k], reason⟩ ∧
        (∀ m, (∃ q, decode (joined (ts.take m)) = .ok q) ↔ m ≤ k) ∧
        ∀ us, (∀ u ∈ us, Piece u) → ts.take (k + 1) <+: us →
          decode (joined us) = .error (.rejected ⟨joined us, ts[k], reason⟩) := by
  have start (m : Nat) : ∀ t ∈ ts.take m, Piece t := fun t ht => pieces t (List.mem_of_mem_take ht)
  constructor
  · intro r h m
    obtain ⟨q, scan⟩ := ((decode_joined_eq_ok_iff pieces).mp h).take_ok rfl m
    exact ⟨q, (decode_joined_eq_ok_iff (start m)).mpr scan⟩
  · intro f h
    obtain ⟨e, scan, rfl⟩ := (decode_joined_eq_error_iff pieces).mp h
    obtain ⟨front, rest, rfl, ⟨q, before⟩, always⟩ := scan.split_error rfl
    have hk : front.length < (front ++ e.token :: rest).length := by simp
    have found : (front ++ e.token :: rest)[front.length] = e.token := by simp
    have upTo : (front ++ e.token :: rest).take (front.length + 1) = front ++ [e.token] :=
      List.take_length_add_append 1
    have stopped (us : List String) (hus : ∀ u ∈ us, Piece u)
        (starts : (front ++ e.token :: rest).take (front.length + 1) <+: us) :
        decode (joined us) = .error (.rejected ⟨joined us, e.token, e.reason⟩) := by
      rw [upTo] at starts
      obtain ⟨behind, rfl⟩ := starts
      refine (decode_joined_eq_error_iff hus).mpr ⟨e, ?_, rfl⟩
      rw [List.append_assoc]
      exact always behind
    refine ⟨front.length, hk, e.reason, ?_⟩
    rw [found]
    refine ⟨rfl, fun m => ⟨?_, ?_⟩, stopped⟩
    · rintro ⟨q', ok⟩
      apply Nat.le_of_not_lt
      intro late
      have longer := List.take_prefix_take_left (l := front ++ e.token :: rest)
        (Nat.succ_le_of_lt late)
      cases ok.symm.trans (stopped _ (start m) longer)
    · intro hm
      obtain ⟨q', scan'⟩ := before.take_ok rfl m
      refine ⟨q', (decode_joined_eq_ok_iff (start m)).mpr ?_⟩
      rwa [List.take_append_of_le_length hm]

/-- A wildcard is taken by the network code, so the tag still has its turn, and its region is too
long. Without the tag all is well; with anything behind it nothing changes. -/
theorem decode_starts_long_region :
    (∃ q, decode (joined (["mcc310", "any", "b+en+usa", "v21"].take 2)) = .ok q) ∧
      decode (joined ["mcc310", "any", "b+en+usa", "port"]) = .error (.rejected
        ⟨"mcc310-any-b+en+usa-port", "b+en+usa", some (.notOfKind .region "usa")⟩) := by
  obtain ⟨-, stops⟩ := @decode_starts ["mcc310", "any", "b+en+usa", "v21"] (by decide)
  obtain ⟨k, hk, reason, hf, starts, always⟩ := stops _ rfl
  have low : 2 ≤ k := (starts 2).mp ⟨_, rfl⟩
  have high : ¬3 ≤ k := by
    intro h
    obtain ⟨q, hq⟩ := (starts 3).mpr h
    cases hq
  obtain rfl : k = 2 := by omega
  refine ⟨(starts 2).mpr (Nat.le_refl 2), ?_⟩
  rw [always _ (by decide) (by decide)]
  cases hf
  rfl

end DeviceQualifier.Descriptor
