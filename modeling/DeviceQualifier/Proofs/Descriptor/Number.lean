import DeviceQualifier.Proofs.Descriptor.Image

/-!
Descriptors of one token, and the numbers in them. A token that belongs to a category is taken by it
or by none, so a descriptor with nothing but a number decodes just if the number is small enough,
and says that number and nothing else.
-/
namespace DeviceQualifier.Descriptor

open Category (Reads Recognizes)

theorem joined_singleton (t : String) : joined [t] = t := by
  simp [joined]

/-- The rejection of a descriptor that is one token, at that token. -/
def refused (t : String) : Except Failure Config := .error (.rejected ⟨t, t, none⟩)

section Token
variable {t : String} {c : Category} (named : t ≠ wildcard) (owned : Category.owner t = c)
include named owned

/-- A token is recognised by its owner, if at all. -/
theorem eq_owner_of_recognizes {b : Category} (h : Recognizes b t) : b = c := by
  obtain ⟨g, ws, reads⟩ := h
  exact (Category.owner_of_reads reads named).symm.trans owned

/-- A token that its owner reads is taken by it on the first turn that can take it. -/
theorem scan_token {ws : List Write} (reads : Reads c [t] ws) (r : Config) :
    Scan 0 [t] r (.ok (ws.foldl Write.apply r)) := by
  have first : ∀ b : Category, 0 < b.number → b.number < c.number → ¬Recognizes b t := by
    intro b _ below known
    rw [eq_owner_of_recognizes named owned known] at below
    exact Nat.lt_irrefl _ below
  exact .take (Nat.succ_pos _) reads first (Category.whole_nil _ _) (reads.leaves r) .done

/-- A token outside the locale that its owner does not read is left over. -/
theorem scan_left_over (hc : c ≠ .locale) (unread : ∀ ws, ¬Reads c [t] ws) (r : Config) :
    Scan 0 [t] r (.error ⟨t, none⟩) := by
  refine .unread (fun b _ known => ?_) fun _ fault malformed => ?_
  · obtain rfl := eq_owner_of_recognizes named owned known
    obtain ⟨g, ws, reads⟩ := known
    obtain rfl : g = [] := reads.tail.resolve_right fun locale => hc locale.1
    exact unread ws reads
  · obtain ⟨body, tag, -⟩ := malformed
    exact hc (owned.symm.trans (Category.owner_of_tag tag))

/-- A descriptor of one token decodes just if the owner of the token reads it. -/
theorem decode_token (piece : Piece t) (hc : c ≠ .locale) {P : Prop} [Decidable P]
    {ws : List Write} (taken : P → Reads c [t] ws) (only : ∀ ws', Reads c [t] ws' → P) :
    decode t = if P then .ok (ws.foldl Write.apply Config.unspecified) else refused t := by
  have pieces : ∀ u ∈ [t], Piece u := List.forall_mem_singleton.mpr piece
  have single := joined_singleton t
  split
  · rename_i h
    have scan := scan_token named owned (taken h) Config.unspecified
    rw [← (decode_joined_eq_ok_iff pieces).mpr scan, single]
  · rename_i h
    have scan := scan_left_over named owned hc (fun ws' reads => h (only ws' reads))
      Config.unspecified
    have rejected := (decode_joined_eq_error_iff pieces).mpr ⟨_, scan, rfl⟩
    rw [single] at rejected
    exact rejected

end Token

/-- A number between its marks is read as that number only, and no word looks like one. -/
theorem le_limit_of_reads {c : Category} {opening closing ds : String} {n : Nat}
    (hm : c.marks? = some (opening, closing)) (hn : IsNumeral ds n) {t : String} {ws : List Write}
    (h : Reads c [t] ws) (ht : t = opening ++ ds ++ closing) : n ≤ c.limit := by
  cases h with
  | wildcard =>
    obtain ⟨plainOpening, plainClosing⟩ := Category.plain_marks c c.mem_all _ hm
    have other := (isToken_number (List.all_eq_true.mp plainOpening)
      (List.all_eq_true.mp plainClosing) hn.1).2
    exact absurd ht.symm other
  | word hs hw =>
    have digits : NumberForm.digits? ⟨opening, closing, .plain⟩ t = some ds :=
      Category.digits?_eq_some_iff.mpr ⟨ht, hn.1⟩
    -- only densities have both words and numbers, and none of their words is digits and `dpi`
    cases c <;> cases hm <;> cases hs
    rw [Category.digits?_density _ hw] at digits
    cases digits
  | @number _ _ _ ds' n' hm' hn' fits =>
    cases hm.symm.trans hm'
    obtain rfl : ds' = ds := by
      simpa [← String.toList_inj] using ht
    obtain rfl : n' = n := hn'.2.symm.trans hn.2
    exact fits
  | pixels | locale => cases hm

/-- A descriptor of one number between its marks. -/
theorem decode_marked {c : Category} {opening closing : String}
    (hm : c.marks? = some (opening, closing)) {s : String} {n : Nat} (hn : IsNumeral s n) :
    decode (opening ++ s ++ closing) = if n ≤ c.limit
      then .ok ((c.writes (c.stored n)).foldl Write.apply Config.unspecified)
      else refused (opening ++ s ++ closing) := by
  obtain ⟨plainOpening, plainClosing⟩ := Category.plain_marks c c.mem_all _ hm
  obtain ⟨token, named⟩ := isToken_number (List.all_eq_true.mp plainOpening)
    (List.all_eq_true.mp plainClosing) hn.1
  have hc : c ≠ .locale := by
    rintro rfl
    cases hm
  exact decode_token named (Category.owner_of_digits hm hn.1) token.piece hc (.number hm hn)
    fun _ reads => le_limit_of_reads hm hn reads rfl

/-- A descriptor of one size in pixels. -/
theorem decode_sides {s t : String} {n m : Nat} (hn : IsNumeral s n) (hm : IsNumeral t m) :
    decode (s ++ "x" ++ t) = if n ≤ 65535 ∧ m ≤ n
      then .ok { Config.unspecified with screenWidth := n, screenHeight := m }
      else refused (s ++ "x" ++ t) := by
  obtain ⟨token, named⟩ := isToken_sides hn.1 hm.1
  refine decode_token named (Category.owner_of_sides hn.1 hm.1) token.piece (by decide)
    (fun fits => .pixels hn hm fits.1 fits.2) fun ws reads => ?_
  rcases Category.reads_pixels_iff.mp reads with ⟨wildcard, -⟩ | ⟨a, b, sides, fits, order, -⟩
  · exact absurd wildcard named
  · cases sides.symm.trans (Category.sides?_eq_some_iff.mpr ⟨rfl, hn.1, hm.1⟩)
    rw [hn.2] at fits order
    rw [hm.2] at order
    exact ⟨fits, order⟩

/-- The numbers that are stored as they are read: the field, and what stands around the digits. -/
def plainNumbers : List (NumField × String × String) := [
  (.mcc, "mcc", ""), (.smallestScreenWidthDp, "sw", "dp"), (.screenWidthDp, "w", "dp"),
  (.screenHeightDp, "h", "dp"), (.density, "", "dpi"), (.sdkVersion, "v", "")]

theorem decode_plain_number {f : NumField} {opening closing : String}
    (hf : (f, opening, closing) ∈ plainNumbers) {s : String} {n : Nat} (hn : IsNumeral s n) :
    decode (opening ++ s ++ closing) = if n ≤ 65535 then .ok (Config.unspecified.set f n)
      else refused (opening ++ s ++ closing) := by
  simp only [plainNumbers, List.mem_cons, List.not_mem_nil, or_false, Prod.mk.injEq] at hf
  rcases hf with ⟨rfl, rfl, rfl⟩ | ⟨rfl, rfl, rfl⟩ | ⟨rfl, rfl, rfl⟩ | ⟨rfl, rfl, rfl⟩ |
    ⟨rfl, rfl, rfl⟩ | ⟨rfl, rfl, rfl⟩
  · exact decode_marked (c := .mcc) rfl hn
  · exact decode_marked (c := .smallestScreenWidth) rfl hn
  · exact decode_marked (c := .screenWidth) rfl hn
  · exact decode_marked (c := .screenHeight) rfl hn
  · exact decode_marked (c := .density) rfl hn
  · exact decode_marked (c := .version) rfl hn

/-- Network code zero has the stored form of the number that cannot be read. -/
theorem decode_network_code {s : String} {n : Nat} (hn : IsNumeral s n) :
    decode ("mnc" ++ s) = if n ≤ 65534
      then .ok (Config.unspecified.set .mnc (if n = 0 then 65535 else n))
      else refused ("mnc" ++ s) := by
  have decoded := decode_marked (c := .mnc) rfl hn
  have value : Category.mnc.stored n = (if n = 0 then 65535 else n : Int) := by
    simp only [Category.stored, true_and]
  rw [value, String.append_empty] at decoded
  exact decoded

theorem mnc_of_network_code {s : String} {n : Nat} (hn : IsNumeral s n) {r : Config}
    (h : decode ("mnc" ++ s) = .ok r) : n ≤ 65534 ∧ r.mnc = (if n = 0 then 65535 else n : Int) := by
  rw [decode_network_code hn] at h
  split at h
  · rename_i fits
    cases h
    exact ⟨fits, rfl⟩
  · cases h

/-- **Numbers are read exactly.** Digits of any length are read as the number they stand for, if it
fits sixteen bits. A descriptor that is one number decodes just if it fits, and then says that
number and nothing else. Network codes stop one earlier and are all stored apart, none of them as
zero. Of a size in pixels both sides have to fit, the larger one first. -/
theorem decode_number {s : String} {n : Nat} (hn : IsNumeral s n) :
    readNumber s = .ok (if n ≤ 65535 then some (n : Int) else none) ∧
    (∀ f opening closing, (f, opening, closing) ∈ plainNumbers →
      decode (opening ++ s ++ closing) = if n ≤ 65535 then .ok (Config.unspecified.set f n)
        else refused (opening ++ s ++ closing)) ∧
    (decode ("mnc" ++ s) = if n ≤ 65534
      then .ok (Config.unspecified.set .mnc (if n = 0 then 65535 else n))
      else refused ("mnc" ++ s)) ∧
    ∀ t m, IsNumeral t m →
      (∀ r q, decode ("mnc" ++ s) = .ok r → decode ("mnc" ++ t) = .ok q →
        r.mnc ≠ 0 ∧ (n ≠ m → r.mnc ≠ q.mnc)) ∧
      decode (s ++ "x" ++ t) = if n ≤ 65535 ∧ m ≤ 65535 ∧ m ≤ n
        then .ok { Config.unspecified with screenWidth := n, screenHeight := m }
        else refused (s ++ "x" ++ t) := by
  refine ⟨?_, fun f _ _ hf => decode_plain_number hf hn, decode_network_code hn,
    fun t m hm => ⟨?_, ?_⟩⟩
  · rw [← String.ofList_toList (s := s), readNumber_of_isDigits hn.1, hn.2]
    rfl
  · intro r q hr hq
    obtain ⟨lowR, valueR⟩ := mnc_of_network_code hn hr
    obtain ⟨lowQ, valueQ⟩ := mnc_of_network_code hm hq
    rw [valueR, valueQ]
    split <;> split <;> omega
  · rw [decode_sides hn hm]
    congr 1
    apply propext
    omega

/-- Seven digits stand for the largest number. It is a country, but no network. -/
theorem decode_number_largest :
    readNumber "0065535" = .ok (some 65535) ∧
      decode "mcc0065535" = .ok (Config.unspecified.set .mcc 65535) ∧
      decode "mnc0065535" = refused "mnc0065535" ∧
      decode "0065535x65536" = refused "0065535x65536" := by
  obtain ⟨value, plain, network, sides⟩ := @decode_number "0065535" 65535 ⟨by decide, by decide⟩
  exact ⟨value, plain .mcc "mcc" "" (by decide), network,
    (sides "65536" 65536 ⟨by decide, by decide⟩).2⟩

end DeviceQualifier.Descriptor
