import DeviceQualifier.Proofs.Descriptor.Scan

/-!
Descriptors that are joined from their tokens. Whatever the tokens are, they come out again:
`tokens_joined`. So decoding a joined list is the scan of the list itself.
-/
namespace DeviceQualifier.Descriptor

/-- Text that stands in a descriptor as a token of its own: not empty, without hyphens, and in lower
case. -/
structure Piece (t : String) : Prop where
  filled : t ≠ ""
  whole : '-' ∉ t.toList
  lower : Text.lower t = t

theorem piece_iff {t : String} : Piece t ↔ t ≠ "" ∧ '-' ∉ t.toList ∧ Text.lower t = t :=
  ⟨fun h => ⟨h.filled, h.whole, h.lower⟩, fun ⟨filled, whole, lower⟩ => ⟨filled, whole, lower⟩⟩

instance (t : String) : Decidable (Piece t) := decidable_of_iff' _ piece_iff

/-- The descriptor of some tokens. -/
def joined (ts : List String) : String := String.intercalate "-" ts

theorem tokens_joined {ts : List String} (h : ∀ t ∈ ts, Piece t) : tokens (joined ts) = ts := by
  by_cases hne : ts = []
  · rw [hne]
    rfl
  have apart : ∀ p ∈ ts.map String.toList, Text.lowerChars p = p ∧ '-' ∉ p := by
    intro p hp
    obtain ⟨t, ht, rfl⟩ := List.mem_map.mp hp
    have same := congrArg String.toList (h t ht).lower
    rw [Text.lower, String.toList_ofList] at same
    exact ⟨same, (h t ht).whole⟩
  have split := Text.splitOn_lowerChars (Text.lowered_singleton (by decide)) apart
    (by simpa using hne)
  have kept : (ts.map String.toList).filter (!·.isEmpty) = ts.map String.toList := by
    rw [List.filter_eq_self]
    intro p hp
    obtain ⟨t, ht, rfl⟩ := List.mem_map.mp hp
    simpa using (h t ht).filled
  rw [tokens, joined, String.toList_intercalate, show "-".toList = ['-'] from rfl, split, kept,
    List.map_map]
  exact List.map_id'' (fun _ => String.ofList_toList) ts

section Decode
variable {ts : List String} (h : ∀ t ∈ ts, Piece t)
include h

theorem decode_joined_eq_ok_iff {r : Config} :
    decode (joined ts) = .ok r ↔ Scan 0 ts Config.unspecified (.ok r) := by
  rw [decode_eq_ok_iff, tokens_joined h]

theorem decode_joined_eq_error_iff {f : Failure} :
    decode (joined ts) = .error f ↔
      ∃ e, Scan 0 ts Config.unspecified (.error e) ∧ f = .rejected (e.error (joined ts)) := by
  rw [decode_eq_error_iff, tokens_joined h]

end Decode

end DeviceQualifier.Descriptor
