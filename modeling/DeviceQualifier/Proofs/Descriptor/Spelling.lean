import DeviceQualifier.Proofs.Descriptor.Joined
import DeviceQualifier.Proofs.Wire.Fit
import Mathlib.Logic.Relation

/-!
Case and stray hyphens. The tokens of a descriptor are what stands between its hyphens, in small
letters and without what is empty, `tokens_eq`. Decoding sees nothing else of it, `alike_of_tokens`.
So a change of case and a hyphen that separates nothing leave the outcome as it is, in any number.
-/
namespace DeviceQualifier.Descriptor

open Relation (ReflTransGen)
open Wire (Ascii)

/-- Two descriptors come to the same: to one configuration, or to rejections that differ only in the
descriptor they name. -/
inductive Alike (d e : String) : Prop
  | decoded {r} (left : decode d = .ok r) (right : decode e = .ok r)
  | rejected {token reason} (left : decode d = .error (.rejected ⟨d, token, reason⟩))
      (right : decode e = .error (.rejected ⟨e, token, reason⟩))

theorem alike_of_tokens {d e : String} (same : tokens d = tokens e) : Alike d e := by
  obtain ⟨out, scan, decoded⟩ := exists_scan d
  obtain ⟨out', scan', decoded'⟩ := exists_scan e
  rw [same] at scan
  cases scan.unique scan'
  cases out with
  | ok r => exact .decoded decoded decoded'
  | error f => exact .rejected decoded decoded'

/-- What stands between the hyphens of some characters, without what is empty. -/
def segments (cs : List Char) : List (List Char) := (cs.splitOn '-').filter (!·.isEmpty)

/-- The characters of a text, with small letters for capital ones. -/
def small (s : String) : List Char := s.toList.map Char.toLower

/-- A hyphen parts what stands before it from what stands behind it, and is no part itself. -/
theorem segments_append_hyphen (a b : List Char) :
    segments (a ++ '-' :: b) = segments a ++ segments b := by
  rw [segments, List.splitOn_append_cons_self, List.filter_append]
  rfl

theorem small_append (s t : String) : small (s ++ t) = small s ++ small t := by
  rw [small, String.toList_append, List.map_append]
  rfl

theorem tokens_eq {d : String} (h : Ascii d) :
    tokens d = (segments (small d)).map String.ofList := by
  rw [tokens, Text.lowerChars_of_ascii h]
  rfl

theorem hyphen_not_mem_of_mem_tokens {d t : String} (h : t ∈ tokens d) : '-' ∉ t.toList := by
  obtain ⟨cs, hcs, rfl⟩ := List.mem_map.mp h
  rw [String.toList_ofList]
  intro hyphen
  exact (Text.mem_of_mem_splitOn (List.mem_filter.mp hcs).1 hyphen).2 rfl

/-- A function that changes the case of ASCII characters and nothing else. -/
def Recases (f : Char → Char) : Prop :=
  ∀ c : Char, c.toNat < 128 → (f c).toNat < 128 ∧ (f c).toLower = c.toLower

theorem recases_toLower : Recases Char.toLower := fun _ =>
  Text.forall_ascii
    (P := fun c => c.toLower.toNat < 128 ∧ c.toLower.toLower = c.toLower) (by decide)

theorem recases_toUpper : Recases Char.toUpper := fun _ =>
  Text.forall_ascii
    (P := fun c => c.toUpper.toNat < 128 ∧ c.toUpper.toLower = c.toLower) (by decide)

namespace Recases
variable {f : Char → Char} {d : String} (recases : Recases f) (h : Ascii d)
include recases h

theorem ascii : Ascii (String.ofList (d.toList.map f)) := by
  rw [Ascii, String.toList_ofList, List.forall_mem_map]
  exact fun c hc => (recases c (h c hc)).1

theorem small_eq : small (String.ofList (d.toList.map f)) = small d := by
  rw [small, String.toList_ofList, List.map_map]
  exact List.map_congr_left fun c hc => (recases c (h c hc)).2

end Recases

theorem upper_of_ascii {d : String} (h : Ascii d) :
    Text.upper d = String.ofList (d.toList.map Char.toUpper) := by
  rw [Text.upper, Text.upperChars_of_ascii h]

theorem lower_of_ascii {d : String} (h : Ascii d) :
    Text.lower d = String.ofList (d.toList.map Char.toLower) := by
  rw [Text.lower, Text.lowerChars_of_ascii h]

/-- The tokens of ASCII text are tokens of their own. -/
theorem piece_of_mem_tokens {d t : String} (h : Ascii d) (ht : t ∈ tokens d) : Piece t := by
  refine ⟨ne_empty_of_mem_tokens ht, hyphen_not_mem_of_mem_tokens ht, Text.lower_settled ?_⟩
  rw [tokens_eq h] at ht
  obtain ⟨cs, hcs, rfl⟩ := List.mem_map.mp ht
  rw [String.toList_ofList]
  intro c hc
  obtain ⟨x, hx, rfl⟩ := List.mem_map.mp (Text.mem_of_mem_splitOn (List.mem_filter.mp hcs).1 hc).1
  exact recases_toLower x (h x hx)

/-- A change of case, or a hyphen more that separates nothing. -/
inductive Respelled : String → String → Prop
  | upper (d) : Respelled d (Text.upper d)
  | lower (d) : Respelled d (Text.lower d)
  | leading (d) : Respelled d ("-" ++ d)
  | trailing (d) : Respelled d (d ++ "-")
  | doubled (a b) : Respelled (a ++ "-" ++ b) (a ++ "--" ++ b)

namespace Respelled
variable {d e : String}

theorem ascii (h : Respelled d e) (ascii : Ascii d) : Ascii e := by
  have hyphen : ('-' : Char).toNat < 128 := by decide
  cases h with
  | upper =>
    rw [upper_of_ascii ascii]
    exact recases_toUpper.ascii ascii
  | lower =>
    rw [lower_of_ascii ascii]
    exact recases_toLower.ascii ascii
  | leading =>
    rw [Ascii, String.toList_append]
    exact List.forall_mem_cons.mpr ⟨hyphen, ascii⟩
  | trailing =>
    rw [Ascii, String.toList_append]
    exact List.forall_mem_append.mpr ⟨ascii, List.forall_mem_singleton.mpr hyphen⟩
  | doubled a b =>
    simp only [Ascii, String.toList_append, List.forall_mem_append] at ascii ⊢
    obtain ⟨⟨front, -⟩, back⟩ := ascii
    refine ⟨⟨front, ?_⟩, back⟩
    exact List.forall_mem_cons.mpr ⟨hyphen, List.forall_mem_singleton.mpr hyphen⟩

theorem segments_eq (h : Respelled d e) (ascii : Ascii d) :
    segments (small e) = segments (small d) := by
  cases h with
  | upper => rw [upper_of_ascii ascii, recases_toUpper.small_eq ascii]
  | lower => rw [lower_of_ascii ascii, recases_toLower.small_eq ascii]
  | leading =>
    rw [small_append]
    exact segments_append_hyphen [] (small d)
  | trailing =>
    rw [small_append]
    exact (segments_append_hyphen (small d) []).trans (List.append_nil _)
  | doubled a b =>
    have one : small (a ++ "-" ++ b) = small a ++ '-' :: small b := by
      rw [small_append, small_append, List.append_assoc]
      rfl
    have two : small (a ++ "--" ++ b) = small a ++ '-' :: ([] ++ '-' :: small b) := by
      rw [small_append, small_append, List.append_assoc]
      rfl
    -- Between the two hyphens there is nothing, so nothing is a segment there.
    rw [one, two, segments_append_hyphen, segments_append_hyphen, segments_append_hyphen]
    rfl

/-- Respelling keeps to ASCII and to the segments, however often it is done. -/
theorem steps (h : ReflTransGen Respelled d e) (ascii : Ascii d) :
    Ascii e ∧ segments (small e) = segments (small d) := by
  induction h with
  | refl => exact ⟨ascii, rfl⟩
  | tail _ step ih => exact ⟨step.ascii ih.1, (step.segments_eq ih.1).trans ih.2⟩

end Respelled

/-- ASCII descriptors with the same segments come to the same. -/
theorem alike_of_segments {d e : String} (hd : Ascii d) (he : Ascii e)
    (same : segments (small d) = segments (small e)) : Alike d e := by
  apply alike_of_tokens
  rw [tokens_eq hd, tokens_eq he, same]

/-- **Case and stray hyphens.** ASCII descriptors come to the same as soon as the same stands
between their hyphens, but for case and for what is empty. No token is empty or has a hyphen, and
joined tokens are the same tokens again. So whatever is done to the case of a descriptor, and
however many hyphens are put at its ends or beside its own, it comes to the same. -/
theorem respelling_is_idle :
    (∀ d e, Ascii d → Ascii e → segments (small d) = segments (small e) → Alike d e) ∧
    (∀ d, ∀ t ∈ tokens d, t ≠ "" ∧ '-' ∉ t.toList) ∧
    (∀ d, Ascii d → tokens (joined (tokens d)) = tokens d) ∧
    ∀ d e, Ascii d → ReflTransGen Respelled d e → Alike d e := by
  refine ⟨fun _ _ => alike_of_segments, ?_, ?_, ?_⟩
  · intro d t ht
    exact ⟨ne_empty_of_mem_tokens ht, hyphen_not_mem_of_mem_tokens ht⟩
  · intro d ascii
    exact tokens_joined fun t => piece_of_mem_tokens ascii
  · intro d e ascii respelled
    obtain ⟨ascii', same⟩ := Respelled.steps respelled ascii
    exact alike_of_segments ascii ascii' same.symm

/-- A tag that is rejected stays so, and one that is read is read in capitals and among hyphens too.
-/
theorem respelling_is_idle_tag :
    (Ascii "B+1--V9" ∧ Ascii "b+1-v9" ∧
      segments (small "B+1--V9") = segments (small "b+1-v9") ∧ Alike "B+1--V9" "b+1-v9") ∧
    ("b+1" ∈ tokens "B+1--V9" ∧ '-' ∉ "b+1".toList) ∧
    (Ascii "b+sr-v9" ∧ tokens (joined (tokens "b+sr-v9")) = tokens "b+sr-v9") ∧
    ReflTransGen Respelled "b+sr-v9" "-B+SR--V9" ∧ Alike "b+sr-v9" "-B+SR--V9" := by
  have rejected : Ascii "B+1--V9" ∧ Ascii "b+1-v9" := by decide
  have same : segments (small "B+1--V9") = segments (small "b+1-v9") := by decide
  have token : "b+1" ∈ tokens "B+1--V9" := by decide
  have read : Ascii "b+sr-v9" := by decide
  have capital : Respelled "b+sr-v9" "B+SR-V9" := .upper "b+sr-v9"
  have led : Respelled "B+SR-V9" "-B+SR-V9" := .leading "B+SR-V9"
  have twice : Respelled "-B+SR-V9" "-B+SR--V9" := .doubled "-B+SR" "V9"
  have respelled := ((ReflTransGen.single capital).tail led).tail twice
  refine ⟨⟨rejected.1, rejected.2, same, ?_⟩, ⟨token, ?_⟩, ⟨read, ?_⟩, respelled, ?_⟩
  · exact respelling_is_idle.1 _ _ rejected.1 rejected.2 same
  · exact (respelling_is_idle.2.1 _ _ token).2
  · exact respelling_is_idle.2.2.1 _ read
  · exact respelling_is_idle.2.2.2 _ _ read respelled

end DeviceQualifier.Descriptor
