import DeviceQualifier.Vectors.Structure
import Mathlib.Data.List.Forall2

/-!
The conditions on a vector, each stated by itself. The check of a vector reports one flaw for every
condition that is violated, `told_vectorFlaws`, and the check of a document goes through its vectors
one by one, `flawsFrom_eq`.
-/
namespace DeviceQualifier.Vectors

/-- What is asked of a vector. -/
inductive Condition where
  | name | descriptor | valid | expected | agreement
  deriving DecidableEq, Repr

namespace Condition

/-- The order in which violations are reported. -/
def all : List Condition := [name, descriptor, valid, expected, agreement]

/-- A name and a descriptor have to be there, and what is there has to be of its kind. A vector that
is to be rejected has nothing to expect. -/
def Met (vector : List (String × Value)) : Condition → Prop
  | name => ∃ v, vector.lookup "name" = some v
  | descriptor => ∃ d, vector.lookup "descriptor" = some (.text d)
  | valid => ∀ v, vector.lookup "valid" = some v → ∃ b, v = .bool b
  | expected => ∀ v, vector.lookup "expected" = some v → ∃ fields, v = .object fields
  | agreement => vector.lookup "valid" = some (.bool false) →
      vector.lookup "expected" = none ∧ vector.lookup "wire" = none

theorem mem_all (c : Condition) : c ∈ all := by
  cases c <;> decide

end Condition

/-- A vector that meets every condition. -/
def Sound (v : Value) : Prop := ∃ vector, v = .object vector ∧ ∀ c : Condition, c.Met vector

/-- The name of a vector in its flaws. -/
def label (vector : List (String × Value)) : String :=
  ((vector.lookup "name").map Value.display).getD "?"

/-- The flaw that tells of a violated condition, with the place and the name of the vector. -/
inductive Reports (index : Nat) (vector : List (String × Value)) : Condition → Flaw → Prop
  | noName : Reports index vector .name (.noName index)
  | noDescriptor (h : vector.lookup "descriptor" = none) :
      Reports index vector .descriptor (.noDescriptor index (label vector))
  | descriptorNotText {v} (h : vector.lookup "descriptor" = some v) :
      Reports index vector .descriptor (.descriptorNotText index (label vector))
  | validNotBool : Reports index vector .valid (.validNotBool index (label vector))
  | expectedNotObject : Reports index vector .expected (.expectedNotObject index (label vector))
  | expectsOfInvalid : Reports index vector .agreement (.expectsOfInvalid index (label vector))

theorem isText_iff {v : Value} : v.isText = true ↔ ∃ s, v = .text s := by
  cases v <;> simp [Value.isText]

theorem isBool_iff {v : Value} : v.isBool = true ↔ ∃ b, v = .bool b := by
  cases v <;> simp [Value.isBool]

theorem isObject_iff {v : Value} : v.isObject = true ↔ ∃ fields, v = .object fields := by
  cases v <;> simp [Value.isObject]

theorem isFalse_iff {v : Value} : isFalse v = true ↔ v = .bool false := by
  cases v with
  | bool b => cases b <;> simp [isFalse]
  | null | int | real | text | list | object => simp [isFalse]

namespace Condition
variable {vector : List (String × Value)}

theorem met_name : name.Met vector ↔ (vector.lookup "name").isNone = false := by
  rw [Met]
  cases vector.lookup "name" <;> simp

theorem met_descriptor : descriptor.Met vector ↔ (vector.lookup "descriptor").isNone = false ∧
    (vector.lookup "descriptor").any (!·.isText) = false := by
  rw [Met]
  cases vector.lookup "descriptor" <;> simp [isText_iff]

theorem met_valid : valid.Met vector ↔ (vector.lookup "valid").any (!·.isBool) = false := by
  rw [Met]
  cases vector.lookup "valid" <;> simp [isBool_iff]

theorem met_expected :
    expected.Met vector ↔ (vector.lookup "expected").any (!·.isObject) = false := by
  rw [Met]
  cases vector.lookup "expected" <;> simp [isObject_iff]

theorem met_agreement : agreement.Met vector ↔ ((vector.lookup "valid").any isFalse &&
    ((vector.lookup "expected").isSome || (vector.lookup "wire").isSome)) = false := by
  rw [Met]
  cases vector.lookup "valid" with
  | none => simp
  | some v =>
    have known := @isFalse_iff v
    by_cases h : v = .bool false
    · simp [h, isFalse]
    · have other : isFalse v = false := by simpa [h] using known
      simp [h, other]

instance (vector : List (String × Value)) : (c : Condition) → Decidable (c.Met vector)
  | name => decidable_of_iff _ met_name.symm
  | descriptor => decidable_of_iff _ met_descriptor.symm
  | valid => decidable_of_iff _ met_valid.symm
  | expected => decidable_of_iff _ met_expected.symm
  | agreement => decidable_of_iff _ met_agreement.symm

end Condition

/-- One flaw for each of the conditions that is violated, in order. -/
def Told (index : Nat) (vector : List (String × Value)) (cs : List Condition)
    (flaws : List Flaw) : Prop :=
  List.Forall₂ (Reports index vector) (cs.filter fun c => ¬c.Met vector) flaws

section
variable {index : Nat} {vector : List (String × Value)} {cs ds : List Condition}
  {flaws more : List Flaw}

theorem Told.append (h : Told index vector cs flaws) (h' : Told index vector ds more) :
    Told index vector (cs ++ ds) (flaws ++ more) := by
  rw [Told, List.filter_append]
  exact List.rel_append h h'

/-- Nothing is told just if nothing is violated. -/
theorem Told.eq_nil_iff (h : Told index vector cs flaws) :
    flaws = [] ↔ ∀ c ∈ cs, c.Met vector := by
  have lengths := h.length_eq
  rw [← List.length_eq_zero_iff, ← lengths, List.length_eq_zero_iff, List.filter_eq_nil_iff]
  simp

theorem told_flawIf {c : Condition} {flaw : Flaw} {test : Bool}
    (met : c.Met vector ↔ test = false) (reports : Reports index vector c flaw) :
    Told index vector [c] (flawIf test flaw) := by
  cases test with
  | true => simpa [Told, flawIf, met] using reports
  | false => simp [Told, flawIf, met]

/-- The two flaws of a descriptor exclude each other. -/
theorem told_descriptor (index : Nat) (vector : List (String × Value)) :
    Told index vector [.descriptor]
      (flawIf (vector.lookup "descriptor").isNone (.noDescriptor index (label vector)) ++
        flawIf ((vector.lookup "descriptor").any (!·.isText))
          (.descriptorNotText index (label vector))) := by
  cases h : vector.lookup "descriptor" with
  | none =>
    have missing : ¬Condition.descriptor.Met vector := by simp [Condition.Met, h]
    simpa [Told, flawIf, missing] using Reports.noDescriptor h
  | some v =>
    have met : Condition.descriptor.Met vector ↔ (!v.isText) = false := by
      simp [Condition.met_descriptor, h]
    exact told_flawIf met (.descriptorNotText h)

theorem told_vectorFlaws (index : Nat) (vector : List (String × Value)) :
    Told index vector Condition.all (vectorFlaws index (.object vector)) := by
  have named := @told_flawIf index vector _ _ _ Condition.met_name .noName
  have described := told_descriptor index vector
  have flagged := @told_flawIf index vector _ _ _ Condition.met_valid .validNotBool
  have expecting := @told_flawIf index vector _ _ _ Condition.met_expected .expectedNotObject
  have agreeing := @told_flawIf index vector _ _ _ Condition.met_agreement .expectsOfInvalid
  have told := (((named.append described).append flagged).append expecting).append agreeing
  rw [← List.append_assoc] at told
  exact told

/-- A vector without flaws meets every condition. -/
theorem vectorFlaws_eq_nil_iff {v : Value} : vectorFlaws index v = [] ↔ Sound v := by
  cases v with
  | object vector =>
    rw [(told_vectorFlaws index vector).eq_nil_iff]
    simp [Sound, Condition.mem_all]
  | null | bool | int | real | text | list => simp [Sound, vectorFlaws]

end

/-- The vectors are gone through in order, each with its place. -/
theorem flawsFrom_eq (index : Nat) (vs : List Value) :
    flawsFrom index vs = (vs.mapIdx fun i v => vectorFlaws (index + i) v).flatten := by
  induction vs generalizing index with
  | nil => rfl
  | cons v vs ih =>
    have shifted : (fun i v => vectorFlaws (index + 1 + i) v) =
        fun i v => vectorFlaws (index + (i + 1)) v := by
      funext i v
      rw [Nat.add_right_comm, Nat.add_assoc]
    rw [flawsFrom, ih, shifted, List.mapIdx_cons, List.flatten_cons, Nat.add_zero]

theorem flawsFrom_eq_nil_iff {index : Nat} {vs : List Value} :
    flawsFrom index vs = [] ↔ ∀ v ∈ vs, Sound v := by
  induction vs generalizing index with
  | nil => simp [flawsFrom]
  | cons v vs ih =>
    rw [flawsFrom, List.append_eq_nil_iff, vectorFlaws_eq_nil_iff, ih, List.forall_mem_cons]

theorem flaws_of_list {doc : Value} {vs : List Value}
    (h : doc.field? "test_vectors" = some (.list vs)) : flaws doc = flawsFrom 0 vs := by
  cases doc with
  | object fields =>
    have found : fields.lookup "test_vectors" = some (.list vs) := h
    rw [flaws, found]
  | null | bool | int | real | text | list => cases h

theorem exists_list_of_flawless {doc : Value} (h : flaws doc = []) :
    ∃ vs, doc.field? "test_vectors" = some (.list vs) := by
  cases doc with
  | object fields =>
    cases found : fields.lookup "test_vectors" with
    | none =>
      rw [flaws, found] at h
      cases h
    | some v =>
      rw [flaws, found] at h
      cases v with
      | list vs => exact ⟨vs, found⟩
      | null | bool | int | real | text | object => cases h
  | null | bool | int | real | text | list => cases h

/-- **The flaws of a document.** There are none if and only if it is an object with a list of
vectors that meet every condition. The flaws of the vectors are put together in order. Those of a
vector depend on it and its place alone: one for every condition that it violates, and a single one
if it is no object. -/
theorem flaws_of_document (doc : Value) :
    (flaws doc = [] ↔
        ∃ vs, doc.field? "test_vectors" = some (.list vs) ∧ ∀ v ∈ vs, Sound v) ∧
      (∀ vs, doc.field? "test_vectors" = some (.list vs) →
        flaws doc = (vs.mapIdx vectorFlaws).flatten) ∧
      ∀ index v,
        (vectorFlaws index v = [] ↔ Sound v) ∧
        (∀ vector, v = .object vector → Told index vector Condition.all (vectorFlaws index v)) ∧
        ((∀ vector, v ≠ .object vector) → vectorFlaws index v = [.notObject index]) := by
  refine ⟨⟨?_, ?_⟩, ?_, ?_⟩
  · intro none
    obtain ⟨vs, found⟩ := exists_list_of_flawless none
    rw [flaws_of_list found] at none
    exact ⟨vs, found, flawsFrom_eq_nil_iff.mp none⟩
  · rintro ⟨vs, found, sound⟩
    rw [flaws_of_list found]
    exact flawsFrom_eq_nil_iff.mpr sound
  · intro vs found
    rw [flaws_of_list found, flawsFrom_eq]
    simp only [Nat.zero_add]
  · intro index v
    refine ⟨vectorFlaws_eq_nil_iff, ?_, ?_⟩
    · rintro vector rfl
      exact told_vectorFlaws index vector
    · intro other
      cases v with
      | object vector => exact absurd rfl (other vector)
      | null | bool | int | real | text | list => rfl

/-- A sound vector, a number in the place of one, and a vector that violates four conditions. -/
theorem flaws_of_mixed_document :
    let vectors := [
      Value.object [("name", .text "plain"), ("descriptor", .text "en")],
      .int 7,
      .object [("descriptor", .int 21), ("valid", .bool false), ("expected", .null)]]
    flaws (.object [("test_vectors", .list vectors)]) = (vectors.mapIdx vectorFlaws).flatten ∧
      (flaws (.object [("test_vectors", .list vectors)])).map Flaw.message = [
        "Test vector 1: must be an object",
        "Test vector 2: missing 'name'",
        "Test vector 2 (?): 'descriptor' must be a string",
        "Test vector 2 (?): 'expected' must be an object",
        "Test vector 2 (?): invalid descriptor cannot have 'expected' or 'wire'"] := by
  intro vectors
  obtain ⟨-, together, -⟩ := flaws_of_document (.object [("test_vectors", .list vectors)])
  exact ⟨together vectors rfl, by decide⟩

end DeviceQualifier.Vectors
