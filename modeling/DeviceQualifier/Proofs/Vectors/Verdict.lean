import DeviceQualifier.Proofs.Config.Changes
import DeviceQualifier.Proofs.Wire.Describable
import DeviceQualifier.Vectors.Run
import Mathlib.Data.List.Forall2

/-!
The verdict on a vector. `Meets` states on the record what a vector asks for, without running it. A
run comes to one of four results, `Runnable.run_cases`, and each is compared with what was asked.
-/
namespace DeviceQualifier.Vectors

open Descriptor (decode)

/-- The values that count as false. -/
inductive Falsy : Value → Prop
  | null : Falsy .null
  | bool : Falsy (.bool false)
  | int : Falsy (.int 0)
  | real {negative : Bool} {size : Double.Size} (zero : size.count = 0) :
      Falsy (.real (.finite negative size))
  | text : Falsy (.text "")
  | list : Falsy (.list [])
  | object : Falsy (.object [])

/-- The descriptor, if there is one, is text, and the expectation is an object unless it counts as
false. -/
structure Runnable (vector : List (String × Value)) : Prop where
  descriptor : ∀ v, vector.lookup "descriptor" = some v → ∃ d, v = .text d
  expected : ∀ v, vector.lookup "expected" = some v → ¬Falsy v → ∃ fields, v = .object fields

/-- A vector without a descriptor stands for the empty one. -/
def descriptorOf (vector : List (String × Value)) : String :=
  match vector.lookup "descriptor" with
  | some (.text d) => d
  | _ => ""

def expectations (vector : List (String × Value)) : List (String × Value) :=
  match vector.lookup "expected" with
  | some (.object fields) => fields
  | _ => []

/-- The descriptor is to be decoded, unless the vector says otherwise. -/
def Wanted (vector : List (String × Value)) : Prop :=
  ∀ v, vector.lookup "valid" = some v → ¬Falsy v

/-- The text of a wire form, without its spaces and in upper case. -/
def wireText (v : Value) : String :=
  Text.upper (String.ofList (v.display.toList.filter fun c => c ≠ ' '))

/-- The record shows the expected value under its name. -/
def Met (r : Config) (e : String × Value) : Prop := ∃ d, r.Shows e.1 d ∧ d.Equals e.2

/-- The record holds what the vector expects and has the wire form that it gives. -/
structure Meets (r : Config) (vector : List (String × Value)) : Prop where
  fields : ∀ e ∈ expectations vector, Met r e
  wire : ∀ v, vector.lookup "wire" = some v → Wire.writeHex r = .ok (wireText v)

instance (r : Config) (e : String × Value) : Decidable (Met r e) :=
  decidable_of_iff ((r.read? e.1).any (·.agrees e.2) = true) <| by
    simp [Met, Option.any_eq_true, Config.read?_eq_some_iff, Datum.agrees_iff]

theorem truthy_iff {v : Value} : v.truthy = true ↔ ¬Falsy v := by
  constructor
  · intro truthy falsy
    cases falsy with
    | real zero => simp [Value.truthy, zero] at truthy
    | null | bool | int | text | list | object => cases truthy
  · intro h
    cases v with
    | null => exact absurd .null h
    | bool b =>
      cases b with
      | false => exact absurd .bool h
      | true => rfl
    | int n =>
      have filled : n ≠ 0 := by
        rintro rfl
        exact h .int
      simpa [Value.truthy] using filled
    | real d =>
      cases d with
      | finite negative size =>
        have filled : size.count ≠ 0 := fun zero => h (.real zero)
        simpa [Value.truthy] using filled
      | infinite | undefined => rfl
    | text s =>
      have filled : s ≠ "" := by
        rintro rfl
        exact h .text
      simpa [Value.truthy] using filled
    | list items =>
      cases items with
      | nil => exact absurd .list h
      | cons => rfl
    | object fields =>
      cases fields with
      | nil => exact absurd .object h
      | cons => rfl

/-- The problem with an expectation that is not met. -/
inductive Complaint (r : Config) : String × Value → Problem → Prop
  | unknown {name v} (h : ∀ d, ¬r.Shows name d) : Complaint r (name, v) (.unknownField name)
  | wrong {name v d} (h : r.Shows name d) (differs : ¬d.Equals v) :
      Complaint r (name, v) (.wrongValue name v d)

/-- The problem with a wire form that is not the one written. -/
def wireComplaint (hex : String) : Option Value → List Problem
  | none => []
  | some v => if wireText v = hex then [] else [.wrongWire (wireText v) hex]

def Readable (r : Config) (name : String) : Prop := ∃ d, r.Shows name d

instance (r : Config) (name : String) : Decidable (Readable r name) :=
  decidable_of_iff ((r.read? name).isSome = true) <| by
    simp [Readable, Option.isSome_iff_exists, Config.read?_eq_some_iff]

/-- The fields that are not as in the unspecified record, in record order. -/
def changed (r : Config) : List String :=
  (Field.all.filter fun f => r.field f ≠ Config.unspecified.field f).map Field.name

/-- The names that can be read and are not yet known, each at its first place. -/
def fresh (r : Config) (known names : List String) : List String :=
  (names.filter fun name => Readable r name ∧ name ∉ known).eraseDups

/-- What is reported of a record: its changed fields, then the expected names that can be read and
are not yet there, each with what the record shows. -/
structure Reported (r : Config) (expected : List String) (actual : List (String × Datum)) :
    Prop where
  names : actual.map Prod.fst = changed r ++ fresh r (changed r) expected
  data : ∀ e ∈ actual, r.Shows e.1 e.2

theorem compareFields_complaints (r : Config) (actual : List (String × Datum))
    (es : List (String × Value)) :
    List.Forall₂ (Complaint r) (es.filter fun e => ¬Met r e) (compareFields r actual es).2 := by
  induction es generalizing actual with
  | nil => exact .nil
  | cons e es ih =>
    obtain ⟨name, v⟩ := e
    unfold compareFields
    split
    · rename_i unread
      have unknown : ∀ d, ¬r.Shows name d := by
        intro d shown
        rw [Config.read?_eq_some_iff.mpr shown] at unread
        cases unread
      have failed : ¬Met r (name, v) := by
        rintro ⟨d, shown, -⟩
        exact unknown d shown
      rw [List.filter_cons_of_pos (by simpa using failed)]
      exact .cons (.unknown unknown) (ih actual)
    · rename_i d read
      have shown := Config.read?_eq_some_iff.mp read
      by_cases equal : d.Equals v
      · rw [List.filter_cons_of_neg (by simpa using ⟨d, shown, equal⟩)]
        simp only [Datum.agrees_iff.mpr equal, if_true]
        exact ih _
      · have failed : ¬Met r (name, v) := by
          rintro ⟨d', shown', equal'⟩
          rw [shown'.unique shown] at equal'
          exact equal equal'
        have agrees : d.agrees v ≠ true := fun h => equal (Datum.agrees_iff.mp h)
        rw [List.filter_cons_of_pos (by simpa using failed)]
        simp only [agrees]
        exact .cons (.wrong shown equal) (ih _)

theorem compareFields_eq_nil_iff {r : Config} {actual : List (String × Datum)}
    {es : List (String × Value)} :
    (compareFields r actual es).2 = [] ↔ ∀ e ∈ es, Met r e := by
  have found := (compareFields_complaints r actual es).length_eq
  rw [← List.length_eq_zero_iff, ← found, List.length_eq_zero_iff, List.filter_eq_nil_iff]
  simp

theorem wireComplaint_eq_nil_iff {hex : String} {wire : Option Value} :
    wireComplaint hex wire = [] ↔ ∀ v, wire = some v → hex = wireText v := by
  cases wire with
  | none => simp [wireComplaint]
  | some v => simp [wireComplaint, eq_comm]

section Fresh
variable {r : Config} {known names : List String} {name : String}

theorem fresh_cons_of_not (h : ¬(Readable r name ∧ name ∉ known)) :
    fresh r known (name :: names) = fresh r known names := by
  rw [fresh, List.filter_cons_of_neg (by simpa using h), fresh]

theorem fresh_cons (readable : Readable r name) (new : name ∉ known) :
    fresh r known (name :: names) = name :: fresh r (known ++ [name]) names := by
  rw [fresh, List.filter_cons_of_pos (by simp [readable, new]), List.eraseDups_cons,
    List.filter_filter, fresh]
  congr 2
  apply List.filter_congr
  intro other _
  by_cases he : other = name
  · simp [he]
  · simp [he]

end Fresh

/-- Names are gathered behind those already there. -/
theorem compareFields_actual (r : Config) {actual : List (String × Datum)}
    (shown : ∀ e ∈ actual, r.Shows e.1 e.2) (es : List (String × Value)) :
    (compareFields r actual es).1.map Prod.fst =
        actual.map Prod.fst ++ fresh r (actual.map Prod.fst) (es.map Prod.fst) ∧
      ∀ e ∈ (compareFields r actual es).1, r.Shows e.1 e.2 := by
  induction es generalizing actual with
  | nil => exact ⟨(List.append_nil _).symm, shown⟩
  | cons e es ih =>
    obtain ⟨name, v⟩ := e
    unfold compareFields
    rw [List.map_cons]
    split
    · rename_i unread
      have unreadable : ¬Readable r name := by
        rintro ⟨d, h⟩
        rw [Config.read?_eq_some_iff.mpr h] at unread
        cases unread
      rw [fresh_cons_of_not fun h => unreadable h.1]
      exact ih shown
    · rename_i d read
      have here := Config.read?_eq_some_iff.mp read
      by_cases there : name ∈ actual.map Prod.fst
      · have kept : addMissing actual name d = actual := by
          obtain ⟨e, he, hn⟩ := List.mem_map.mp there
          exact if_pos (List.any_eq_true.mpr ⟨e, he, by simp [hn]⟩)
        rw [fresh_cons_of_not fun h => h.2 there]
        simp only [kept]
        exact ih shown
      · have added : addMissing actual name d = actual ++ [(name, d)] := by
          refine if_neg fun h => ?_
          obtain ⟨e, he, hn⟩ := List.any_eq_true.mp h
          exact there (List.mem_map.mpr ⟨e, he, by simpa using hn⟩)
        have all : ∀ e ∈ actual ++ [(name, d)], r.Shows e.1 e.2 := by
          intro e he
          rcases List.mem_append.mp he with he | he
          · exact shown e he
          · cases List.mem_singleton.mp he
            exact here
        obtain ⟨names, data⟩ := ih all
        simp only [added]
        refine ⟨?_, data⟩
        rw [names, fresh_cons ⟨d, here⟩ there, List.map_append, List.append_assoc]
        rfl

theorem map_fst_changedNames (r : Config) : (changedNames r).map Prod.fst = changed r := by
  rw [changedNames, Config.map_name_changes, List.map_map]
  rfl

theorem shows_changedNames (r : Config) : ∀ e ∈ changedNames r, r.Shows e.1 e.2 := by
  intro e he
  rw [changedNames, Config.map_name_changes] at he
  obtain ⟨f, -, rfl⟩ := List.mem_map.mp he
  exact .field f

/-- The result of a vector with what is known of the record and the problems found. -/
def resultOf (vector : List (String × Value)) (passed : Bool) (actual : List (String × Datum))
    (errors : List Problem) : TestResult where
  name := (vector.lookup "name").getD (.text "unnamed")
  passed
  descriptor := descriptorOf vector
  description := (vector.lookup "description").getD (.text "")
  expected := .object (expectations vector)
  actual
  errors

/-- The result of a decoded record, its fields and its wire form compared. -/
def comparedResult (vector : List (String × Value)) (r : Config) (hex : String) : TestResult :=
  let (actual, problems) := compareFields r (changedNames r) (expectations vector)
  let errors := problems ++ wireComplaint hex (vector.lookup "wire")
  resultOf vector errors.isEmpty actual errors

theorem wanted_iff {vector : List (String × Value)} :
    ((vector.lookup "valid").map Value.truthy).getD true = true ↔ Wanted vector := by
  unfold Wanted
  cases vector.lookup "valid" <;> simp [truthy_iff]

instance (vector : List (String × Value)) : Decidable (Wanted vector) :=
  decidable_of_iff _ wanted_iff

section Runs
variable {vector : List (String × Value)} (h : Runnable vector)
include h

theorem Runnable.descriptor_eq :
    (vector.lookup "descriptor").getD (.text "") = .text (descriptorOf vector) := by
  unfold descriptorOf
  cases hv : vector.lookup "descriptor" with
  | none => rfl
  | some v =>
    obtain ⟨d, rfl⟩ := h.descriptor v hv
    rfl

theorem Runnable.expected_eq :
    (match vector.lookup "expected" with
      | some v => if v.truthy then v else .object []
      | none => .object []) = Value.object (expectations vector) := by
  unfold expectations
  cases hv : vector.lookup "expected" with
  | none => rfl
  | some v =>
    by_cases ht : v.truthy = true
    · obtain ⟨fields, rfl⟩ := h.expected v hv (truthy_iff.mp ht)
      exact if_pos ht
    · simp only [if_neg ht]
      cases v with
      | object fields =>
        obtain rfl : fields = [] := by simpa [Value.truthy] using ht
        rfl
      | null | bool | int | real | text | list => rfl

/-- The run with its defaults filled in. -/
theorem Runnable.runVector_eq :
    runVector vector =
      match decode (descriptorOf vector) with
      | .error (.fault f) => .error (.fault f)
      | .error (.rejected e) =>
        .ok (if Wanted vector then resultOf vector false [] [.decodeFailed e]
          else resultOf vector true [] [])
      | .ok r =>
        if Wanted vector then
          (judge r (.object (expectations vector)) (vector.lookup "wire")).map
            fun (actual, errors) => resultOf vector errors.isEmpty actual errors
        else .ok (resultOf vector false (changedNames r) [.notRejected]) := by
  unfold runVector resultOf
  simp only [h.descriptor_eq, ← wanted_iff]
  exact h.expected_eq ▸ rfl

end Runs

section Decoded
variable {d : String} {r : Config} (hd : decode d = .ok r)
include hd

theorem exists_judge (es : List (String × Value)) (wire : Option Value) :
    ∃ hex, Wire.writeHex r = .ok hex ∧
      judge r (.object es) wire =
        .ok ((compareFields r (changedNames r) es).1,
          (compareFields r (changedNames r) es).2 ++ wireComplaint hex wire) := by
  obtain ⟨hex, hw⟩ := Wire.exists_writeHex (Descriptor.describable_of_decode hd)
  have compared : compareWire r wire = .ok (wireComplaint hex wire) := by
    cases wire with
    | none => rfl
    | some v =>
      have same : wireDigits v = wireText v := by simp [wireDigits, wireText, bne, beq_eq_decide]
      simp only [compareWire, hw, wireComplaint, same]
  refine ⟨hex, hw, ?_⟩
  unfold judge
  rw [compared]
  rfl

end Decoded

/-- What a run says of a vector. -/
structure Verdict (vector : List (String × Value)) (t : TestResult) : Prop where
  passed : t.passed = true ↔ t.errors = []
  /-- The expectations and the wire form do not count here. -/
  unwanted : ¬Wanted vector →
    (t.passed = true ↔ ∃ e, decode (descriptorOf vector) = .error (.rejected e))
  wanted : Wanted vector →
    (t.passed = true ↔ ∃ r, decode (descriptorOf vector) = .ok r ∧ Meets r vector)
  /-- One problem for every expectation that is not met, in order, and one for the wire form. -/
  found : Wanted vector → ∀ r, decode (descriptorOf vector) = .ok r →
    ∃ hex problems, Wire.writeHex r = .ok hex ∧
      List.Forall₂ (Complaint r) ((expectations vector).filter fun e => ¬Met r e) problems ∧
      t.errors = problems ++ wireComplaint hex (vector.lookup "wire")
  reported : Wanted vector → ∀ r, decode (descriptorOf vector) = .ok r →
    Reported r ((expectations vector).map Prod.fst) t.actual

section Verdicts
variable {vector : List (String × Value)}

theorem verdict_failed {e : Descriptor.DecodeError}
    (hd : decode (descriptorOf vector) = .error (.rejected e)) (hw : Wanted vector) :
    Verdict vector (resultOf vector false [] [.decodeFailed e]) where
  passed := by simp [resultOf]
  unwanted h := absurd hw h
  wanted _ := by
    refine ⟨nofun, ?_⟩
    rintro ⟨r, hr, -⟩
    cases hd.symm.trans hr
  found _ r hr := by cases hd.symm.trans hr
  reported _ r hr := by cases hd.symm.trans hr

theorem verdict_rejected {e : Descriptor.DecodeError}
    (hd : decode (descriptorOf vector) = .error (.rejected e)) (hw : ¬Wanted vector) :
    Verdict vector (resultOf vector true [] []) where
  passed := by simp [resultOf]
  unwanted _ := by
    refine ⟨fun _ => ⟨e, hd⟩, fun _ => ?_⟩
    rfl
  wanted h := absurd h hw
  found h := absurd h hw
  reported h := absurd h hw

theorem verdict_unwanted {r : Config} (hd : decode (descriptorOf vector) = .ok r)
    (hw : ¬Wanted vector) :
    Verdict vector (resultOf vector false (changedNames r) [.notRejected]) where
  passed := by simp [resultOf]
  unwanted _ := by
    refine ⟨nofun, ?_⟩
    rintro ⟨e, he⟩
    cases hd.symm.trans he
  wanted h := absurd h hw
  found h := absurd h hw
  reported h := absurd h hw

theorem verdict_judged {r : Config} {hex : String} (hd : decode (descriptorOf vector) = .ok r)
    (hw : Wanted vector) (written : Wire.writeHex r = .ok hex) :
    Verdict vector (comparedResult vector r hex) where
  passed := List.isEmpty_iff
  unwanted h := absurd hw h
  wanted _ := by
    refine List.isEmpty_iff.trans ?_
    rw [List.append_eq_nil_iff, compareFields_eq_nil_iff, wireComplaint_eq_nil_iff]
    constructor
    · rintro ⟨fields, wire⟩
      refine ⟨r, hd, fields, fun v hv => ?_⟩
      rw [written, wire v hv]
    · rintro ⟨r', hr, meets⟩
      obtain rfl : r = r' := Except.ok.inj (hd.symm.trans hr)
      refine ⟨meets.fields, fun v hv => ?_⟩
      exact Except.ok.inj (written.symm.trans (meets.wire v hv))
  found _ r' hr := by
    obtain rfl : r = r' := Except.ok.inj (hd.symm.trans hr)
    exact ⟨hex, _, written, compareFields_complaints r _ _, rfl⟩
  reported _ r' hr := by
    obtain rfl : r = r' := Except.ok.inj (hd.symm.trans hr)
    obtain ⟨names, data⟩ := compareFields_actual r (shows_changedNames r) (expectations vector)
    rw [map_fst_changedNames] at names
    exact ⟨names, data⟩

/-- What a run can come to. -/
theorem Runnable.run_cases (h : Runnable vector) :
    (∃ e, decode (descriptorOf vector) = .error (.rejected e) ∧ Wanted vector ∧
      runVector vector = .ok (resultOf vector false [] [.decodeFailed e])) ∨
    (∃ e, decode (descriptorOf vector) = .error (.rejected e) ∧ ¬Wanted vector ∧
      runVector vector = .ok (resultOf vector true [] [])) ∨
    (∃ r, decode (descriptorOf vector) = .ok r ∧ ¬Wanted vector ∧
      runVector vector = .ok (resultOf vector false (changedNames r) [.notRejected])) ∨
    ∃ r hex, decode (descriptorOf vector) = .ok r ∧ Wanted vector ∧ Wire.writeHex r = .ok hex ∧
      runVector vector = .ok (comparedResult vector r hex) := by
  rw [h.runVector_eq]
  by_cases decoded : ∃ r, decode (descriptorOf vector) = .ok r
  · obtain ⟨r, hd⟩ := decoded
    rw [hd]
    by_cases hw : Wanted vector
    · obtain ⟨hex, written, hj⟩ := exists_judge hd (expectations vector) (vector.lookup "wire")
      simp only [if_pos hw, hj]
      exact .inr (.inr (.inr ⟨r, hex, rfl, hw, written, rfl⟩))
    · simp only [if_neg hw]
      exact .inr (.inr (.inl ⟨r, rfl, hw, rfl⟩))
  · obtain ⟨e, hd⟩ := Descriptor.rejected_of_not_ok decoded
    rw [hd]
    by_cases hw : Wanted vector
    · simp only [if_pos hw]
      exact .inl ⟨e, rfl, hw, rfl⟩
    · simp only [if_neg hw]
      exact .inr (.inl ⟨e, rfl, hw, trivial⟩)

theorem Runnable.exists_run (h : Runnable vector) : ∃ t, runVector vector = .ok t := by
  rcases h.run_cases with ⟨e, -, -, run⟩ | ⟨e, -, -, run⟩ | ⟨r, -, -, run⟩ | ⟨r, hex, -, -, -, run⟩
  · exact ⟨_, run⟩
  · exact ⟨_, run⟩
  · exact ⟨_, run⟩
  · exact ⟨_, run⟩

/-- Every vector that can be run gets a result, and it passes exactly when it should. -/
theorem runVector_verdict (h : Runnable vector) :
    ∃ t, runVector vector = .ok t ∧ Verdict vector t := by
  rcases h.run_cases with ⟨e, rejected, hw, run⟩ | ⟨e, rejected, hw, run⟩ | ⟨r, decoded, hw, run⟩ |
    ⟨r, hex, decoded, hw, written, run⟩
  · exact ⟨_, run, verdict_failed rejected hw⟩
  · exact ⟨_, run, verdict_rejected rejected hw⟩
  · exact ⟨_, run, verdict_unwanted decoded hw⟩
  · exact ⟨_, run, verdict_judged decoded hw written⟩

theorem runnable_of_lookup {d : String} (descriptor : vector.lookup "descriptor" = some (.text d))
    (expected : (vector.lookup "expected").all Value.isObject = true) : Runnable vector where
  descriptor v hv := ⟨d, Option.some.inj (hv.symm.trans descriptor)⟩
  expected v hv _ := by
    rw [hv] at expected
    cases v with
    | object fields => exact ⟨fields, rfl⟩
    | null | bool | int | real | text | list => cases expected

/-- A view in place, a region that is another one, and a name that the record does not know; a wire
form in small letters, with spaces; and a descriptor that is out of order and is meant to be. -/
theorem runVector_verdict_mixed :
    let mixed := [("descriptor", .text "en-rUS-ldrtl"),
      ("expected", .object
        [("layout_direction", .int 0x80), ("region", .text "GB"), ("dialect", .null)])]
    let wired := [("descriptor", .text "mcc310-en"),
      ("wire", .text ("40000000 36010000 656e0000" ++ String.join (List.replicate 13 " 00000000")))]
    let refused := [("descriptor", .text "ldrtl-en"), ("valid", .bool false), ("wire", .text "00")]
    (Runnable mixed ∧ ∃ t, runVector mixed = .ok t ∧ Verdict mixed t ∧ t.passed = false ∧
      t.errors.map Problem.message =
        ["region: expected 'GB', got 'US'", "Unknown field: 'dialect'"] ∧
      t.actual.map Prod.fst = ["language", "region", "screen_layout", "layout_direction"]) ∧
    (Runnable wired ∧ ∃ t, runVector wired = .ok t ∧ Verdict wired t ∧ t.passed = true) ∧
    Runnable refused ∧ ∃ t, runVector refused = .ok t ∧ Verdict refused t ∧ t.passed = true := by
  intro mixed wired refused
  have runnable : Runnable mixed ∧ Runnable wired ∧ Runnable refused :=
    ⟨runnable_of_lookup rfl rfl, runnable_of_lookup rfl rfl, runnable_of_lookup rfl rfl⟩
  obtain ⟨first, second, third⟩ := runnable
  have known : (runVector mixed).toOption.map
      (fun t => (t.passed, t.errors.map Problem.message, t.actual.map Prod.fst)) =
        some (false, ["region: expected 'GB', got 'US'", "Unknown field: 'dialect'"],
          ["language", "region", "screen_layout", "layout_direction"]) := by
    decide +kernel
  have passes : (runVector wired).toOption.map TestResult.passed = some true ∧
      (runVector refused).toOption.map TestResult.passed = some true := by
    decide +kernel
  obtain ⟨t, run, verdict⟩ := runVector_verdict first
  obtain ⟨u, run', verdict'⟩ := runVector_verdict second
  obtain ⟨v, run'', verdict''⟩ := runVector_verdict third
  rw [run] at known
  rw [run', run''] at passes
  exact ⟨⟨first, t, run, verdict, by simpa [Except.toOption] using known⟩,
    ⟨second, u, run', verdict', Option.some.inj passes.1⟩,
    third, v, run'', verdict'', Option.some.inj passes.2⟩

end Verdicts

end DeviceQualifier.Vectors
