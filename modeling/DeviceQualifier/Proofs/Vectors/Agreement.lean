import DeviceQualifier.Command.Validate
import DeviceQualifier.Proofs.Value.ReadBack
import DeviceQualifier.Proofs.Vectors.Condition
import DeviceQualifier.Proofs.Vectors.Report
import DeviceQualifier.Proofs.Vectors.Verdict

/-!
Validation of whole documents. A document without flaws holds nothing but vectors that can be run,
`exists_vectors`, so every validation comes to an end; the command then says the same in its exit
status, its report and its printed document.
-/
namespace DeviceQualifier.Vectors

/-- The validation of a document with flaws: no vector is run. -/
structure Refused (doc : Value) (v : ValidationResult) : Prop where
  invalid : v.fileValid = false
  flaws : v.flaws = flaws doc
  unrun : v.results = []
  failed : v.allPassed = false

/-- The validation of a document without flaws: each of its vectors is run, in order. -/
structure Completed (doc : Value) (v : ValidationResult) : Prop where
  valid : v.fileValid = true
  results : ∃ vectors, doc.field? "test_vectors" = some (.list (vectors.map .object)) ∧
    List.Forall₂ (fun vector t => runVector vector = .ok t) vectors v.results ∧
    v.total = vectors.length
  counts : v.passedCount + v.failedCount = v.total
  all : v.allPassed = true ↔ ∀ t ∈ v.results, t.passed = true

/-- The conditions on a vector leave only what can be run. -/
theorem Sound.runnable {v : Value} (h : Sound v) :
    ∃ vector, v = .object vector ∧ Runnable vector := by
  obtain ⟨vector, rfl, met⟩ := h
  refine ⟨vector, rfl, ?_, ?_⟩
  · intro v hv
    obtain ⟨d, hd⟩ := met .descriptor
    cases hd.symm.trans hv
    exact ⟨d, rfl⟩
  · intro v hv _
    exact met .expected v hv

theorem exists_runnable {vs : List Value} (h : ∀ v ∈ vs, Sound v) :
    ∃ vectors : List (List (String × Value)),
      vs = vectors.map .object ∧ ∀ vector ∈ vectors, Runnable vector := by
  induction vs with
  | nil => exact ⟨[], rfl, nofun⟩
  | cons v vs ih =>
    obtain ⟨first, others⟩ := List.forall_mem_cons.mp h
    obtain ⟨vector, rfl, runnable⟩ := first.runnable
    obtain ⟨vectors, rfl, all⟩ := ih others
    exact ⟨vector :: vectors, rfl, List.forall_mem_cons.mpr ⟨runnable, all⟩⟩

theorem exists_vectors {doc : Value} (h : flaws doc = []) :
    ∃ vectors, doc.field? "test_vectors" = some (.list (vectors.map .object)) ∧
      vectorsOf doc = vectors ∧ ∀ vector ∈ vectors, Runnable vector := by
  obtain ⟨vs, found⟩ := exists_list_of_flawless h
  rw [flaws_of_list found] at h
  obtain ⟨vectors, rfl, all⟩ := exists_runnable (flawsFrom_eq_nil_iff.mp h)
  refine ⟨vectors, found, ?_, all⟩
  rw [vectorsOf, found]
  simp [List.filterMap_map]

/-- A traversal comes to an end if each of its steps does. -/
theorem exists_mapM {ε α β : Type} {f : α → Except ε β} {R : α → β → Prop} {xs : List α}
    (h : ∀ x ∈ xs, ∃ y, f x = .ok y ∧ R x y) : ∃ ys, xs.mapM f = .ok ys ∧ List.Forall₂ R xs ys := by
  induction xs with
  | nil => exact ⟨[], rfl, .nil⟩
  | cons x xs ih =>
    obtain ⟨first, others⟩ := List.forall_mem_cons.mp h
    obtain ⟨y, hy, here⟩ := first
    obtain ⟨ys, run, each⟩ := ih others
    refine ⟨y :: ys, ?_, .cons here each⟩
    rw [List.mapM_cons, hy, run]
    rfl

theorem exists_runs {vectors : List (List (String × Value))}
    (runnable : ∀ vector ∈ vectors, Runnable vector) :
    ∃ results, vectors.mapM runVector = .ok results ∧
      List.Forall₂ (fun vector t => runVector vector = .ok t) vectors results := by
  apply exists_mapM
  intro vector hv
  obtain ⟨t, ht⟩ := (runnable vector hv).exists_run
  exact ⟨t, ht, ht⟩

theorem validate_flawed {doc : Value} (h : flaws doc ≠ []) :
    ∃ v, validate doc = .ok v ∧ Refused doc v := by
  have invalid : (flaws doc).isEmpty = false := by simpa using h
  refine ⟨⟨flaws doc, []⟩, ?_, invalid, rfl, rfl, ?_⟩
  · rw [validate, invalid]
    rfl
  · rw [ValidationResult.allPassed, ValidationResult.fileValid, invalid]
    rfl

theorem validate_flawless {doc : Value} (h : flaws doc = []) :
    ∃ v, validate doc = .ok v ∧ Completed doc v := by
  obtain ⟨vectors, field, known, runnable⟩ := exists_vectors h
  obtain ⟨results, runs, each⟩ := exists_runs runnable
  refine ⟨⟨[], results⟩, ?_, rfl, ⟨vectors, field, each, each.length_eq.symm⟩, ?_, ?_⟩
  · rw [validate, h, known, runs]
    rfl
  · rw [ValidationResult.total, List.length_eq_countP_add_countP TestResult.passed]
    simp [ValidationResult.passedCount, ValidationResult.failedCount]
  · simp [ValidationResult.allPassed, ValidationResult.fileValid, ValidationResult.failedCount]

/-- What the command leaves behind for a validation. -/
def outcome (path : Command.Validate.Path) (verbose json : Bool) (v : ValidationResult) :
    Command.Outcome where
  exit := if v.allPassed then 0 else 1
  stdout :=
    if json then v.toValue.pretty ++ "\n"
    else ended ["Validating: " ++ path.text, rule '='] ++ v.report verbose
  stderr := ""

theorem run_eq {doc : Value} {v : ValidationResult} (h : validate doc = .ok v)
    (path : Command.Validate.Path) (verbose json : Bool) :
    Command.Validate.run path verbose json (.ok doc) = .ok (outcome path verbose json v) := by
  unfold Command.Validate.run
  simp only [h]
  cases json <;> rfl

theorem field?_all_passed (v : ValidationResult) :
    v.toValue.merged.field? "all_passed" = some (.bool v.allPassed) := by
  have distinct : ["file_valid", "file_errors", "tests_passed", "tests_failed", "total_tests",
      "all_passed", "test_results"].Nodup := by decide
  rw [ValidationResult.toValue, Value.merged_object]
  · rfl
  · exact distinct

theorem exists_validate (doc : Value) :
    ∃ v, validate doc = .ok v ∧ (flaws doc ≠ [] → Refused doc v) ∧
      (flaws doc = [] → Completed doc v) := by
  by_cases h : flaws doc = []
  · obtain ⟨v, hv, completed⟩ := validate_flawless h
    exact ⟨v, hv, fun flawed => absurd h flawed, fun _ => completed⟩
  · obtain ⟨v, hv, refused⟩ := validate_flawed h
    exact ⟨v, hv, fun _ => refused, fun flawless => absurd flawless h⟩

end DeviceQualifier.Vectors
