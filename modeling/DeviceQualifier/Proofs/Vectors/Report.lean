import DeviceQualifier.Vectors.Report

/-!
How a report begins and ends. The last three characters of its last line tell the endings apart:
flaws and verdicts do not end with a full stop, as the note on a document without vectors does.
-/
namespace DeviceQualifier.Vectors

def StartsWith (report text : String) : Prop := ∃ rest, report = text ++ rest

/-- The last line ends with the text. -/
def EndsWith (report text : String) : Prop := ∃ front, report = front ++ text ++ "\n"

namespace ValidationResult

/-- The verdict when no test failed. -/
def passedText (v : ValidationResult) : String :=
  "PASSED: All " ++ toString v.total ++ " tests passed"

/-- The verdict when some test failed. -/
def failedText (v : ValidationResult) : String :=
  "FAILED: " ++ toString v.failedCount ++ " of " ++ toString v.total ++ " tests failed"

end ValidationResult

/-- A report begins and ends in accordance with the validation. -/
structure Tells (report : String) (v : ValidationResult) : Prop where
  invalid : StartsWith report "Vector file: INVALID" ↔ v.fileValid = false
  empty : EndsWith report "No test vectors found." ↔ v.fileValid = true ∧ v.total = 0
  passed : v.fileValid = true → v.total ≠ 0 →
    (EndsWith report v.passedText ↔ v.allPassed = true)
  failed : v.fileValid = true → v.total ≠ 0 →
    (EndsWith report v.failedText ↔ v.allPassed = false)
  failures : v.fileValid = true → v.allPassed = false → 1 ≤ v.failedCount

theorem ended_cons (line : String) (lines : List String) :
    ended (line :: lines) = line ++ "\n" ++ ended lines := by
  simp [ended, String.join_cons]

theorem ended_concat (lines : List String) (line : String) :
    ended (lines ++ [line]) = ended lines ++ line ++ "\n" := by
  induction lines with
  | nil => simp [ended]
  | cons first rest ih => simp only [List.cons_append, ended_cons, ih, String.append_assoc]

/-- The last three characters, the last one first. -/
def ending (s : String) : List Char := s.toList.reverse.take 3

theorem ending_append (s : String) {t : String} (whole : (ending t).length = 3) :
    ending (s ++ t) = ending t := by
  have long : 3 ≤ t.toList.reverse.length := by
    rw [ending, List.length_take] at whole
    omega
  rw [ending, String.toList_append, List.reverse_append, List.take_append_of_le_length long, ending]

/-- The texts that a report ends with have one ending. -/
theorem EndsWith.ending_eq {report s t : String} (hs : EndsWith report s) (ht : EndsWith report t)
    (whole : (ending s).length = 3) (whole' : (ending t).length = 3) : ending s = ending t := by
  obtain ⟨front, rfl⟩ := hs
  obtain ⟨front', same⟩ := ht
  have same := (String.append_left_inj "\n").mp same
  rw [← ending_append front whole, same, ending_append front' whole']

/-- The text is long enough for an ending, and has no full stop there. -/
def Unstopped (s : String) : Prop := (ending s).length = 3 ∧ (ending s).head? ≠ some '.'

instance (s : String) : Decidable (Unstopped s) :=
  inferInstanceAs (Decidable (_ ∧ _))

theorem unstopped_append (s : String) {t : String} (h : Unstopped t) : Unstopped (s ++ t) := by
  unfold Unstopped
  rwa [ending_append s h.1]

theorem EndsWith.not_empty {report s : String} (ends : EndsWith report s) (h : Unstopped s) :
    ¬EndsWith report "No test vectors found." := by
  intro empty
  have same := ends.ending_eq empty h.1 (by decide)
  apply h.2
  rw [same]
  decide

theorem Flaw.unstopped (f : Flaw) : Unstopped f.message := by
  cases f with
  | notMapping | noVectors | vectorsNotList => decide
  | notObject | noName | noDescriptor | descriptorNotText | validNotBool | expectedNotObject
  | expectsOfInvalid => exact unstopped_append _ (by decide)

section
variable {v : ValidationResult}

theorem failedCount_pos (h : v.fileValid = true) (failed : v.allPassed = false) :
    1 ≤ v.failedCount := by
  simp only [ValidationResult.allPassed, h, Bool.true_and, beq_eq_false_iff_ne] at failed
  omega

theorem ending_passedText : ending v.passedText = ending " tests passed" :=
  ending_append _ (by decide)

theorem ending_failedText : ending v.failedText = ending " tests failed" :=
  ending_append _ (by decide)

theorem verdict_cases : (v.allPassed = true ∧ v.verdict = v.passedText) ∨
    (v.allPassed = false ∧ v.verdict = v.failedText) := by
  unfold ValidationResult.verdict
  cases v.allPassed with
  | true => exact .inl ⟨rfl, rfl⟩
  | false => exact .inr ⟨rfl, rfl⟩

/-- No report ends with both verdicts. -/
theorem EndsWith.not_both {report : String} (passed : EndsWith report v.passedText)
    (failed : EndsWith report v.failedText) : False := by
  have same := passed.ending_eq failed (by rw [ending_passedText]; decide)
    (by rw [ending_failedText]; decide)
  rw [ending_passedText, ending_failedText] at same
  exact absurd same (by decide)

theorem unstopped_verdict : Unstopped v.verdict := by
  obtain ⟨-, text⟩ | ⟨-, text⟩ := @verdict_cases v
  · rw [text]
    exact unstopped_append _ (by decide)
  · rw [text]
    exact unstopped_append _ (by decide)

end

/-- The first and the last line of a report. -/
inductive Frame (v : ValidationResult) : String → String → Prop
  | invalid (h : v.fileValid = false) (f : Flaw) :
      Frame v "Vector file: INVALID" ("  - " ++ f.message)
  | empty (h : v.fileValid = true) (zero : v.total = 0) :
      Frame v "Vector file: VALID" "No test vectors found."
  | full (h : v.fileValid = true) (many : v.total ≠ 0) : Frame v "Vector file: VALID" v.verdict

section
variable {v : ValidationResult} {verbose : Bool}

theorem starts_report {first : String} {rest : List String}
    (h : v.lines verbose = first :: rest) : StartsWith (v.report verbose) (first ++ "\n") :=
  ⟨ended rest, by rw [ValidationResult.report, h, ended_cons]⟩

theorem ends_report {front : List String} {last : String}
    (h : v.lines verbose = front ++ [last]) : EndsWith (v.report verbose) last :=
  ⟨ended front, by rw [ValidationResult.report, h, ended_concat]⟩

end

theorem exists_frame (v : ValidationResult) (verbose : Bool) :
    ∃ first last, Frame v first last ∧ StartsWith (v.report verbose) (first ++ "\n") ∧
      EndsWith (v.report verbose) last := by
  cases h : v.fileValid with
  | false =>
    have lines : v.lines verbose = "Vector file: INVALID" :: v.flaws.map ("  - " ++ ·.message) := by
      simp [ValidationResult.lines, h]
    have flawed : v.flaws ≠ [] := by
      intro none
      simp [ValidationResult.fileValid, none] at h
    obtain ⟨flaws, f, hf⟩ := (List.eq_nil_or_concat v.flaws).resolve_left flawed
    have last : v.lines verbose =
        ("Vector file: INVALID" :: flaws.map ("  - " ++ ·.message)) ++ ["  - " ++ f.message] := by
      rw [lines, hf]
      simp
    exact ⟨_, _, .invalid h f, starts_report lines, ends_report last⟩
  | true =>
    by_cases zero : v.total = 0
    · have lines : v.lines verbose =
          ["Vector file: VALID", ""] ++ ["No test vectors found."] := by
        simp [ValidationResult.lines, h, zero]
      exact ⟨_, _, .empty h zero, starts_report lines, ends_report lines⟩
    · have lines : v.lines verbose =
          (["Vector file: VALID", "",
            "Test Vectors: " ++ toString v.passedCount ++ "/" ++ toString v.total ++ " passed",
            rule '-'] ++ v.results.flatMap (·.lines verbose) ++ [rule '-']) ++ [v.verdict] := by
        simp [ValidationResult.lines, h, zero]
      exact ⟨_, _, .full h zero, starts_report lines, ends_report lines⟩

section
variable {v : ValidationResult} {report : String}

theorem tells_invalid {f : Flaw} (h : v.fileValid = false)
    (starts : StartsWith report ("Vector file: INVALID" ++ "\n"))
    (ends : EndsWith report ("  - " ++ f.message)) : Tells report v where
  invalid := by
    obtain ⟨rest, hr⟩ := starts
    exact ⟨fun _ => h, fun _ => ⟨"\n" ++ rest, by rw [hr, String.append_assoc]⟩⟩
  empty := by
    have other := ends.not_empty (unstopped_append _ f.unstopped)
    simp [other, h]
  passed valid := by simp [h] at valid
  failed valid := by simp [h] at valid
  failures := failedCount_pos

theorem not_startsWith_invalid (starts : StartsWith report ("Vector file: VALID" ++ "\n")) :
    ¬StartsWith report "Vector file: INVALID" := by
  rintro ⟨rest, hr⟩
  obtain ⟨rest', hr'⟩ := starts
  -- The character at 13 is the first one in which the two first lines differ.
  have same := congrArg (·.toList[13]?) (hr.symm.trans hr')
  simp only [String.toList_append] at same
  rw [List.getElem?_append_left (by decide), List.getElem?_append_left (by decide)] at same
  exact absurd same (by decide)

theorem tells_empty (h : v.fileValid = true) (zero : v.total = 0)
    (starts : StartsWith report ("Vector file: VALID" ++ "\n"))
    (ends : EndsWith report "No test vectors found.") : Tells report v where
  invalid := by simp [not_startsWith_invalid starts, h]
  empty := by simp [ends, h, zero]
  passed _ many := absurd zero many
  failed _ many := absurd zero many
  failures := failedCount_pos

theorem tells_full (h : v.fileValid = true) (many : v.total ≠ 0)
    (starts : StartsWith report ("Vector file: VALID" ++ "\n"))
    (ends : EndsWith report v.verdict) : Tells report v where
  invalid := by simp [not_startsWith_invalid starts, h]
  empty := by simp [ends.not_empty unstopped_verdict, many]
  passed _ _ := by
    obtain ⟨all, text⟩ | ⟨failed, text⟩ := @verdict_cases v
    · exact ⟨fun _ => all, fun _ => text ▸ ends⟩
    · refine ⟨fun passed => (passed.not_both (text ▸ ends)).elim, fun all => ?_⟩
      rw [all] at failed
      cases failed
  failed _ _ := by
    obtain ⟨all, text⟩ | ⟨failed, text⟩ := @verdict_cases v
    · refine ⟨fun failed => (EndsWith.not_both (text ▸ ends) failed).elim, fun failed => ?_⟩
      rw [all] at failed
      cases failed
    · exact ⟨fun _ => failed, fun _ => text ▸ ends⟩
  failures := failedCount_pos

end

/-- The report of every validation, with all details or not. -/
theorem tells_report (v : ValidationResult) (verbose : Bool) : Tells (v.report verbose) v := by
  obtain ⟨first, last, frame, starts, ends⟩ := exists_frame v verbose
  cases frame with
  | invalid h f => exact tells_invalid h starts ends
  | empty h zero => exact tells_empty h zero starts ends
  | full h many => exact tells_full h many starts ends

end DeviceQualifier.Vectors
