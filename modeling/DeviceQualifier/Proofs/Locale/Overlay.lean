import DeviceQualifier.Locale.Reading

/-!
A locale in use that is read into again. To store each subtag as soon as it is accepted comes to
the same as to store all of them afterwards, `readInto_eq`, so no reading looks at what was there
before. Every part then holds what the last reading that set it made of it, `part_readings`.
-/
namespace DeviceQualifier.Locale

/-- Everything in a list stored over a locale. -/
def storeAll (l : Locale) (stored : List (Part × String)) : Locale :=
  stored.foldl (fun l (p, s) => l.store p s) l

theorem meetInto_eq (l : Locale) (ds : List Demand) :
    meetInto l ds = (l.storeAll (meet ds).1, (meet ds).2) := by
  induction ds generalizing l with
  | nil => rfl
  | cons d ds ih =>
    cases d with
    | refuse fault => rfl
    | kind p s =>
      unfold meetInto meet
      by_cases accepted : p.accepts s = true
      · rw [if_pos accepted, if_pos accepted, ih]
        rfl
      · rw [if_neg accepted, if_neg accepted]
        rfl

theorem readInto_eq (l : Locale) (ts : List String) :
    readInto l ts = ((Reading.ofTokens ts).onto l, (Reading.ofTokens ts).outcome) := by
  cases ts with
  | nil => rfl
  | cons token rest =>
    cases tag : tagBody? token with
    | some body =>
      simp only [readInto, Reading.ofTokens, tag, meetInto_eq, Reading.ofTag]
      cases (meet (demands (subtags body))).2 with
      | none => rfl
      | some fault => rfl
    | none =>
      simp only [readInto, Reading.ofTokens, tag]
      by_cases word : Reading.isLanguageWord token = true
      · simp only [if_pos word, Reading.ofWord]
        cases rest.head?.bind Reading.regionOfToken? with
        | none => rfl
        | some region => rfl
      · simp only [if_neg word]
        rfl

/-- What the last entry for a part is kept as. -/
def lastStored (p : Part) (stored : List (Part × String)) : Option String :=
  stored.reverse.findSome? fun e => if e.1 = p then some (p.spell e.2) else none

theorem part_storeAll (l : Locale) (p : Part) (stored : List (Part × String)) :
    (l.storeAll stored).part p = (lastStored p stored).or (l.part p) := by
  induction stored generalizing l with
  | nil => rfl
  | cons e stored ih =>
    have rest := ih (l.store e.1 e.2)
    rw [part_store] at rest
    have last : lastStored p (e :: stored) =
        (lastStored p stored).or (if e.1 = p then some (p.spell e.2) else none) := by
      simp [lastStored]
    rw [last, Option.or_assoc]
    refine rest.trans (congrArg _ ?_)
    by_cases same : e.1 = p
    · simp [same]
    · simp [same, Ne.symm same]

namespace Reading

/-- A reading sets a part or leaves it as it is. -/
theorem part_onto (r : Reading) (l : Locale) (p : Part) :
    (r.onto l).part p = ((r.onto unspecified).part p).or (l.part p) := by
  have fresh : unspecified.part p = none := by cases p <;> rfl
  have onto (k : Locale) : (r.onto k).part p = (lastStored p r.stored).or (k.part p) :=
    part_storeAll k p r.stored
  rw [onto, onto, fresh, Option.or_none]

/-- A later reading overlays the ones before it. -/
theorem part_readings (rs : List Reading) (l : Locale) (p : Part) :
    (rs.foldl (fun l r => r.onto l) l).part p =
      (rs.reverse.findSome? fun r => (r.onto unspecified).part p).or (l.part p) := by
  induction rs generalizing l with
  | nil => rfl
  | cons r rs ih =>
    rw [List.foldl_cons, ih, part_onto r l p]
    simp [Option.or_assoc]

/-- Where no token is taken, nothing is stored. -/
theorem stored_of_untaken {ts : List String} (h : (ofTokens ts).outcome = .ok 0) :
    (ofTokens ts).stored = [] := by
  cases ts with
  | nil => rfl
  | cons token rest =>
    cases tag : tagBody? token with
    | some body =>
      simp only [ofTokens, tag, ofTag] at h
      split at h <;> cases h
    | none =>
      by_cases word : isLanguageWord token = true
      · simp only [ofTokens, tag, if_pos word, ofWord] at h
        split at h <;> cases h
      · simp only [ofTokens, tag, if_neg word]
        rfl

end Reading

/-- Some tokens and the position that they are read from. -/
structure Cursor where
  tokens : List String
  position : Nat

def Cursor.reading (a : Cursor) : Reading := .ofTokens (a.tokens.drop a.position)

/-- **Readings overlay a locale.** What a reading comes to, be it a count or a fault, does not
depend on the locale it is read into. A part that the reading sets into a fresh locale is the same
here, and any other part stays as it was, also after a fault; a reading that takes no token changes
nothing. After any readings in turn each part holds what the last one that set it made of it. -/
theorem reading_overlays (l : Locale) (a : Cursor) :
    readInto l (a.tokens.drop a.position) = (a.reading.onto l, a.reading.outcome) ∧
      (∀ p, (a.reading.onto l).part p =
        ((a.reading.onto unspecified).part p).or (l.part p)) ∧
      (a.reading.outcome = .ok 0 → a.reading.onto l = l) ∧
      ∀ (cursors : List Cursor) (p : Part),
        (cursors.foldl (fun l a => a.reading.onto l) l).part p =
          (cursors.reverse.findSome? fun a => (a.reading.onto unspecified).part p).or
            (l.part p) := by
  refine ⟨readInto_eq l _, Reading.part_onto a.reading l, ?_, ?_⟩
  · intro untaken
    rw [Reading.onto, Cursor.reading, Reading.stored_of_untaken untaken, List.foldl_nil]
  · intro cursors p
    have overlaid := Reading.part_readings (cursors.map Cursor.reading) l p
    rw [List.foldl_map, ← List.map_reverse, List.findSome?_map] at overlaid
    exact overlaid

/-- A tag that fails at its last subtag keeps the region of the word read before it, and a version
behind it is no locale. -/
theorem reading_overlays_malformed_tag :
    let tag : Cursor := ⟨["mcc310", "b+sr+Latn+12"], 1⟩
    let version : Cursor := ⟨["b+sr", "v21"], 1⟩
    tag.reading.outcome = .error ⟨"b+sr+Latn+12", .notOfKind .region "12"⟩ ∧
      tag.reading.onto ⟨some "en", some "US", none, none⟩ =
        ⟨some "sr", some "US", some "Latn", none⟩ ∧
      version.reading.outcome = .ok 0 ∧
      version.reading.onto ⟨some "sr", some "US", some "Latn", none⟩ =
        ⟨some "sr", some "US", some "Latn", none⟩ := by
  intro tag version
  obtain ⟨-, parts, -, -⟩ := reading_overlays ⟨some "en", some "US", none, none⟩ tag
  obtain ⟨-, -, untaken, -⟩ := reading_overlays ⟨some "sr", some "US", some "Latn", none⟩ version
  have fresh : tag.reading.onto unspecified = ⟨some "sr", none, some "Latn", none⟩ := rfl
  refine ⟨rfl, ?_, rfl, untaken rfl⟩
  apply ext_part
  intro p
  rw [parts, fresh]
  cases p <;> rfl

end DeviceQualifier.Locale
