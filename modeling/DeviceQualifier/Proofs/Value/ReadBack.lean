import DeviceQualifier.Proofs.Value.Escape
import DeviceQualifier.Proofs.Value.Number

/-!
Written documents read back. Where an object has several fields of one name the last one is read, in
the place of the first, so what is read is the document `merged`.
-/
namespace DeviceQualifier.Value

open Reader

mutual
/-- A document with one field of each name in its objects: the last value in the first place. -/
def merged : Value → Value
  | list items => list (mergedItems items)
  | object fields => object (mergedFields [] fields)
  | v => v

def mergedItems : List Value → List Value
  | [] => []
  | v :: rest => merged v :: mergedItems rest

def mergedFields (known : List (String × Value)) : List (String × Value) → List (String × Value)
  | [] => known
  | (name, v) :: rest => mergedFields (putField name (merged v) known) rest
end

/-- Whatever reads as a number starts with a digit behind its sign. -/
theorem exists_digit {negative : Bool} {cs : List Char} {found : Value × List Char}
    (h : unsigned? negative cs = some found) : ∃ c rest, cs = c :: rest ∧ c.isDigit = true := by
  cases cs with
  | nil => cases h
  | cons c rest =>
    refine ⟨c, rest, rfl, ?_⟩
    by_cases digit : c.isDigit = true
    · exact digit
    · rw [unsigned?, digits?, List.takeWhile_cons_of_neg digit] at h
      cases h

/-- Neither space nor the first mark of a list, an object or text. -/
def isPlain (c : Char) : Bool := !isSpace c && c != '[' && c != '\x7b' && c != quote

theorem value?_plain {c : Char} (plain : isPlain c = true) (steps : Nat) (rest : List Char) :
    value? (steps + 1) (c :: rest) = (keyword? (c :: rest)).or (number? (c :: rest)) := by
  simp only [isPlain, Bool.and_eq_true, Bool.not_eq_true', bne_iff_ne] at plain
  obtain ⟨⟨⟨other, list⟩, object⟩, text⟩ := plain
  rw [value?, skip, List.dropWhile_cons_of_neg (by simp [other])]
  split
  · contradiction
  · rename_i h
    cases h
    exact absurd rfl list
  · rename_i h
    cases h
    exact absurd rfl object
  · rename_i h
    cases h
    exact if_neg text

theorem ne_of_isDigit {c d : Char} (digit : c.isDigit = true) (other : d.isDigit = false) :
    c ≠ d := by
  rintro rfl
  rw [digit] at other
  cases other

theorem isPlain_of_isDigit {c : Char} (digit : c.isDigit = true) : isPlain c = true := by
  simp [isPlain, isSpace, quote, ne_of_isDigit digit]

/-- No word has a digit for its first or its second letter. -/
theorem letters_of_mem_keywords {word : String × Value} (h : word ∈ keywords) :
    ∃ a b more, word.1.toList = a :: b :: more ∧ isPlain a = true ∧
      a.isDigit = false ∧ b.isDigit = false := by
  simp only [keywords, List.mem_cons, List.not_mem_nil, or_false] at h
  rcases h with rfl | rfl | rfl | rfl | rfl | rfl <;> exact ⟨_, _, _, rfl, rfl, rfl, rfl⟩

theorem keyword?_none {cs : List Char} (h : ∀ word ∈ keywords, ¬word.1.toList <+: cs) :
    keyword? cs = none := by
  rw [keyword?, List.findSome?_eq_none_iff]
  intro word known
  have apart := h word known
  rw [← List.isPrefixOf_iff_prefix] at apart
  exact if_neg apart

theorem keyword?_digit {c : Char} (digit : c.isDigit = true) (rest : List Char) :
    keyword? (c :: rest) = none ∧ keyword? ('-' :: c :: rest) = none := by
  constructor
  · apply keyword?_none
    intro word known front
    obtain ⟨a, b, more, letters, -, first, -⟩ := letters_of_mem_keywords known
    rw [letters, List.cons_prefix_cons] at front
    exact ne_of_isDigit digit first front.1.symm
  · apply keyword?_none
    intro word known front
    obtain ⟨a, b, more, letters, -, -, second⟩ := letters_of_mem_keywords known
    rw [letters, List.cons_prefix_cons, List.cons_prefix_cons] at front
    exact ne_of_isDigit digit second front.2.1.symm

theorem value?_number {cs : List Char} {found : Value × List Char} (h : number? cs = some found)
    (steps : Nat) : value? (steps + 1) cs = some found := by
  have sign := h
  unfold number? at sign
  split at sign
  · obtain ⟨c, rest, rfl, digit⟩ := exists_digit sign
    rw [value?_plain rfl, (keyword?_digit digit rest).2, Option.none_or, h]
  · obtain ⟨c, rest, rfl, digit⟩ := exists_digit sign
    rw [value?_plain (isPlain_of_isDigit digit), (keyword?_digit digit rest).1, Option.none_or, h]

theorem value?_keyword {cs : List Char} {found : Value × List Char} (h : keyword? cs = some found)
    (steps : Nat) : value? (steps + 1) cs = some found := by
  obtain ⟨⟨word, v⟩, known, read⟩ := List.exists_of_findSome?_eq_some h
  dsimp only at read
  split at read
  · rename_i front
    obtain ⟨c, d, more, letters, plain, -, -⟩ := letters_of_mem_keywords known
    obtain ⟨rest, rfl⟩ := List.isPrefixOf_iff_prefix.mp front
    dsimp only at letters
    rw [letters, List.cons_append] at h ⊢
    rw [value?_plain plain, h, Option.some_or]
  · cases read

theorem keyword?_append {s : String} {v : Value} (known : (s, v) ∈ keywords) (rest : List Char) :
    keyword? (s.toList ++ rest) = some (v, rest) := by
  simp only [keywords, List.mem_cons, List.not_mem_nil, or_false] at known
  rcases known with ⟨⟨⟩⟩ | ⟨⟨⟩⟩ | ⟨⟨⟩⟩ | ⟨⟨⟩⟩ | ⟨⟨⟩⟩ | ⟨⟨⟩⟩ <;> rfl

theorem value?_word {s : String} {v : Value} (known : (s, v) ∈ keywords) (steps : Nat)
    (rest : List Char) : value? (steps + 1) (s.toList ++ rest) = some (v, rest) :=
  value?_keyword (keyword?_append known rest) steps

theorem value?_bool (b : Bool) (steps : Nat) (rest : List Char) :
    value? (steps + 1) ((compact (bool b)).toList ++ rest) = some (bool b, rest) := by
  cases b with
  | false => exact value?_word (s := "false") (by simp [keywords]) steps rest
  | true => exact value?_word (s := "true") (by simp [keywords]) steps rest

theorem value?_real (d : Double) (steps : Nat) {rest : List Char} (ends : Ends rest) :
    value? (steps + 1) ((compact (real d)).toList ++ rest) = some (real d, rest) := by
  cases d with
  | finite negative size => exact value?_number (number?_render ends negative size) steps
  | infinite negative =>
    cases negative with
    | false => exact value?_word (s := "Infinity") (by simp [keywords]) steps rest
    | true => exact value?_word (s := "-Infinity") (by simp [keywords]) steps rest
  | undefined => exact value?_word (s := "NaN") (by simp [keywords]) steps rest

/-- Space in front of a value is skipped. -/
theorem value?_skip {cs ds : List Char} (h : skip cs = skip ds) (steps : Nat) :
    value? steps cs = value? steps ds := by
  cases steps with
  | zero => rfl
  | succ steps => rw [value?, value?, h]

/-- No value starts with the end of a list. -/
theorem value?_closing {cs after : List Char} (h : skip cs = ']' :: after) (steps : Nat) :
    value? steps cs = none := by
  have same : skip cs = skip (']' :: after) := h
  cases steps with
  | zero => rfl
  | succ steps =>
    rw [value?_skip same, value?_plain rfl]
    rfl

section Steps
variable {cs body after mid final : List Char} {steps : Nat} {v : Value} {vs : List Value}
  {name : String} {known fs : List (String × Value)}

theorem value?_list (h : items? steps cs = some (vs, after)) :
    value? (steps + 1) ('[' :: cs) = some (list vs, after) := by
  have front : skip ('[' :: cs) = '[' :: cs := rfl
  rw [value?, front]
  split
  · rename_i same
    cases same
  · rename_i same
    cases same
    split
    · rename_i closing
      cases steps with
      | zero => cases h
      | succ steps =>
        rw [items?, value?_closing closing] at h
        cases h
    · rw [h]
      rfl
  · rename_i same
    exact absurd (List.cons.inj same).1 (by decide)
  · rename_i other _ same
    exact absurd (List.cons.inj same).1.symm other

theorem value?_object (h : fields? steps cs [] = some (fs, after)) :
    value? (steps + 1) ('\x7b' :: cs) = some (object fs, after) := by
  have front : skip ('\x7b' :: cs) = '\x7b' :: cs := rfl
  rw [value?, front]
  split
  · rename_i same
    cases same
  · rename_i same
    exact absurd (List.cons.inj same).1 (by decide)
  · rename_i same
    cases same
    split
    · rename_i closing
      cases steps with
      | zero => cases h
      | succ steps =>
        rw [fields?, closing] at h
        cases h
    · rw [h]
      rfl
  · rename_i _ other same
    exact absurd (List.cons.inj same).1.symm other

theorem value?_text {s : String} (read : text? body = some (s, after)) :
    value? (steps + 1) (quote :: body) = some (text s, after) := by
  have front : value? (steps + 1) (quote :: body) =
      (text? body).map fun found => (text found.1, found.2) := rfl
  rw [front, read]
  rfl

theorem fields?_cons (front : skip cs = quote :: body)
    (read : text? body = some (name, ':' :: ' ' :: mid))
    (first : value? steps mid = some (v, ',' :: after)) :
    fields? (steps + 1) cs known = fields? steps after (putField name v known) := by
  have colon : skip (':' :: ' ' :: mid) = ':' :: ' ' :: mid := rfl
  have comma : skip (',' :: after) = ',' :: after := rfl
  have blank := @value?_skip (' ' :: mid) mid rfl steps
  rw [fields?, front]
  simp [read, colon, blank, first, comma]

theorem fields?_last (front : skip cs = quote :: body)
    (read : text? body = some (name, ':' :: ' ' :: mid))
    (first : value? steps mid = some (v, after)) (closing : skip after = '\x7d' :: final) :
    fields? (steps + 1) cs known = some (putField name v known, final) := by
  have colon : skip (':' :: ' ' :: mid) = ':' :: ' ' :: mid := rfl
  have blank := @value?_skip (' ' :: mid) mid rfl steps
  rw [fields?, front]
  simp [read, colon, blank, first, closing]

theorem items?_cons (first : value? steps cs = some (v, ',' :: mid))
    (others : items? steps mid = some (vs, final)) :
    items? (steps + 1) cs = some (v :: vs, final) := by
  rw [items?, first]
  have mark : skip (',' :: mid) = ',' :: mid := rfl
  simp [mark, others]

theorem items?_last (first : value? steps cs = some (v, mid)) (closing : skip mid = ']' :: after) :
    items? (steps + 1) cs = some ([v], after) := by
  rw [items?, first]
  simp [closing]

end Steps

/-- Items on lines of their own, with blanks in front. -/
def rows (blanks : Nat) (items : List String) : List Char :=
  [',', '\n'].intercalate (items.map fun s => List.replicate blanks ' ' ++ s.toList)

/-- The line behind the last item. -/
def ending (blanks : Nat) (closing : Char) (rest : List Char) : List Char :=
  '\n' :: (List.replicate blanks ' ' ++ closing :: rest)

theorem rows_singleton (blanks : Nat) (s : String) :
    rows blanks [s] = List.replicate blanks ' ' ++ s.toList := by
  simp [rows]

theorem rows_cons (blanks : Nat) (s t : String) (items : List String) :
    rows blanks (s :: t :: items) =
      List.replicate blanks ' ' ++ s.toList ++ ',' :: '\n' :: rows blanks (t :: items) := by
  simp [rows, List.intercalate_cons_cons]

theorem ends_ending (blanks : Nat) (closing : Char) (rest : List Char) :
    Ends (ending blanks closing rest) := by
  rintro c ⟨⟩
  exact .inr rfl

theorem Ends.comma (rest : List Char) : Ends (',' :: rest) := by
  rintro c ⟨⟩
  exact .inl rfl

/-- A line break and blanks are skipped. -/
theorem skip_line (blanks : Nat) (cs : List Char) :
    skip ('\n' :: (List.replicate blanks ' ' ++ cs)) = skip cs := by
  have blank : ∀ c ∈ '\n' :: List.replicate blanks ' ', isSpace c = true := by
    rw [List.forall_mem_cons]
    refine ⟨rfl, fun c hc => ?_⟩
    rw [List.eq_of_mem_replicate hc]
    rfl
  exact @List.dropWhile_append_of_pos _ _ ('\n' :: List.replicate blanks ' ') _ blank

theorem skip_ending {closing : Char} (other : isSpace closing = false) (blanks : Nat)
    (rest : List Char) : skip (ending blanks closing rest) = closing :: rest := by
  rw [ending, skip_line]
  exact List.dropWhile_cons_of_neg (by simp [other])

theorem toList_bracketed {opening closing : String} {o c : Char} (first : opening.toList = [o])
    (last : closing.toList = [c]) (depth : Nat) {items : List String} (filled : items ≠ [])
    (rest : List Char) :
    (bracketed opening closing depth items).toList ++ rest =
      o :: '\n' :: (rows (2 * (depth + 1)) items ++ ending (2 * depth) c rest) := by
  simp [bracketed, filled, first, last, rows, ending, String.toList_intercalate,
    Function.comp_def]

theorem length_bracketed {opening closing : String} {o c : Char} (first : opening.toList = [o])
    (last : closing.toList = [c]) (depth : Nat) {items : List String} (filled : items ≠ []) :
    (rows (2 * (depth + 1)) items).length + 2 ≤
      (bracketed opening closing depth items).toList.length := by
  have shape := congrArg List.length (toList_bracketed first last depth filled [])
  rw [List.append_nil] at shape
  rw [shape, List.length_cons, List.length_cons, List.length_append]
  omega

/-- The name of a field and its colon are read, and the value is left. -/
theorem exists_name (margin : Nat) (name s : String) (rest : List Char) :
    ∃ body, skip ('\n' :: (List.replicate margin ' ' ++
        ((writeText name ++ ": " ++ s).toList ++ rest))) = quote :: body ∧
      text? body = some (name, ':' :: ' ' :: (s.toList ++ rest)) := by
  obtain ⟨body, written, read⟩ := text?_writeText name (':' :: ' ' :: (s.toList ++ rest))
  refine ⟨body, ?_, read⟩
  have whole : (writeText name ++ ": " ++ s).toList ++ rest = quote :: body := by
    rw [← written]
    simp
  rw [skip_line, whole]
  rfl

mutual
/-- A written value reads back, whatever may stand behind it. Twice as many steps as the text has
characters are enough, since every item has at least its line break to itself. -/
theorem value?_indented (v : Value) (depth : Nat) {steps : Nat} {rest : List Char}
    (ends : Ends rest) (enough : 2 * (indented depth v).toList.length + 1 ≤ steps) :
    value? steps ((indented depth v).toList ++ rest) = some (v.merged, rest) := by
  obtain ⟨steps, rfl⟩ : ∃ less, steps = less + 1 := ⟨steps - 1, by omega⟩
  cases v with
  | null => exact value?_word (s := "null") (v := null) (by simp [keywords]) steps rest
  | bool b => exact value?_bool b steps rest
  | int n => exact value?_number (number?_toString ends n) steps
  | real d => exact value?_real d steps ends
  | text s =>
    obtain ⟨body, written, read⟩ := text?_writeText s rest
    exact written ▸ value?_text read
  | list items =>
    rw [indented] at enough ⊢
    cases items with
    | nil =>
      have text : (bracketed "[" "]" depth []).toList = ['[', ']'] := by simp [bracketed]
      rw [indentedItems, text]
      rfl
    | cons v items =>
      have filled : indentedItems (depth + 1) (v :: items) ≠ [] := nofun
      have room := @length_bracketed "[" "]" _ _ rfl rfl depth _ filled
      rw [toList_bracketed rfl rfl depth filled]
      apply value?_list
      exact items?_indented (v :: items) nofun (depth + 1) (by omega)
  | object fields =>
    rw [indented] at enough ⊢
    cases fields with
    | nil =>
      have text : (bracketed "\x7b" "\x7d" depth []).toList = ['\x7b', '\x7d'] := by
        simp [bracketed]
      rw [indentedFields, text]
      rfl
    | cons entry fields =>
      have filled : indentedFields (depth + 1) (entry :: fields) ≠ [] := nofun
      have room := @length_bracketed "\x7b" "\x7d" _ _ rfl rfl depth _ filled
      rw [toList_bracketed rfl rfl depth filled]
      apply value?_object
      exact fields?_indented (entry :: fields) nofun (depth + 1) [] (by omega)

theorem items?_indented (vs : List Value) (filled : vs ≠ []) (depth : Nat)
    {steps margin outer : Nat} {rest : List Char}
    (enough : 2 * (rows margin (indentedItems depth vs)).length + 2 ≤ steps) :
    items? steps ('\n' :: (rows margin (indentedItems depth vs) ++ ending outer ']' rest)) =
      some (mergedItems vs, rest) := by
  obtain ⟨steps, rfl⟩ : ∃ less, steps = less + 1 := ⟨steps - 1, by omega⟩
  cases vs with
  | nil => exact absurd rfl filled
  | cons v vs =>
    cases vs with
    | nil =>
      rw [indentedItems, indentedItems, rows_singleton] at enough ⊢
      rw [List.length_append] at enough
      rw [List.append_assoc]
      apply items?_last _ (skip_ending rfl outer rest)
      rw [value?_skip (skip_line margin _)]
      exact value?_indented v depth (ends_ending outer _ rest) (by omega)
    | cons w vs =>
      have others := @items?_indented (w :: vs) nofun depth steps margin outer rest
      rw [indentedItems, indentedItems, rows_cons] at enough ⊢
      rw [indentedItems] at others
      rw [List.length_append, List.length_append, List.length_cons, List.length_cons] at enough
      rw [List.append_assoc, List.append_assoc]
      refine items?_cons ?_ (others (by omega))
      rw [value?_skip (skip_line margin _)]
      exact value?_indented v depth (.comma _) (by omega)

theorem fields?_indented (fields : List (String × Value)) (filled : fields ≠ []) (depth : Nat)
    (known : List (String × Value)) {steps margin outer : Nat} {rest : List Char}
    (enough : 2 * (rows margin (indentedFields depth fields)).length + 2 ≤ steps) :
    fields? steps ('\n' :: (rows margin (indentedFields depth fields) ++ ending outer '\x7d' rest))
      known = some (mergedFields known fields, rest) := by
  obtain ⟨steps, rfl⟩ : ∃ less, steps = less + 1 := ⟨steps - 1, by omega⟩
  cases fields with
  | nil => exact absurd rfl filled
  | cons entry fields =>
    obtain ⟨name, v⟩ := entry
    cases fields with
    | nil =>
      rw [indentedFields, indentedFields, rows_singleton] at enough ⊢
      simp only [List.length_append, String.toList_append] at enough
      obtain ⟨body, front, read⟩ := exists_name margin name (indented depth v)
        (ending outer '\x7d' rest)
      have first := value?_indented v depth (ends_ending outer '\x7d' rest)
        (show _ ≤ steps by omega)
      rw [List.append_assoc]
      exact fields?_last front read first (skip_ending rfl outer rest)
    | cons next fields =>
      have others := @fields?_indented (next :: fields) nofun depth
        (putField name v.merged known) steps margin outer rest
      rw [indentedFields, indentedFields, rows_cons] at enough ⊢
      rw [indentedFields] at others
      simp only [List.length_append, List.length_cons, String.toList_append] at enough
      obtain ⟨body, front, read⟩ := exists_name margin name (indented depth v) (',' :: '\n' ::
        (rows margin (indentedFields depth (next :: fields)) ++ ending outer '\x7d' rest))
      have first := value?_indented v depth (.comma ('\n' ::
        (rows margin (indentedFields depth (next :: fields)) ++ ending outer '\x7d' rest)))
        (show _ ≤ steps by omega)
      rw [List.append_assoc, List.append_assoc]
      exact (fields?_cons front read first).trans (others (by omega))
end

/-- **A written document reads back**, up to fields of one name in an object. -/
theorem read?_pretty (v : Value) : read? (v.pretty ++ "\n") = some v.merged := by
  have ends : Ends ['\n'] := by
    rintro c ⟨⟩
    exact .inr rfl
  have text : (v.pretty ++ "\n").toList = (indented 0 v).toList ++ ['\n'] :=
    String.toList_append
  have read := value?_indented v 0 ends
    (show _ ≤ 2 * ((indented 0 v).toList ++ ['\n']).length + 2 by rw [List.length_append]; omega)
  rw [read?, text]
  simp only [read, Option.bind_eq_bind, Option.bind_some]
  rfl

theorem map_fst_putField (name : String) (v : Value) (fields : List (String × Value)) :
    (putField name v fields).map Prod.fst =
      if name ∈ fields.map Prod.fst then fields.map Prod.fst
      else fields.map Prod.fst ++ [name] := by
  induction fields with
  | nil => rfl
  | cons e rest ih =>
    obtain ⟨other, w⟩ := e
    rw [putField]
    by_cases same : other = name
    · simp [same]
    · rw [if_neg same, List.map_cons, ih]
      by_cases known : name ∈ rest.map Prod.fst
      · simp [known]
      · simp [known, Ne.symm same]

theorem mem_putField {name : String} {v : Value} {fields : List (String × Value)}
    {entry : String × Value} (h : entry ∈ putField name v fields) :
    entry = (name, v) ∨ entry ∈ fields := by
  induction fields with
  | nil => exact .inl (List.mem_singleton.mp h)
  | cons first rest ih =>
    obtain ⟨other, w⟩ := first
    rw [putField] at h
    split at h
    · exact (List.mem_cons.mp h).imp_right (List.mem_cons_of_mem _)
    · rcases List.mem_cons.mp h with rfl | later
      · exact .inr List.mem_cons_self
      · exact (ih later).imp_right (List.mem_cons_of_mem _)

theorem putField_of_not_mem {name : String} {v : Value} {fields : List (String × Value)}
    (new : name ∉ fields.map Prod.fst) : putField name v fields = fields ++ [(name, v)] := by
  induction fields with
  | nil => rfl
  | cons entry fields ih =>
    rw [List.map_cons, List.mem_cons, not_or] at new
    rw [putField, if_neg (Ne.symm new.1), ih new.2, List.cons_append]

theorem mergedFields_of_nodup {known fields : List (String × Value)}
    (distinct : ((known ++ fields).map Prod.fst).Nodup) :
    mergedFields known fields = known ++ fields.map fun e => (e.1, e.2.merged) := by
  induction fields generalizing known with
  | nil => rw [mergedFields, List.map_nil, List.append_nil]
  | cons entry fields ih =>
    obtain ⟨name, v⟩ := entry
    have new : name ∉ known.map Prod.fst := by
      rw [List.map_append, List.nodup_append] at distinct
      exact fun old => distinct.2.2 name old name (List.mem_cons_self ..) rfl
    have later : ((known ++ [(name, v.merged)] ++ fields).map Prod.fst).Nodup := by
      simpa using distinct
    rw [mergedFields, putField_of_not_mem new, ih later, List.map_cons, List.append_assoc]
    rfl

/-- Where names are distinct, fields are read as they are. -/
theorem merged_object {fields : List (String × Value)} (distinct : (fields.map Prod.fst).Nodup) :
    (object fields).merged = object (fields.map fun e => (e.1, e.2.merged)) := by
  rw [merged, @mergedFields_of_nodup [] fields distinct, List.nil_append]

/-- Fields that are read as they are. -/
structure Settled (fields : List (String × Value)) : Prop where
  distinct : (fields.map Prod.fst).Nodup
  plain : ∀ entry ∈ fields, entry.2.merged = entry.2

theorem Settled.putField {name : String} {v : Value} {fields : List (String × Value)}
    (h : Settled fields) (plain : v.merged = v) : Settled (putField name v fields) := by
  constructor
  · rw [map_fst_putField]
    split
    · exact h.distinct
    · rename_i new
      refine List.nodup_append.mpr ⟨h.distinct, List.pairwise_singleton _ _, ?_⟩
      rintro old there _ (_ | ⟨_, ⟨⟩⟩) rfl
      exact new there
  · intro entry there
    rcases mem_putField there with rfl | before
    · exact plain
    · exact h.plain entry before

theorem Settled.merged {fields : List (String × Value)} (h : Settled fields) :
    (object fields).merged = object fields := by
  have same : fields.map (fun entry => (entry.1, entry.2.merged)) = fields := by
    apply (List.map_congr_left _).trans (List.map_id fields)
    intro entry there
    rw [h.plain entry there]
    rfl
  rw [merged_object h.distinct, same]

end DeviceQualifier.Value
