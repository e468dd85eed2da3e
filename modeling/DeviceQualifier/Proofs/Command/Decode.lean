import DeviceQualifier.Command.Decode
import DeviceQualifier.Proofs.Descriptor.Rendering
import DeviceQualifier.Proofs.Vectors.Agreement
import Mathlib.Data.List.Induction

/-!
The command that decodes descriptors. It always comes to an end, and what it leaves behind is put
together from its descriptors one by one, `run_reports`: a repeated descriptor is printed and
counted again, but has one place in the printed object.
-/
namespace DeviceQualifier

namespace Command.Decode

def Rejected (d : String) : Prop := ∃ e, Descriptor.decode d = .error (.rejected e)

instance : DecidablePred Rejected := fun d =>
  decidable_of_iff ((Descriptor.decode d).isOk = false) <| by
    constructor
    · intro failed
      apply Descriptor.rejected_of_not_ok
      rintro ⟨r, hd⟩
      rw [hd] at failed
      cases failed
    · rintro ⟨e, hd⟩
      rw [hd]
      rfl

/-- What the command complains of. -/
def Complaint (d text : String) : Prop :=
  ∃ e, Descriptor.decode d = .error (.rejected e) ∧ text = "Error: " ++ e.message ++ "\n"

/-- What the command prints of a descriptor in the modes that print one by one. -/
inductive Printed (d : String) : Mode → String → Prop
  | text {r : Config} (h : Descriptor.decode d = .ok r) :
      Printed d .text (d ++ ":\n" ++ r.summary ++ "\n")
  | hex {r : Config} {digits : String} (h : Descriptor.decode d = .ok r)
      (written : Wire.Digits r digits) : Printed d .hex (d ++ ": " ++ digits ++ "\n")

/-- A text for each of the descriptors, in order, and nothing else. -/
def Lists (about : String → String → Prop) (ds : List String) (out : String) : Prop :=
  ∃ texts, List.Forall₂ about ds texts ∧ out = String.join texts

/-- A datum as a document value. -/
inductive Stands : Datum → Value → Prop
  | number {n : Int} : Stands (.number n) (.int n)
  | absent : Stands (.text none) .null
  | text {s : String} : Stands (.text (some s)) (.text s)

/-- All the fields of a record. -/
def ShowsAll (r : Config) (v : Value) : Prop :=
  ∃ fields, v = .object fields ∧ fields.length = 23 ∧
    ∀ f : Field, ∃ w, fields.lookup f.name = some w ∧ Stands (r.field f) w

/-- What the command leaves behind for some descriptors. -/
structure Reports (mode : Mode) (ds : List String) (o : Outcome) : Prop where
  exit : o.exit = if ∃ d ∈ ds, Rejected d then 1 else 0
  stderr : Lists Complaint (ds.filter (Rejected ·)) o.stderr
  listed : mode ≠ .json → Lists (Printed · mode) (ds.filter (¬Rejected ·)) o.stdout
  object : mode = .json → ∃ fields, o.stdout = (Value.object fields).pretty ++ "\n" ∧
    Value.Reader.read? o.stdout = some (.object fields) ∧ fields.map Prod.fst = ds.eraseDups ∧
    ∀ d ∈ ds, ∃ v, fields.lookup d = some v ∧ (v = .null ↔ Rejected d) ∧
      ∀ r, Descriptor.decode d = .ok r → ShowsAll r v

/-- An entry of a descriptor that is accepted, or of one that is rejected. -/
inductive Sound : Entry → Prop
  | accepted {d : String} {r : Config} (h : Descriptor.decode d = .ok r) : Sound ⟨d, .ok r⟩
  | rejected {d : String} {e : Descriptor.DecodeError}
      (h : Descriptor.decode d = .error (.rejected e)) : Sound ⟨d, .error e⟩

theorem not_rejected {d : String} {r : Config} (h : Descriptor.decode d = .ok r) :
    ¬Rejected d := by
  rintro ⟨e, failed⟩
  cases h.symm.trans failed

theorem exists_entry (d : String) : ∃ e, entry d = .ok e ∧ e.descriptor = d ∧ Sound e := by
  by_cases decoded : ∃ r, Descriptor.decode d = .ok r
  · obtain ⟨r, hd⟩ := decoded
    exact ⟨⟨d, .ok r⟩, by rw [entry, hd], rfl, .accepted hd⟩
  · obtain ⟨e, hd⟩ := Descriptor.rejected_of_not_ok decoded
    exact ⟨⟨d, .error e⟩, by rw [entry, hd], rfl, .rejected hd⟩

theorem exists_entries (ds : List String) : ∃ es : List Entry,
    ds.mapM entry = .ok es ∧ es.map (·.descriptor) = ds ∧ ∀ e ∈ es, Sound e := by
  have ended : ∀ d ∈ ds, ∃ e, entry d = .ok e ∧ e.descriptor = d ∧ Sound e :=
    fun d _ => exists_entry d
  obtain ⟨es, run, each⟩ := Vectors.exists_mapM ended
  have parts : es.map (·.descriptor) = ds ∧ ∀ e ∈ es, Sound e := by
    clear run ended
    induction each with
    | nil => exact ⟨rfl, List.forall_mem_nil _⟩
    | cons here _ ih =>
      rw [List.map_cons, here.1, ih.1]
      exact ⟨rfl, List.forall_mem_cons.mpr ⟨here.2, ih.2⟩⟩
  exact ⟨es, run, parts⟩

theorem any_isRejected {es : List Entry} (sound : ∀ e ∈ es, Sound e) :
    es.any (·.isRejected) = true ↔ ∃ d ∈ es.map (·.descriptor), Rejected d := by
  have each : ∀ e ∈ es, (e.isRejected = true ↔ Rejected e.descriptor) := by
    intro e he
    cases sound e he with
    | accepted h => exact ⟨nofun, fun rejected => absurd rejected (not_rejected h)⟩
    | rejected h => exact ⟨fun _ => ⟨_, h⟩, fun _ => rfl⟩
  constructor
  · intro any
    obtain ⟨e, he, rejected⟩ := List.any_eq_true.mp any
    exact ⟨_, List.mem_map_of_mem he, (each e he).mp rejected⟩
  · rintro ⟨d, hd, rejected⟩
    obtain ⟨e, he, rfl⟩ := List.mem_map.mp hd
    exact List.any_eq_true.mpr ⟨e, he, (each e he).mpr rejected⟩

/-- What a stream takes of a descriptor: a text about it if it is chosen, and nothing otherwise. -/
structure Share (chosen : String → Prop) (about : String → String → Prop) (d text : String) :
    Prop where
  told : chosen d → about d text
  silent : ¬chosen d → text = ""

theorem lists_of_shares {chosen : String → Prop} [DecidablePred chosen]
    {about : String → String → Prop} {ds texts : List String}
    (h : List.Forall₂ (Share chosen about) ds texts) :
    Lists about (ds.filter (chosen ·)) (String.join texts) := by
  induction h with
  | nil => exact ⟨[], .nil, rfl⟩
  | @cons d text ds texts here _ ih =>
    obtain ⟨told, each, same⟩ := ih
    by_cases hd : chosen d
    · rw [List.filter_cons_of_pos (by simpa using hd), String.join_cons, same]
      exact ⟨text :: told, .cons (here.told hd) each, String.join_cons.symm⟩
    · rw [List.filter_cons_of_neg (by simpa using hd), String.join_cons, here.silent hd,
        String.empty_append]
      exact ⟨told, each, same⟩

section
variable {e : Entry} (h : Sound e)
include h

theorem Sound.complaint : Share Rejected Complaint e.descriptor e.complaint := by
  constructor
  · intro rejected
    cases h with
    | accepted h => exact absurd rejected (not_rejected h)
    | rejected h => exact ⟨_, h, rfl⟩
  · intro accepted
    cases h with
    | accepted h => rfl
    | rejected h => exact absurd ⟨_, h⟩ accepted

/-- The hex digits are always there, as whatever is decoded fits its record. -/
theorem Sound.exists_lines (mode : Mode) : ∃ text, e.lines mode = .ok text ∧
    (mode = .json → text = "") ∧
    (mode ≠ .json → Share (¬Rejected ·) (Printed · mode) e.descriptor text) := by
  cases h with
  | rejected h =>
    refine ⟨"", rfl, fun _ => rfl, fun _ => ⟨?_, fun _ => rfl⟩⟩
    exact fun accepted => absurd ⟨_, h⟩ accepted
  | @accepted d r h =>
    have share {text : String} (printed : Printed d mode text) :
        Share (¬Rejected ·) (Printed · mode) d text :=
      ⟨fun _ => printed, fun rejected => absurd (not_rejected h) rejected⟩
    cases mode with
    | text => exact ⟨_, rfl, nofun, fun _ => share (.text h)⟩
    | json => exact ⟨"", rfl, fun _ => rfl, fun other => absurd rfl other⟩
    | hex =>
      obtain ⟨digits, written⟩ := Wire.exists_digits (Descriptor.describable_of_decode h)
      refine ⟨d ++ ": " ++ digits ++ "\n", ?_, nofun, fun _ => share (.hex h written)⟩
      simp only [Entry.lines, written.written]

omit h in
theorem stands_toValue (d : Datum) : Stands d d.toValue := by
  cases d with
  | number n => exact .number
  | text t =>
    cases t with
    | none => exact .absent
    | some s => exact .text

theorem Sound.value : (e.value = .null ↔ Rejected e.descriptor) ∧
    ∀ r, Descriptor.decode e.descriptor = .ok r → ShowsAll r e.value := by
  cases h with
  | rejected h =>
    refine ⟨⟨fun _ => ⟨_, h⟩, fun _ => rfl⟩, ?_⟩
    exact fun r hr => absurd ⟨_, h⟩ (not_rejected hr)
  | @accepted d r h =>
    refine ⟨⟨nofun, fun rejected => absurd rejected (not_rejected h)⟩, ?_⟩
    intro q hq
    cases h.symm.trans hq
    refine ⟨_, rfl, rfl, ?_⟩
    intro f
    refine ⟨_, ?_, stands_toValue (r.field f)⟩
    have all := Config.lookup_map_name (fun f => (r.field f).toValue) Field.all f
    rw [if_pos f.mem_all] at all
    rw [Config.fields, List.map_map]
    exact all

end

theorem join_of_empty {α : Type} {xs : List α} {texts : List String}
    (h : List.Forall₂ (fun _ t => t = "") xs texts) : String.join texts = "" := by
  induction h with
  | nil => rfl
  | cons here _ ih => rw [String.join_cons, here, ih, String.append_empty]

theorem eraseDups_concat (names : List String) (name : String) :
    (names ++ [name]).eraseDups =
      if name ∈ names then names.eraseDups else names.eraseDups ++ [name] := by
  rw [List.eraseDups_append]
  by_cases known : name ∈ names
  · have nothing : [name].removeAll names = [] := by simpa [List.removeAll] using known
    rw [if_pos known, nothing, List.eraseDups_nil, List.append_nil]
  · have new : [name].removeAll names = [name] := by simpa [List.removeAll] using known
    rw [if_neg known, new]
    rfl

/-- A repeated descriptor keeps its first place and has the value of one of its entries. -/
theorem collected_fields (es : List Entry) : ∃ fields, collected es = .object fields ∧
    fields.map Prod.fst = (es.map (·.descriptor)).eraseDups ∧
    ∀ d ∈ es.map (·.descriptor), ∃ e ∈ es, e.descriptor = d ∧
      fields.lookup d = some e.value := by
  refine ⟨_, rfl, ?_⟩
  induction es using List.reverseRecOn with
  | nil => exact ⟨rfl, nofun⟩
  | append_singleton es e ih =>
    obtain ⟨names, values⟩ := ih
    rw [List.foldl_append, List.foldl_cons, List.foldl_nil]
    constructor
    · rw [Value.map_fst_putField, names, List.map_append, List.map_singleton, eraseDups_concat]
      simp only [List.mem_eraseDups]
    · intro d hd
      rw [Value.lookup_putField]
      by_cases last : d = e.descriptor
      · exact ⟨e, List.mem_append_right _ List.mem_cons_self, last.symm, if_pos last⟩
      · have before : d ∈ es.map (·.descriptor) := by
          rw [List.map_append, List.mem_append] at hd
          exact hd.resolve_right fun here => last (List.mem_singleton.mp here)
        obtain ⟨first, there, named, found⟩ := values d before
        rw [if_neg last]
        exact ⟨first, List.mem_append_left _ there, named, found⟩

theorem merged_recordValue (r : Config) : (recordValue r).merged = recordValue r := by
  have distinct : (Field.all.map Field.name).Nodup := by decide
  have names : (r.fields.map fun e => (e.1.name, e.2.toValue)).map Prod.fst =
      Field.all.map Field.name := by
    simp [Config.fields, Function.comp_def]
  have plain (d : Datum) : d.toValue.merged = d.toValue := by
    cases d with
    | number n => rfl
    | text t => cases t <;> rfl
  apply Value.Settled.merged ⟨names ▸ distinct, ?_⟩
  intro entry there
  obtain ⟨⟨f, d⟩, -, rfl⟩ := List.mem_map.mp there
  exact plain d

theorem Entry.merged_value (e : Entry) : e.value.merged = e.value := by
  unfold Entry.value
  split
  · exact merged_recordValue _
  · rfl

/-- As it is printed, the object reads back. -/
theorem read?_collected (es : List Entry) :
    Value.Reader.read? ((collected es).pretty ++ "\n") = some (collected es) := by
  have settled {fields : List (String × Value)} (h : Value.Settled fields) :
      Value.Settled
        (es.foldl (fun fields e => Value.putField e.descriptor e.value fields) fields) := by
    induction es generalizing fields with
    | nil => exact h
    | cons e es ih => exact ih (h.putField e.merged_value)
  have none : Value.Settled [] := ⟨.nil, nofun⟩
  rw [Value.read?_pretty, collected, (settled none).merged]

theorem run_eq {mode : Mode} {ds texts : List String} {es : List Entry}
    (entries : ds.mapM entry = .ok es) (lines : es.mapM (·.lines mode) = .ok texts) :
    run mode ds = .ok {
      exit := if es.any (·.isRejected) then 1 else 0
      stdout := String.join texts ++ if mode = .json then (collected es).pretty ++ "\n" else ""
      stderr := String.join (es.map (·.complaint)) } := by
  rw [run, entries]
  simp only [bind, Except.bind]
  rw [lines]
  rfl

/-- **Each descriptor on its own.** The command comes to an end for all descriptors in every mode.
It fails if any of them is rejected, complains of each that is, and prints each that is not; as an
object it shows each of them once. -/
theorem run_reports (mode : Mode) (ds : List String) :
    ∃ o, run mode ds = .ok o ∧ Reports mode ds o ∧
      ∀ args, request? args = some (.decode mode ds) → answer args = .ok o := by
  obtain ⟨es, entries, rfl, sound⟩ := exists_entries ds
  obtain ⟨texts, lines, each⟩ := Vectors.exists_mapM fun e he => (sound e he).exists_lines mode
  refine ⟨_, run_eq entries lines, ?_, ?_⟩
  · constructor
    · exact if_congr (any_isRejected sound) rfl rfl
    · apply lists_of_shares
      rw [List.forall₂_map_left_iff, List.forall₂_map_right_iff, List.forall₂_same]
      exact fun e he => (sound e he).complaint
    · intro other
      rw [if_neg other, String.append_empty]
      apply lists_of_shares
      rw [List.forall₂_map_left_iff]
      exact each.imp fun _ _ line => line.2 other
    · intro json
      obtain ⟨fields, whole, names, values⟩ := collected_fields es
      rw [if_pos json, join_of_empty (each.imp fun _ _ line => line.1 json), String.empty_append]
      refine ⟨fields, by rw [whole], whole ▸ read?_collected es, names, ?_⟩
      · intro d hd
        obtain ⟨e, he, rfl, found⟩ := values d hd
        exact ⟨e.value, found, (sound e he).value⟩
  · intro args requested
    rw [answer, requested]
    exact run_eq entries lines

/-- The second time round nothing is added to the object, but a complaint is made again. -/
theorem run_reports_repeated :
    ∃ o fields, answer ["--json", "land", "nowhere", "land", "nowhere"] = .ok o ∧ o.exit = 1 ∧
      Lists Complaint ["nowhere", "nowhere"] o.stderr ∧
      Value.Reader.read? o.stdout = some (.object fields) ∧
      fields.map Prod.fst = ["land", "nowhere"] ∧ fields.lookup "nowhere" = some .null ∧
      ∃ shown, fields.lookup "land" = some (.object shown) ∧
        shown.lookup "orientation" = some (.int 2) ∧ shown.lookup "language" = some .null := by
  obtain ⟨o, -, reports, answered⟩ := run_reports .json ["land", "nowhere", "land", "nowhere"]
  obtain ⟨fields, -, shown, names, values⟩ := reports.object rfl
  have rejected : Rejected "nowhere" := ⟨_, rfl⟩
  have accepted : ¬Rejected "land" := not_rejected rfl
  have failed : o.exit = 1 := reports.exit.trans (if_pos ⟨"nowhere", by decide, rejected⟩)
  have complaints := reports.stderr
  simp only [List.filter_cons, List.filter_nil, rejected, accepted, decide_true, decide_false,
    if_true, Bool.false_eq_true, if_false] at complaints
  obtain ⟨v, found, null, -⟩ := values "nowhere" (by decide)
  obtain rfl := null.mpr rejected
  obtain ⟨_, found', -, all⟩ := values "land" (by decide)
  obtain ⟨record, rfl, -, each⟩ := all _ rfl
  obtain ⟨orientation, first, ⟨⟩⟩ := each (.number .orientation)
  obtain ⟨language, second, ⟨⟩⟩ := each (.text .language)
  exact ⟨o, fields, answered _ (by decide), failed, complaints, shown, names.trans (by decide),
    found, record, found', first, second⟩

end Command.Decode
end DeviceQualifier
