/-!
A locale as four optional parts. `part_setPart` says that a write to one part reads back and leaves
the others alone.
-/
namespace DeviceQualifier

inductive Locale.Part where
  | language | region | script | variant
  deriving DecidableEq, Repr

/-- What is absent is not specified. -/
structure Locale where
  language : Option String
  region : Option String
  script : Option String
  variant : Option String
  deriving DecidableEq, Repr

namespace Locale

def unspecified : Locale := ⟨none, none, none, none⟩

def part (l : Locale) : Part → Option String
  | .language => l.language
  | .region => l.region
  | .script => l.script
  | .variant => l.variant

def setPart (l : Locale) (p : Part) (s : Option String) : Locale :=
  match p with
  | .language => { l with language := s }
  | .region => { l with region := s }
  | .script => { l with script := s }
  | .variant => { l with variant := s }

/-- No part holds any text. -/
def isEmpty (l : Locale) : Bool :=
  [Part.language, .region, .script, .variant].all fun p => (l.part p).getD "" == ""

theorem part_setPart (l : Locale) (p q : Part) (s : Option String) :
    (l.setPart p s).part q = if q = p then s else l.part q := by
  cases p <;> cases q <;> rfl

theorem ext_part {l k : Locale} (h : ∀ p, l.part p = k.part p) : l = k := by
  cases l
  cases k
  have hl := h .language
  have hr := h .region
  have hs := h .script
  have hv := h .variant
  simp only [part] at hl hr hs hv
  rw [hl, hr, hs, hv]

end Locale
end DeviceQualifier
