import DeviceQualifier.Text.CaseContext
import DeviceQualifier.Text.CaseTable

/-!
Full case mapping of text. Only the capital sigma depends on its neighbours: it becomes the final
small form where a word ends. ASCII text maps letter by letter, without the tables.
-/
namespace DeviceQualifier.Text

namespace Case

def mapOutsideAscii (paired : PairRun → Nat → Option Nat) (oneWay : List (Nat × List Nat))
    (c : Char) : List Char :=
  match pairRuns.findSome? (paired · c.toNat) with
  | some n => [Char.ofNat n]
  | none =>
    match oneWay.lookup c.toNat with
    | some ns => ns.map Char.ofNat
    | none => [c]

def lowerChar (c : Char) : List Char :=
  if c.toNat < 128 then [c.toLower] else mapOutsideAscii PairRun.lower? oneWayLower c

def upperChar (c : Char) : List Char :=
  if c.toNat < 128 then [c.toUpper] else mapOutsideAscii PairRun.upper? oneWayUpper c

/-- The nearest character that counts is a cased letter. -/
def touchesCased (cs : List Char) : Bool :=
  ((cs.find? (!isIgnorable ·)).map isCased).getD false

/-- A sigma ends a word when a cased letter stands before it and none after it. `before` is read
from the sigma backwards. -/
def endsWord (before after : List Char) : Bool :=
  touchesCased before && !touchesCased after

def capitalSigma : Char := Char.ofNat 0x03A3
def smallSigma : Char := Char.ofNat 0x03C3
def finalSigma : Char := Char.ofNat 0x03C2

/-- Lower-cases the text that follows `before`, which is read backwards. -/
def lowerFrom (before : List Char) : List Char → List Char
  | [] => []
  | c :: rest =>
    (if c = capitalSigma then [if endsWord before rest then finalSigma else smallSigma]
      else lowerChar c) ++ lowerFrom (c :: before) rest

end Case

def lowerChars (cs : List Char) : List Char := Case.lowerFrom [] cs

def upperChars (cs : List Char) : List Char := cs.flatMap Case.upperChar

def lower (s : String) : String := String.ofList (lowerChars s.toList)

def upper (s : String) : String := String.ofList (upperChars s.toList)

/-- The first character in upper case and the rest in lower case. -/
def capitalize (s : String) : String :=
  String.ofList (upperChars (s.toList.take 1) ++ lowerChars (s.toList.drop 1))

theorem Case.lowerFrom_of_ascii (before cs : List Char) (h : ∀ c ∈ cs, c.toNat < 128) :
    lowerFrom before cs = cs.map Char.toLower := by
  induction cs generalizing before with
  | nil => rfl
  | cons c rest ih =>
    have hc : c.toNat < 128 := h c List.mem_cons_self
    have hs : c ≠ capitalSigma := by
      rintro rfl
      exact absurd hc (by decide)
    have hr := ih (c :: before) fun d hd => h d (List.mem_cons_of_mem _ hd)
    rw [lowerFrom, if_neg hs, lowerChar, if_pos hc, hr]
    rfl

/-- Text within ASCII is lower-cased letter by letter. -/
theorem lowerChars_of_ascii {cs : List Char} (h : ∀ c ∈ cs, c.toNat < 128) :
    lowerChars cs = cs.map Char.toLower :=
  Case.lowerFrom_of_ascii [] cs h

theorem upperChars_of_ascii {cs : List Char} (h : ∀ c ∈ cs, c.toNat < 128) :
    upperChars cs = cs.map Char.toUpper := by
  induction cs with
  | nil => rfl
  | cons c rest ih =>
    have hc : c.toNat < 128 := h c List.mem_cons_self
    have hr := ih fun d hd => h d (List.mem_cons_of_mem _ hd)
    rw [upperChars] at hr ⊢
    rw [List.flatMap_cons, hr, Case.upperChar, if_pos hc]
    rfl

end DeviceQualifier.Text
