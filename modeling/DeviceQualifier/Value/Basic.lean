import DeviceQualifier.Value.Double

/-!
Document values: what a vector document may hold at any place. An object keeps its fields in
document order. Text is made of whole characters, so half of one that takes two units is no text.
-/
namespace DeviceQualifier

inductive Value where
  | null
  | bool (b : Bool)
  | int (n : Int)
  | real (d : Double)
  | text (s : String)
  | list (items : List Value)
  | object (fields : List (String × Value))
  deriving Repr, Inhabited

namespace Value

/-- The marks of written text: it stands between two quotes, and a backslash starts an escape. -/
def quote : Char := Char.ofNat 0x22
def backslash : Char := Char.ofNat 0x5C

/-- Null, false, zero and whatever is empty do not count as true. -/
def truthy : Value → Bool
  | null => false
  | bool b => b
  | int n => n != 0
  | real (.finite _ size) => size.count != 0
  | real _ => true
  | text s => s != ""
  | list items => !items.isEmpty
  | object fields => !fields.isEmpty

/-- The integer that a value is equal to. Truth values count as one and zero. -/
def whole? : Value → Option Int
  | bool b => some (if b then 1 else 0)
  | int n => some n
  | real d => d.whole?
  | _ => none

def field? (name : String) : Value → Option Value
  | object fields => fields.lookup name
  | _ => none

/-- A name that is already there keeps its place and takes the new value. -/
def putField (name : String) (v : Value) : List (String × Value) → List (String × Value)
  | [] => [(name, v)]
  | (other, w) :: rest =>
    if other = name then (name, v) :: rest else (other, w) :: putField name v rest

theorem lookup_putField (name other : String) (v : Value) (fields : List (String × Value)) :
    (putField name v fields).lookup other =
      if other = name then some v else fields.lookup other := by
  have differs {a b : String} (h : ¬a = b) : (a == b) = false := beq_eq_false_iff_ne.mpr h
  induction fields with
  | nil =>
    rw [putField, List.lookup_cons]
    by_cases h : other = name
    · simp [h]
    · rw [differs h, if_neg h]
  | cons entry rest ih =>
    obtain ⟨known, w⟩ := entry
    rw [putField]
    by_cases hk : known = name
    · subst hk
      rw [if_pos rfl, List.lookup_cons, List.lookup_cons]
      by_cases h : other = known
      · simp [h]
      · rw [differs h, if_neg h]
    · rw [if_neg hk, List.lookup_cons, List.lookup_cons, ih]
      by_cases h : other = known
      · subst h
        simp [hk]
      · rw [differs h]

def isObject : Value → Bool
  | object _ => true
  | _ => false

def isText : Value → Bool
  | text _ => true
  | _ => false

def isBool : Value → Bool
  | bool _ => true
  | _ => false

mutual
/-- Every object with its fields in the order of their names. -/
def sortFields : Value → Value
  | list items => list (sortItems items)
  | object fields => object ((sortEntries fields).mergeSort fun a b => decide (a.1 ≤ b.1))
  | v => v

def sortItems : List Value → List Value
  | [] => []
  | v :: rest => sortFields v :: sortItems rest

def sortEntries : List (String × Value) → List (String × Value)
  | [] => []
  | (name, v) :: rest => (name, sortFields v) :: sortEntries rest
end

end Value
end DeviceQualifier
