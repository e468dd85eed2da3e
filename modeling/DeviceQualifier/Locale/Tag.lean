import DeviceQualifier.Locale.Subtag

/-!
Tags that write a locale as subtags joined by plus signs. The count and the lengths of the subtags
decide which kind each has to be; the kinds are then checked from left to right, and what was
accepted before the first fault stays stored.
-/
namespace DeviceQualifier.Locale

inductive TagFault where
  | emptySubtag
  | notOfKind (part : Part) (subtag : String)
  | wrongLength (subtag : String)
  | neitherScriptNorRegion (subtag : String)
  | subtagCount (count : Nat)
  deriving DecidableEq, Repr

def TagFault.message : TagFault → String
  | emptySubtag => "empty subtag"
  | notOfKind part subtag => part.name ++ " subtag '" ++ subtag ++ "' is not valid"
  | wrongLength subtag =>
    "subtag '" ++ subtag ++ "' has invalid length " ++ toString subtag.toList.length
  | neitherScriptNorRegion subtag => "subtag '" ++ subtag ++ "' is neither script nor region"
  | subtagCount count => "expected 1-4 subtags, got " ++ toString count

structure TagError where
  tag : String
  fault : TagFault
  deriving DecidableEq, Repr

/-- The text of a tag error; a reason may be missing. -/
def malformedTag (tag : String) (reason : Option String) : String :=
  "Malformed locale tag '" ++ tag ++ "': " ++ reason.getD "None"

def TagError.message (e : TagError) : String := malformedTag e.tag (some e.fault.message)

/-- What a tag demands of its next subtag. -/
inductive Demand where
  | kind (part : Part) (subtag : String)
  | refuse (fault : TagFault)
  deriving DecidableEq, Repr

/-- In a tag of two subtags the second is a region, a script or a variant. -/
def demandSecond (s : String) : Demand :=
  let cs := s.toList
  let n := cs.length
  if n = 2 ∨ n = 3 then .kind .region s
  else if n = 4 ∧ !((cs.head?.map isDigit).getD false) then .kind .script s
  else if 4 ≤ n ∧ n ≤ 8 then .kind .variant s
  else .refuse (.wrongLength s)

/-- In a tag of three subtags the second is a script or a region. -/
def demandMiddle (s : String) : Demand :=
  let n := s.toList.length
  if n = 4 then .kind .script s
  else if n = 2 ∨ n = 3 then .kind .region s
  else .refuse (.neitherScriptNorRegion s)

/-- In a tag of three subtags the last is a variant or a region. -/
def demandLast (s : String) : Demand :=
  if 4 ≤ s.toList.length then .kind .variant s else .kind .region s

def demands (subtags : List String) : List Demand :=
  if subtags.any (· == "") then [.refuse .emptySubtag]
  else
    match subtags with
    | [a] => [.kind .language a]
    | [a, b] => [.kind .language a, demandSecond b]
    | [a, b, c] => [.kind .language a, demandMiddle b, demandLast c]
    | [a, b, c, d] =>
      [.kind .language a, .kind .script b, .kind .region c, .kind .variant d]
    | _ => [.refuse (.subtagCount subtags.length)]

/-- The subtags accepted before the first fault, and that fault if there is one. -/
def meet : List Demand → List (Part × String) × Option TagFault
  | [] => ([], none)
  | .refuse fault :: _ => ([], some fault)
  | .kind part subtag :: rest =>
    if part.accepts subtag then
      let (stored, fault) := meet rest
      ((part, subtag) :: stored, fault)
    else ([], some (.notOfKind part subtag))

/-- The text after the mark of a tag. -/
def tagBody? (s : String) : Option (List Char) :=
  match s.toList with
  | 'b' :: '+' :: body => some body
  | _ => none

def subtags (body : List Char) : List String :=
  ((Text.lowerChars body).splitOn '+').map String.ofList

end DeviceQualifier.Locale
