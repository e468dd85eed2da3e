import DeviceQualifier.Locale.Tag

/-!
Reading a locale from the tokens at a place: a tag, or a bare language that a region token may
follow. What a reading stores does not depend on the locale it is stored into; it overlays it. A
locale in use stores each subtag as soon as it is accepted.
-/
namespace DeviceQualifier.Locale

/-- The subtags to store, in order, with the count of tokens taken or the fault that ended it. -/
structure Reading where
  stored : List (Part × String)
  outcome : Except TagError Nat

namespace Reading

/-- Nothing at this place is a locale. -/
def absent : Reading := ⟨[], .ok 0⟩

def ofTag (tag : String) (body : List Char) : Reading :=
  let (stored, fault) := meet (demands (subtags body))
  match fault with
  | none => ⟨stored, .ok 1⟩
  | some fault => ⟨stored, .error ⟨tag, fault⟩⟩

/-- Words that have the shape of a language but name something else. -/
def reserved : List String := ["car"]

/-- A bare language word. -/
def isLanguageWord (s : String) : Bool := isLanguage s.toList && !reserved.contains s

/-- The region of a token that is the letter r with two letters or digits. -/
def regionOfToken? (s : String) : Option String :=
  match s.toList with
  | ['r', a, b] =>
    if isLetterOrDigit a && isLetterOrDigit b then some (String.ofList [a, b]) else none
  | _ => none

def ofWord (word : String) (rest : List String) : Reading :=
  match rest.head?.bind regionOfToken? with
  | some region => ⟨[(.language, word), (.region, region)], .ok 2⟩
  | none => ⟨[(.language, word)], .ok 1⟩

/-- Reads from the first token on. -/
def ofTokens : List String → Reading
  | [] => absent
  | token :: rest =>
    match tagBody? token with
    | some body => ofTag token body
    | none => if isLanguageWord token then ofWord token rest else absent

/-- The locale with everything stored over it. -/
def onto (r : Reading) (l : Locale) : Locale :=
  r.stored.foldl (fun l (p, s) => l.store p s) l

end Reading

/-- Meets demands one by one and stores each subtag as soon as it is accepted. -/
def meetInto (l : Locale) : List Demand → Locale × Option TagFault
  | [] => (l, none)
  | .refuse fault :: _ => (l, some fault)
  | .kind part subtag :: rest =>
    if part.accepts subtag then meetInto (l.store part subtag) rest
    else (l, some (.notOfKind part subtag))

/-- Reads into a locale that may hold something already. A fault keeps what was stored before it. -/
def readInto (l : Locale) : List String → Locale × Except TagError Nat
  | [] => (l, .ok 0)
  | token :: rest =>
    match tagBody? token with
    | some body =>
      match meetInto l (demands (subtags body)) with
      | (l, none) => (l, .ok 1)
      | (l, some fault) => (l, .error ⟨token, fault⟩)
    | none =>
      if Reading.isLanguageWord token then
        match rest.head?.bind Reading.regionOfToken? with
        | some region => ((l.store .language token).store .region region, .ok 2)
        | none => (l.store .language token, .ok 1)
      else (l, .ok 0)

end DeviceQualifier.Locale
