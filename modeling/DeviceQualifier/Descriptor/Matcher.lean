import DeviceQualifier.Descriptor.Rule

/-!
A matcher is a rule with the name of its category. An attempt applies to a configuration what the
rule recognises at the cursor.
-/
namespace DeviceQualifier.Descriptor

structure Matcher where
  name : String
  rule : Rule
  deriving DecidableEq, Repr

namespace Matcher

def describe (m : Matcher) : String := m.rule.label ++ "(" ++ Text.Quoted.render m.name ++ ")"

def recognize (m : Matcher) (tokens : List String) : Except Fault (Option Match) :=
  m.rule.recognize tokens

/-- The count of tokens taken from the front, zero if none is recognised, and the configuration
after it. -/
def attempt (m : Matcher) (tokens : List String) (r : Config) : Except Fault (Nat × Config) :=
  (m.recognize tokens).map fun
    | none => (0, r)
    | some found => (found.taken, found.apply r)

end Matcher
end DeviceQualifier.Descriptor
