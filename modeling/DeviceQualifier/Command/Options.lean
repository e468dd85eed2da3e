import DeviceQualifier.Text.Numeral

/-!
The grammar of command arguments. Switches may stand anywhere and be cut short, two hyphens end
them, and the operands have to stand together.
-/
namespace DeviceQualifier.Command

/-- The spellings of switches: one hyphen and a letter, or two hyphens and a word. -/
abbrev Switches (α : Type) := List (String × α)

/-- What an argument is. -/
inductive Piece (α : Type) where
  | operand (text : String)
  /-- The two hyphens after which everything is an operand. -/
  | terminator
  | switches (flags : List α)
  | refused
  deriving Repr

namespace Piece

variable {α : Type}

def isSwitch : Piece α → Bool
  | switches _ => true
  | _ => false

def isRefused : Piece α → Bool
  | refused => true
  | _ => false

def operand? : Piece α → Option String
  | operand text => some text
  | _ => none

def flags : Piece α → List α
  | switches fs => fs
  | _ => []

/-- A negative number: digits after a hyphen, with or without a point before the last of them. A
line end after the number does not count. -/
def isNegativeNumber (cs : List Char) : Bool :=
  let isDigit (c : Char) : Bool := (Text.Numeral.digit? c).isSome
  let cs := if cs.getLast? = some '\n' then cs.dropLast else cs
  match cs with
  | '-' :: rest =>
    match rest.dropWhile isDigit with
    | [] => !rest.isEmpty
    | '.' :: fraction => fraction.all isDigit && !fraction.isEmpty
    | _ => false
  | _ => false

/-- Letters each of which is a switch of its own. -/
def ofLetters (known : Switches α) (letters : List Char) : Piece α :=
  match letters.mapM fun c => known.lookup (String.ofList ['-', c]) with
  | some flags => switches flags
  | none => refused

/-- What follows one hyphen. An equals sign after the first letter is passed over if letters come
after it. -/
def cluster (known : Switches α) : List Char → Piece α
  | [_, '='] => refused
  | letter :: '=' :: letters => ofLetters known (letter :: letters)
  | letters => ofLetters known letters

/-- What an argument is that is no switch. -/
def plain (arg : String) : Piece α :=
  if isNegativeNumber arg.toList || arg.toList.contains ' ' then operand arg else refused

/-- The switches that an argument may be short for. No switch takes a value. -/
def shortened (known : Switches α) (arg : String) : Piece α :=
  let name := arg.toList.takeWhile (· != '=')
  match known.filter fun (spelling, _) => name.isPrefixOf spelling.toList with
  | [] => plain arg
  | [(_, flag)] => if name = arg.toList then switches [flag] else refused
  | _ => refused

/-- Classifies an argument that stands before any terminator. -/
def ofArgument (known : Switches α) (arg : String) : Piece α :=
  match known.lookup arg with
  | some flag => switches [flag]
  | none =>
    match arg.toList with
    | '-' :: '-' :: _ => shortened known arg
    | ['-'] => operand arg
    | '-' :: letter :: rest =>
      if (known.lookup (String.ofList ['-', letter])).isSome then cluster known (letter :: rest)
      else plain arg
    | _ => operand arg

def ofArguments (known : Switches α) (args : List String) : List (Piece α) :=
  (args.takeWhile (· != "--")).map (ofArgument known) ++
    match args.dropWhile (· != "--") with
    | [] => []
    | _ :: rest => terminator :: rest.map operand

end Piece

/-- Flags and operands, unless an argument is refused or the operands are parted by switches. -/
def parse {α : Type} (known : Switches α) (args : List String) : Option (List α × List String) :=
  let pieces := Piece.ofArguments known args
  if pieces.any Piece.isRefused then none
  else
    match (pieces.splitOnP Piece.isSwitch).filter (!·.isEmpty) with
    | [] => some (pieces.flatMap Piece.flags, [])
    | [run] => some (pieces.flatMap Piece.flags, run.filterMap Piece.operand?)
    | _ => none

/-- What a command leaves behind. -/
structure Outcome where
  exit : Nat
  stdout : String
  stderr : String
  deriving DecidableEq, Repr

def Outcome.refused (usage : String) : Outcome := ⟨2, "", usage⟩

end DeviceQualifier.Command
