import JobRelay.Text.Digits

/-! # Command line grammar

Words on a command line: operands by their place, options by name with a value of their own, and the
flags that ask for help. An option is written `--name value`, `--name=value`, `-n value`, `-nvalue`
or `-n=value`; a word after `--` is an operand whatever it looks like. A value is tested when the
next argument begins, so a fault in how words are put together may be found before it.
-/

namespace JobRelay

/-- Why a command line is not taken. -/
inductive UsageFault where
  | missingArgument
  | unsuitableValue
  | missingValue
  | unneededValue
  | unknownArgument
  | unknownCommand
  | repeatedArgument
  | helpAsked
  | versionAsked
  | nothingGiven
deriving DecidableEq, Repr

/-- The usual name of a fault. -/
def UsageFault.kind : UsageFault → String
  | missingArgument => "MissingRequiredArgument"
  | unsuitableValue => "ValueValidation"
  | missingValue => "InvalidValue"
  | unneededValue => "TooManyValues"
  | unknownArgument => "UnknownArgument"
  | unknownCommand => "InvalidSubcommand"
  | repeatedArgument => "ArgumentConflict"
  | helpAsked => "DisplayHelp"
  | versionAsked => "DisplayVersion"
  | nothingGiven => "DisplayHelpOnMissingArgumentOrSubcommand"

structure Argument where
  name : String
  /-- The letter of an option. -/
  letter : Option Char := none
  /-- The values that are taken. -/
  accepts : String → Bool := fun _ => true
  isRequired : Bool := true

/-- The arguments of a command. -/
structure Grammar where
  operands : List Argument := []
  options : List Argument := []

/-- The values given to arguments, by name. -/
abbrev Values := List (String × String)

namespace Grammar

/-- How far a command line has been read. -/
structure Reading where
  /-- The tested values. -/
  given : Values := []
  /-- The argument last begun, and its value if that has been read. -/
  current : Option (Argument × Option String) := none
  /-- The operands not yet begun. -/
  operands : List Argument

namespace Reading

/-- Keeps the value of an argument, which is given once and has to be taken. -/
def keep (r : Reading) (argument : Argument) (value : String) : Except UsageFault Reading :=
  if r.given.any (·.1 == argument.name) then .error .repeatedArgument
  else if !argument.accepts value then .error .unsuitableValue
  else .ok { r with given := r.given ++ [(argument.name, value)], current := none }

/-- Finishes the argument last begun. -/
def settle (r : Reading) : Except UsageFault Reading :=
  match r.current with
  | none => .ok r
  | some (_, none) => .error .missingValue
  | some (argument, some value) => r.keep argument value

/-- Begins an option, or keeps it at once if its value is attached to it. -/
def beginOption (r : Reading) (option : Argument) (value : Option String) :
    Except UsageFault Reading := do
  let r ← r.settle
  match value with
  | some value => r.keep option value
  | none => return { r with current := some (option, none) }

/-- Asks for help once the argument last begun is finished. -/
def askForHelp (r : Reading) : Except UsageFault Reading := do
  let _ ← r.settle
  throw .helpAsked

/-- Takes a word as the next operand. -/
def takeOperand (r : Reading) (word : String) : Except UsageFault Reading :=
  match r.operands with
  | [] => .error .unknownArgument
  | operand :: operands => do
    let r ← r.settle
    return { r with current := some (operand, some word), operands }

end Reading

/-- A word of an option by name: what stands before and after the equals sign. -/
def splitOption (cs : List Char) : String × Option String :=
  let name := cs.takeWhile (· != '=')
  (String.ofList name,
    if name.length < cs.length then some (String.ofList (cs.drop (name.length + 1))) else none)

/-- Reads an option given by name. -/
def readNamed (g : Grammar) (r : Reading) (cs : List Char) : Except UsageFault Reading :=
  let (name, value) := splitOption cs
  match g.options.find? (·.name == name) with
  | some option => r.beginOption option value
  | none =>
    if name = "help" then
      if value.isSome then .error .unneededValue else r.askForHelp
    else .error .unknownArgument

/-- The value attached to a letter. -/
def attached (cs : List Char) : Option String :=
  match cs with
  | [] => none
  | '=' :: rest => some (String.ofList rest)
  | rest => some (String.ofList rest)

/-- Reads an option given by letter. -/
def readLetter (g : Grammar) (r : Reading) (letter : Char) (rest : List Char) :
    Except UsageFault Reading :=
  match g.options.find? (·.letter == some letter) with
  | some option => r.beginOption option (attached rest)
  | none => if letter = 'h' then r.askForHelp else .error .unknownArgument

/-- Reads the words of a command. -/
def readWords (g : Grammar) (isPlain : Bool) (r : Reading) :
    List String → Except UsageFault Reading
  | [] => r.settle
  | word :: words =>
    if isPlain then do g.readWords true (← r.takeOperand word) words
    else
      match word.toList with
      | ['-', '-'] => g.readWords true r words
      | '-' :: '-' :: cs => do g.readWords false (← g.readNamed r cs) words
      | '-' :: letter :: cs => do g.readWords false (← g.readLetter r letter cs) words
      | _ =>
        match r.current with
        | some (option, none) =>
          g.readWords false { r with current := some (option, some word) } words
        | _ => do g.readWords false (← r.takeOperand word) words

/-- The values that some words give to the arguments. -/
def read (g : Grammar) (words : List String) : Except UsageFault Values := do
  let r ← g.readWords false { operands := g.operands } words
  if (g.operands ++ g.options).any fun a => a.isRequired && !r.given.any (·.1 == a.name) then
    throw .missingArgument
  return r.given

/-- A command word with the words after it, where commands of some names are to be had. -/
def chooseWord (names : List String) (hasVersion : Bool) : List String →
    Except UsageFault (String × List String)
  | [] => .error .nothingGiven
  | word :: words =>
    if names.contains word then .ok (word, words)
    else
      match word.toList with
      | ['-', '-'] =>
        match words with
        | [] => .error .nothingGiven
        | next :: _ => .error (if names.contains next then .unknownArgument else .unknownCommand)
      | '-' :: '-' :: cs =>
        let (name, value) := splitOption cs
        if name = "help" ∨ (hasVersion ∧ name = "version") then
          .error (if value.isSome then .unneededValue
            else if name = "help" then .helpAsked else .versionAsked)
        else .error .unknownArgument
      | '-' :: letter :: _ =>
        .error (if letter = 'h' then .helpAsked
          else if letter = 'V' ∧ hasVersion then .versionAsked else .unknownArgument)
      | _ => .error .unknownCommand

end Grammar

end JobRelay
