/-!
# Command-line arguments

The words behind a command are options and operands in any order.  An option has a long name,
behind two hyphens, and perhaps a letter, behind one; letters may stand in one word.  A value
stands in the same word, with or without an equals sign behind a letter, or in the next word
unless that looks like an option.  Behind a word of two hyphens there are only operands.
-/

namespace ContextualQuery

/-- An option that a command knows. -/
structure OptionRule where
  /-- The name behind two hyphens. -/
  long : String
  /-- The letter behind one hyphen. -/
  short : Option Char := none
  takesValue : Bool := false
  repeatable : Bool := false
deriving DecidableEq, Repr

/-- The form of one word of a command line. -/
inductive ArgumentForm
  | operand
  /-- The word behind which there are only operands. -/
  | terminator
  /-- A long name, perhaps with a value. -/
  | long (name : String) (value : Option String)
  /-- Letters, perhaps with a value behind the last one. -/
  | letters (characters : List Char)
deriving DecidableEq, Repr

namespace ArgumentForm

/-- The form of a word; a hyphen alone is an operand. -/
def ofWord (word : String) : ArgumentForm :=
  match word.toList with
  | ['-', '-'] => .terminator
  | '-' :: '-' :: name =>
    let value := match name.dropWhile (· != '=') with
      | [] => none
      | _ :: value => some (String.ofList value)
    .long (String.ofList (name.takeWhile (· != '='))) value
  | '-' :: c :: rest => .letters (c :: rest)
  | _ => .operand

end ArgumentForm

/-- The options and operands of a command. -/
structure Arguments where
  /-- The long name of each option given, with its value, in the order given. -/
  options : List (String × String) := []
  operands : List String := []
deriving DecidableEq, Repr

namespace Arguments

/-- Adds an option, unless it may not be given again. -/
def addOption? (arguments : Arguments) (rule : OptionRule) (value : String) : Option Arguments :=
  if !rule.repeatable && (arguments.options.lookup rule.long).isSome then none
  else some { arguments with options := arguments.options ++ [(rule.long, value)] }

/-- Adds an operand. -/
def addOperand (arguments : Arguments) (operand : String) : Arguments :=
  { arguments with operands := arguments.operands ++ [operand] }

/-- Reads letters.  A letter whose option has a value takes the rest of the word for it; if there
is no rest, the option is handed on to wait for the next word. -/
def readLetters (rules : List OptionRule) (arguments : Arguments) :
    List Char → Option (Arguments × Option OptionRule)
  | [] => some (arguments, none)
  | letter :: rest => do
    let rule ← rules.find? (·.short == some letter)
    if rule.takesValue then
      match rest with
      | [] => some (arguments, some rule)
      | '=' :: value =>
        let arguments ← arguments.addOption? rule (String.ofList value)
        some (arguments, none)
      | value =>
        let arguments ← arguments.addOption? rule (String.ofList value)
        some (arguments, none)
    else
      let arguments ← arguments.addOption? rule ""
      readLetters rules arguments rest

/-- Reads a long name.  An option with a value but none in the word waits for the next word. -/
def readLong (rules : List OptionRule) (arguments : Arguments) (name : String)
    (value : Option String) : Option (Arguments × Option OptionRule) := do
  let rule ← rules.find? (·.long == name)
  match rule.takesValue, value with
  | true, some value =>
    let arguments ← arguments.addOption? rule value
    some (arguments, none)
  | true, none => some (arguments, some rule)
  | false, some _ => none
  | false, none =>
    let arguments ← arguments.addOption? rule ""
    some (arguments, none)

/-- Reads one word that is no terminator. -/
def readWord (rules : List OptionRule) (arguments : Arguments) (word : String) :
    Option (Arguments × Option OptionRule) :=
  match ArgumentForm.ofWord word with
  | .operand | .terminator => some (arguments.addOperand word, none)
  | .long name value => arguments.readLong rules name value
  | .letters characters => arguments.readLetters rules characters

/-- Reads the words behind a command; nothing where they do not follow the rules. -/
def read (rules : List OptionRule) (arguments : Arguments) : List String → Option Arguments
  | [] => some arguments
  | word :: rest =>
    if ArgumentForm.ofWord word = .terminator then some (rest.foldl addOperand arguments)
    else
      match arguments.readWord rules word with
      | none => none
      | some (arguments, none) => arguments.read rules rest
      | some (arguments, some rule) =>
        match rest with
        | [] => none
        | value :: rest =>
          if ArgumentForm.ofWord value = .operand then
            match arguments.addOption? rule value with
            | none => none
            | some arguments => arguments.read rules rest
          else none

/-- Whether an option is given. -/
def has (arguments : Arguments) (name : String) : Bool :=
  (arguments.options.lookup name).isSome

/-- The value of an option that is given at most once. -/
def value? (arguments : Arguments) (name : String) : Option String :=
  arguments.options.lookup name

/-- The values of an option in the order given. -/
def values (arguments : Arguments) (name : String) : List String :=
  (arguments.options.filter (·.1 == name)).map (·.2)

/-- The number that a value spells, with at most one plus sign in front and at most 64 bits. -/
def natural? (text : String) : Option Nat :=
  let digits := match text.toList with
    | '+' :: rest => rest
    | digits => digits
  if digits.isEmpty || !digits.all Char.isDigit then none
  else
    let value := digits.foldl (fun value c => value * 10 + (c.toNat - '0'.toNat)) 0
    if value < Nat.pow 2 64 then some value else none

/-- The number given for an option, or the default where it is not given. -/
def number? (arguments : Arguments) (name : String) (default : Nat) : Option Nat :=
  match arguments.value? name with
  | none => some default
  | some text => natural? text

end Arguments
end ContextualQuery
