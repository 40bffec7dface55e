import ContextualQuery.Command.Arguments
import ContextualQuery.Command.Check
import ContextualQuery.Command.Docs
import ContextualQuery.Command.Translate

/-!
# The command line

What the words of a command line ask for, and what is printed for it.  A query that is not given
as an operand is read from the standard input.
-/

namespace ContextualQuery

/-- What a command line asks for. -/
inductive Command
  | version
  /-- Read a query and show it; the format is named. -/
  | check (query : Option String) (strict : Bool) (format : String) (indent : Nat)
  /-- Translate a query; the options leave the query open. -/
  | sql (query : Option String) (options : TranslateOptions)
  | docs
  | doc (category : String)
deriving DecidableEq, Repr

/-- What a run prints and the code it ends with. -/
structure Outcome where
  code : UInt32 := 0
  output : String := ""
  errors : String := ""
deriving DecidableEq, Repr

namespace Command

/-- The option that every command knows. -/
def verboseRule : OptionRule := { long := "verbose", short := some 'v' }

def checkRules : List OptionRule :=
  [verboseRule, { long := "strict", short := some 's' },
    { long := "format", short := some 't', takesValue := true },
    { long := "indent", takesValue := true }]

def sqlRules : List OptionRule :=
  [verboseRule, { long := "strict" },
    { long := "server-choice", short := some 's', takesValue := true },
    { long := "field", short := some 'f', takesValue := true, repeatable := true },
    { long := "number", short := some 'n', takesValue := true, repeatable := true },
    { long := "first-arg", takesValue := true }]

/-- The operand of a command that may have one. -/
def operand? : List String → Option (Option String)
  | [] => some none
  | [operand] => some (some operand)
  | _ => none

def checkOf? (words : List String) : Option Command := do
  let arguments ← Arguments.read checkRules {} words
  let query ← operand? arguments.operands
  let indent ← arguments.number? "indent" 2
  some (.check query (arguments.has "strict") ((arguments.value? "format").getD "cql") indent)

def sqlOf? (words : List String) : Option Command := do
  let arguments ← Arguments.read sqlRules {} words
  let query ← operand? arguments.operands
  let first ← arguments.number? "first-arg" 1
  some <| .sql query
    { query := "", strict := arguments.has "strict",
      serverChoice := arguments.value? "server-choice", fields := arguments.values "field",
      numbers := arguments.values "number", first }

def docsOf? (words : List String) : Option Command := do
  let arguments ← Arguments.read [verboseRule] {} words
  match arguments.operands with
  | [] => some .docs
  | _ => none

def docOf? (words : List String) : Option Command := do
  let arguments ← Arguments.read [verboseRule] {} words
  match arguments.operands with
  | [category] => some (.doc category)
  | _ => none

/-- The command with a name and the words behind it. -/
def named? (name : String) (words : List String) : Option Command :=
  match name with
  | "check" => checkOf? words
  | "sql" => sqlOf? words
  | "docs" => docsOf? words
  | "doc" => docOf? words
  | _ => none

/-- What letters in front of the command's name ask for. -/
inductive Leading
  /-- Nothing but, perhaps, verbosity. -/
  | verbose (given : Bool)
  | version
deriving DecidableEq, Repr

/-- Reads letters in front of the command's name. -/
def leadingLetters (given : Bool) : List Char → Option Leading
  | [] => some (.verbose given)
  | 'v' :: rest => if given then none else leadingLetters true rest
  | 'V' :: _ => some .version
  | _ => none

/-- Reads one word in front of the command's name. -/
def leadingWord (given : Bool) : ArgumentForm → Option Leading
  | .long "verbose" none => if given then none else some (.verbose true)
  | .long "version" none => some .version
  | .letters characters => leadingLetters given characters
  | _ => none

/-- The command that the words of a command line ask for, given whether they asked for verbosity
so far. -/
def read (given : Bool) : List String → Option Command
  | [] => none
  | word :: rest =>
    if ArgumentForm.ofWord word = .operand then named? word rest
    else
      match leadingWord given (ArgumentForm.ofWord word) with
      | none => none
      | some .version => some .version
      | some (.verbose given) => read given rest

/-- The command that the words of a command line ask for. -/
def ofWords? (words : List String) : Option Command := read false words

/-- The query given as an operand, or else the standard input. -/
def queryText (query : Option String) (input : List UInt8) : Except CommandError String :=
  match query with
  | some text => .ok text
  | none =>
    match Utf8.text? input with
    | some text => .ok text
    | none => .error .notText

/-- What a command prints, or why it does not. -/
def output (input : List UInt8) : Command → Except CommandError String
  | .version => .ok "cql 0.1.0\n"
  | .check query strict format indent => do
    let query ← queryText query input
    let format ← Format.ofName format
    let rendering ← CheckOptions.run { query, strict, format, indent }
    .ok (rendering.output indent)
  | .sql query options => do
    let query ← queryText query input
    let statement ← TranslateOptions.run { options with query }
    .ok (options.output statement)
  | .docs => .ok Docs.overview
  | .doc category => Docs.page category

/-- The reminder printed where the words of a command line ask for nothing. -/
def usage : String := "Usage: cql [-v] check|sql|docs|doc [OPTIONS] [OPERAND]\n"

/-- A run of the command line: 0 and the output, 1 and the error, or 2 where the words ask for
nothing. -/
def run (words : List String) (input : List UInt8) : Outcome :=
  match ofWords? words with
  | none => { code := 2, errors := usage }
  | some command =>
    match command.output input with
    | .ok text => { output := text }
    | .error error => { code := 1, errors := error.message ++ "\n" }

end Command
end ContextualQuery
