import RuleElements.Text.Numeral
import RuleElements.Text.Split

/-!
# Commands

What the program can be asked to do, and how it is asked. The words after the name of a command are
operands, flags, and options that take a value. The value of `--name` is the next word, whatever it
looks like, or stands behind an equals sign; that of a one-letter option may follow at once. After
`--` all words are operands.

Main definitions:
* `Grammar`: the flags and options that a command knows.
* `Grammar.read?`: the words in their roles.
* `Command`: the four commands.
* `Invocation.read?`: the command that the words of a command line stand for.
-/

namespace RuleElements

/-! ## The words of a command line -/

/-- The flags of a command, and its options with a value. -/
structure Grammar where
  flags : List String := []
  options : List String := []
  deriving Repr, Inhabited

/-- Words in their roles, each in order. -/
structure Words where
  operands : List String := []
  flags : List String := []
  /-- options with their values -/
  values : List (String × String) := []
  deriving DecidableEq, Repr, Inhabited

namespace Words

/-- The words with a further operand in front. -/
def operand (w : Words) (word : String) : Words := { w with operands := word :: w.operands }

/-- The words with a further flag in front. -/
def flag (w : Words) (name : String) : Words := { w with flags := name :: w.flags }

/-- The words with a further option in front. -/
def value (w : Words) (name text : String) : Words := { w with values := (name, text) :: w.values }

/-- The values of an option under any of its names. -/
def valuesOf (w : Words) (names : List String) : List String :=
  (w.values.filter fun (name, _) => names.contains name).map (·.2)

/-- The value of an option that counts: the last one. -/
def lastValue? (w : Words) (name : String) : Option String := (w.valuesOf [name]).getLast?

end Words

/-- The role of a word. -/
inductive Role
  | operand
  | flag (name : String)
  /-- an option, with its value if that stands in the same word -/
  | option (name : String) (value : Option String)
  | unknown
  deriving DecidableEq, Repr

namespace Grammar

/-- Whether a word is marked as an option. -/
def isMarked (word : String) : Bool := word.toList.head? == some '-' && word ≠ "-"

/-- The part of a word before an equals sign, and the part after it if there is one. -/
def splitValue (word : String) : String × Option String :=
  let name := word.toList.takeWhile (· ≠ '=')
  (String.ofList name,
    match word.toList.drop name.length with
    | [] => none
    | _ :: value => some (String.ofList value))

/-- The role of a word that is a one-letter option, perhaps with its value at once. -/
def shortRole (g : Grammar) (word : String) : Role :=
  let name := String.ofList (word.toList.take 2)
  if g.options.contains name then
    .option name
      (match word.toList.drop 2 with
        | [] => none
        | value => some (String.ofList value))
  else .unknown

/-- The role of a word. -/
def role (g : Grammar) (word : String) : Role :=
  if !isMarked word then .operand
  else if Text.startsWith word "--" then
    match splitValue word with
    | (name, value) =>
      if g.options.contains name then .option name value
      else if g.flags.contains name && value.isNone then .flag name
      else .unknown
  else g.shortRole word

/-- The words in their roles; nothing if one is not known or a value is missing. -/
def read? (g : Grammar) : List String → Option Words
  | [] => some {}
  | word :: rest =>
    if word = "--" then some { operands := rest }
    else
      match g.role word with
      | .operand => (g.read? rest).map (·.operand word)
      | .flag name => (g.read? rest).map (·.flag name)
      | .option name (some value) => (g.read? rest).map (·.value name value)
      | .option name none =>
        match rest with
        | [] => none
        | value :: rest => (g.read? rest).map (·.value name value)
      | .unknown => none

end Grammar

/-! ## Commands -/

/-- What the program is asked to do. -/
inductive Command
  /-- builds the sheet of a character -/
  | sheet (character : String) (content : Option String) (options : List String) (asJson : Bool)
  /-- processes all sources at a path, at a level -/
  | process (path : String) (level : Int)
  /-- checks files with sources; strictly, leniently, or as the settings say -/
  | validate (paths : List String) (strict : Option Bool)
  /-- lists the kinds of rule elements -/
  | kinds
  deriving DecidableEq, Repr

/-- A command, with the settings to use unless they are the user's own. -/
structure Invocation where
  command : Command
  settings : Option String := none
  deriving DecidableEq, Repr

namespace Invocation

/-- How the words after the name of a command are read. -/
def grammar? : String → Option Grammar
  | "sheet" =>
    some { flags := ["--json"], options := ["--content", "--option", "-o", "--settings"] }
  | "process" => some { options := ["--level", "--settings"] }
  | "validate" => some { flags := ["--strict", "--lenient"], options := ["--settings"] }
  | "kinds" => some {}
  | _ => none

/-- The command with a name and words. -/
def command? (name : String) (w : Words) : Option Command :=
  match name, w.operands with
  | "sheet", [character] =>
    some (.sheet character (w.lastValue? "--content") (w.valuesOf ["--option", "-o"])
      (w.flags.contains "--json"))
  | "process", [path] =>
    match w.lastValue? "--level" with
    | none => some (.process path 1)
    | some level => (Text.readInteger? level).map (Command.process path)
  | "validate", path :: more =>
    some (.validate (path :: more) (w.flags.getLast?.map (· == "--strict")))
  | "kinds", [] => some .kinds
  | _, _ => none

/-- The command that the words of a command line stand for, if they stand for one. -/
def read? : List String → Option Invocation
  | [] => none
  | name :: rest => do
    let words ← (← grammar? name).read? rest
    return { command := ← command? name words, settings := words.lastValue? "--settings" }

end Invocation

end RuleElements
