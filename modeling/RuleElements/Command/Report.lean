import RuleElements.Character.Sheet
import RuleElements.Json.Writer
import RuleElements.Library.Disk
import RuleElements.Settings

/-!
# Reports

What a run of the program does, as a value: the files it makes, what it prints, what it logs, and
how it ends. A character sheet is printed as a table for the reader: what every character has comes
first, then dice, statistics, choices still to be made, and toggles.

Main definitions:
* `Report`: what a run does.
* `Sheet.table`: a sheet as a table.
-/

namespace RuleElements

/-- A table with two columns, `Field` and `Value`. -/
structure Table where
  title : String
  rows : List (String × String)
  deriving Repr, Inhabited

namespace Table

/-- A text with blanks up to a width. -/
def pad (width : Nat) (s : String) : String :=
  s ++ String.ofList (List.replicate (width - s.length) ' ')

/-- The table as lines. -/
def lines (t : Table) : List String :=
  let rows := ("Field", "Value") :: t.rows
  let width := rows.foldl (fun width row => max width row.1.length) 0
  t.title :: rows.map fun (field, value) => pad width field ++ "  " ++ value

end Table

/-- A piece of what is printed. -/
inductive Piece
  | line (text : String)
  | json (value : Data)
  | table (table : Table)
  deriving Repr, Inhabited

/-- The text of a piece. -/
def Piece.text : Piece → String
  | .line s => s
  | .json value => Json.write .plainIndented value
  | .table t => "\n".intercalate t.lines

/-- How a run ends. -/
inductive Ending
  | done
  /-- what was checked has errors -/
  | rejected
  | failed (fault : Fault)
  /-- the words of the command line stand for no command -/
  | misused
  deriving Repr, Inhabited

/-- The exit code. -/
def Ending.exitCode : Ending → Nat
  | .done => 0
  | .rejected => 1
  | .failed _ => 1
  | .misused => 2

/-- What a run of the program does. -/
structure Report where
  /-- the files that it makes -/
  files : List File := []
  log : List LogLine := []
  printed : List Piece := []
  errors : List String := []
  ending : Ending := .done
  deriving Repr, Inhabited

namespace Report

/-- The report of a run that fails. -/
def failed (fault : Fault) (log : List LogLine) : Report := { log, ending := .failed fault }

/-- The report with only those lines of the log that the settings ask for. -/
def under (r : Report) (settings : Settings) : Report :=
  { r with log := r.log.filter settings.reports }

/-- The path under which parts of the engine are named in log lines. -/
def logScope : String := "pfbuilder.engine."

/-- What is printed beside the results: the log, and the errors that were found. -/
def sideLines (r : Report) : List String :=
  r.log.map (LogLine.render logScope) ++ r.errors.map ("ERROR " ++ ·)

/-- What is said at the end of a run that does not come to its end. -/
def endingLines (r : Report) : List String :=
  match r.ending with
  | .failed fault => ["Error: " ++ fault.message]
  | .misused =>
    ["Usage: sheet CHARACTER [--content PATH] [--option TEXT]... [--json] [--settings PATH]",
      "       process PATH [--level N] [--settings PATH]",
      "       validate PATH... [--strict | --lenient] [--settings PATH]",
      "       kinds"]
  | _ => []

end Report

/-! ## The table of a sheet -/

/-- The texts of a cell, or a dash if there is nothing to show. -/
def Table.cell (parts : List String) : String :=
  let text := ", ".intercalate parts
  if text = "" then "-" else text

namespace Sheet

/-- Amounts by their names. -/
def amountTexts (amounts : List (String × Number)) : List String :=
  amounts.map fun (name, value) => name ++ " " ++ value.text

/-- A size with the room that it takes. -/
def sizeText (size : Size) : String :=
  Worded.word size ++ " (space " ++ size.space.text ++ " ft, reach " ++ toString size.reach ++
    " ft)"

/-- The name under which a statistic is shown. -/
def statisticName (selector : String) (statistic : Statistic) : String :=
  (nonEmpty? statistic.label).getD selector

/-- A sheet as a table. -/
def table (s : Sheet) : Except ArithmeticFault Table := do
  let statistics ← s.statistics.mapM fun (selector, statistic) => do
    return (statisticName selector statistic, (← statistic.total).alwaysSignedText)
  return {
    title := s.name ++ " (level " ++ toString s.level ++ ")"
    rows :=
      [("Traits", Table.cell s.traits), ("Size", sizeText s.size),
        ("Speed", Table.cell [s.speedText]), ("Senses", Table.cell (s.senses.map (·.label))),
        ("Resistances", Table.cell (amountTexts s.resistances)),
        ("Weaknesses", Table.cell (amountTexts s.weaknesses)),
        ("Temp HP", s.tempHPValue.text),
        ("Fast healing", s.fastHealing.text)] ++
      s.damageDice.map (fun (selector, dice) => ("Dice: " ++ selector, dice)) ++
      statistics ++
      s.pendingChoices.map (fun p => ("Pending choice", p.prompt ++ " [" ++ p.flag ++ "]")) ++
      s.toggles.map (fun t => ("Toggle", t.label ++ ": " ++ if t.enabled then "on" else "off")) }

end Sheet

end RuleElements
