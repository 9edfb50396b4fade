import RuleElements.Fault
import RuleElements.Json.Reader
import RuleElements.Json.Writer
import RuleElements.Log
import RuleElements.Text.Casing
import RuleElements.Text.Split
import RuleElements.Vocabulary

/-!
# Settings

What a user sets once for all runs: how much is reported, where sources are found, the size of
characters without one, and how strict checks are. Settings are kept as JSON.

Main definitions:
* `Settings.ofText`: settings from the text of their file.
* `Settings.load`: settings, with the text of the file afterwards; a missing file is made.
-/

namespace RuleElements

/-- The settings of a user. -/
structure Settings where
  logLevel : String := "WARNING"
  contentDir : Option String := none
  defaultSize : Size := .medium
  strictValidation : Bool := false
  showLogs : Bool := false
  deriving Repr, Inhabited

namespace Settings

/-- Settings from the fields of an object. -/
def readFields (fields : List (String × Data)) : Checked Settings :=
  Settings.mk
    <$> Fields.defaulted fields "log_level" "WARNING" Data.asText
    <*> Fields.optional fields "content_dir" Data.asText
    <*> Fields.defaulted fields "default_size" .medium Data.asWord
    <*> Fields.defaulted fields "strict_validation" false Data.asBoolean
    <*> Fields.defaulted fields "show_logs" false Data.asBoolean

/-- Settings from raw data. -/
def read : Data → Checked Settings
  | .object fields => readFields fields
  | _ => .fail .notObject

/-- Settings from the text of their file. -/
def ofText (s : String) : Checked Settings :=
  match Json.read? s with
  | some d => read d
  | none => .fail .invalidJson

/-- Settings as raw data. -/
def toData (s : Settings) : Data :=
  .object [("log_level", .text s.logLevel), ("content_dir", .ofOption .text s.contentDir),
    ("default_size", .ofWord s.defaultSize), ("strict_validation", .boolean s.strictValidation),
    ("show_logs", .boolean s.showLogs)]

/-- The text of a file with settings. -/
def text (s : Settings) : String := Json.write .indented s.toData

/-- Settings from a file that may be missing, with the text of the file afterwards, in which every
line ends with the same break. -/
def load : Option String → Except Fault (Settings × String)
  | none => .ok ({}, text {})
  | some s =>
    (ofText s).toExcept.map fun settings =>
      (settings, String.ofList (Text.unifyBreaks s.toList))

/-- The ranks of the log levels by their names. -/
def levelRanks : List (String × Nat) :=
  [("CRITICAL", 50), ("FATAL", 50), ("ERROR", 40), ("WARNING", 30), ("WARN", 30), ("INFO", 20),
    ("DEBUG", 10), ("NOTSET", 0)]

/-- The layout of log lines, which goes by a name as the levels do. -/
def layout : String × String := ("BASIC_FORMAT", "%(levelname)s:%(name)s:%(message)s")

/-- The settings, unless they give the layout of log lines for a level. -/
def checkLevel (s : Settings) : Except Fault Settings :=
  if Text.upper s.logLevel = layout.1 then .error (.notALevel layout.2) else .ok s

/-- The rank from which lines are reported; an unknown level is taken for a warning's. -/
def logRank (s : Settings) : Nat :=
  (Fields.get? levelRanks (Text.upper s.logLevel)).getD Severity.warning.rank

/-- Whether a line is reported. -/
def reports (s : Settings) (line : LogLine) : Bool := s.logRank ≤ line.severity.rank

end Settings

end RuleElements
