import RuleElements.Command.Check
import RuleElements.Command.Invocation
import RuleElements.Command.Report
import RuleElements.Content.Bundle
import RuleElements.Library.Load

/-!
# Running commands

A run looks at the files on a disk and gives a report. A command other than that for the kinds reads
the settings first; a missing file with settings is made.

Main definitions:
* `Command.run`: a command under given settings.
* `Invocation.run`: a command with its settings.
* `runWords`: the words of a command line.
* `namedPaths`: where a run looks, as far as its words tell.
-/

namespace RuleElements

namespace Command

/-- The index of a sheet's sources: those of the content that is named, of the user's own, or the
bundled ones. -/
def sheetIndex (disk : Disk) (settings : Settings) (content : Option String) :
    Except Fault SourceIndex :=
  match content.or (nonEmpty? settings.contentDir) with
  | some path => SourceIndex.load disk (.ofText path)
  | none => .ok Content.bundle

/-- The state with the size that the settings ask for, if it states none, and further roll options.
-/
def adapt (settings : Settings) (options : List String) (state : CharacterState) :
    CharacterState :=
  { state with
    statedSize := some (state.statedSize.getD settings.defaultSize)
    rollOptions := state.rollOptions ++ options }

/-- What is printed of a sheet. -/
def sheetPieces (settings : Settings) (asJson : Bool) (s : Sheet) :
    Except ArithmeticFault (List Piece) :=
  if asJson then s.toData.map fun data => [.json data]
  else
    s.table.map fun table =>
      .table table :: if settings.showLogs then s.logs.map .line else []

/-- Prints the sheet of a state with its sources. -/
def printSheet (settings : Settings) (asJson : Bool) (state : CharacterState)
    (sources : List RuleSource) : Report :=
  match Sheet.build state sources with
  | .error fault =>
    .failed (.arithmetic fault) (RuleSource.reportsAll state.level (some state.choices) sources)
  | .ok (built, log) =>
    match sheetPieces settings asJson built with
    | .error fault => .failed (.arithmetic fault) log
    | .ok printed => { log, printed }

/-- Prints the sheet of the character in a file. -/
def runSheet (disk : Disk) (settings : Settings) (character : String) (content : Option String)
    (options : List String) (asJson : Bool) : Report :=
  let loaded := do
    CharacterState.loadFile disk (← sheetIndex disk settings content) (.ofText character)
  match loaded with
  | .error fault => .failed fault []
  | .ok (state, sources) => printSheet settings asJson (adapt settings options state) sources

/-- Prints what all sources at a path give. -/
def runProcess (disk : Disk) (path : String) (level : Int) : Report :=
  match SourceIndex.load disk (.ofText path) with
  | .error fault => .failed fault []
  | .ok index =>
    match RuleSource.processAll index.sources level none with
    | .error fault =>
      .failed (.arithmetic fault) (RuleSource.reportsAll level none index.sources)
    | .ok passes =>
      let pass := Pass.merge passes
      { log := pass.log, printed := [.json pass.aggregate.toData] }

/-- Prints what a check of the files at some paths finds. -/
def runValidate (disk : Disk) (paths : List String) (strict : Bool) : Report :=
  let c := Checkup.ofFiles (paths.flatMap fun path => disk.sourceFiles (.ofText path))
  match c.fault with
  | some fault => .failed fault c.log
  | none =>
    let warnings := (c.warnings strict).map fun text => Piece.line ("WARN " ++ text)
    match c.errors strict with
    | [] => { log := c.log, printed := warnings ++ [.line "OK"] }
    | errors => { log := c.log, printed := warnings, errors, ending := .rejected }

/-- A command under given settings. -/
def run (disk : Disk) (settings : Settings) : Command → Report
  | .sheet character content options asJson =>
    runSheet disk settings character content options asJson
  | .process path level => runProcess disk path level
  | .validate paths strict =>
    runValidate disk paths (strict.getD settings.strictValidation)
  | .kinds => { printed := Kind.names.map .line }

end Command

namespace Invocation

/-- A command with its settings, which are the user's own unless it names others. -/
def run (disk : Disk) (ownSettings : Path) (i : Invocation) : Report :=
  if i.command = .kinds then i.command.run disk {}
  else
    let path := (i.settings.map Path.ofText).getD ownSettings
    let stored := disk.file? path
    let made (text : String) : List File := if stored.isSome then [] else [⟨path, text⟩]
    match Settings.load (stored.map (·.text)) with
    | .error fault => .failed fault []
    | .ok (settings, text) =>
      match settings.checkLevel with
      | .error fault => { Report.failed fault [] with files := made text }
      | .ok settings => { (i.command.run disk settings).under settings with files := made text }

end Invocation

/-- The paths that a command names itself. -/
def Command.paths : Command → List String
  | .sheet character content _ _ => character :: content.toList
  | .process path _ => [path]
  | .validate paths _ => paths
  | .kinds => []

/-- The paths that the words of a command line name, with that of the settings. -/
def namedPaths (ownSettings : Path) (words : List String) : List Path :=
  match Invocation.read? words with
  | some i => (i.settings.map Path.ofText).getD ownSettings :: i.command.paths.map Path.ofText
  | none => []

/-- A run of the program on the words of its command line. -/
def runWords (disk : Disk) (ownSettings : Path) (words : List String) : Report :=
  match Invocation.read? words with
  | some i => i.run disk ownSettings
  | none => { ending := .misused }

end RuleElements
