import RuleElements.Command.Run

/-!
# The program

The outer layer: it reads the files that a run can see, and carries out its report. A run sees the
files that its words name. Those in folders are listed on standard input, a path on each line,
unless that is a terminal.
-/

namespace RuleElements.Main

/-- The lines of a stream, without those that are empty. -/
partial def readLines (stream : IO.FS.Stream) (lines : List String) : IO (List String) := do
  let line ← stream.getLine
  if line.isEmpty then return lines.reverse
  let path := Text.strip line
  readLines stream (if path.isEmpty then lines else path :: lines)

/-- The paths that are listed on standard input. -/
def listedPaths : IO (List Path) := do
  let stream ← IO.getStdin
  if ← stream.isTty then return []
  return (← readLines stream []).map Path.ofText

/-- The file at a path, if it can be read. -/
def readFile (path : Path) : IO (List File) := do
  try return [⟨path, ← IO.FS.readFile path.text⟩]
  catch _ => return []

/-- The folder that a path stands in. -/
def parent (path : Path) : Path := { path with parts := path.parts.dropLast }

/-- Makes the files of a report, and prints the rest of it. -/
def carryOut (report : Report) : IO UInt32 := do
  for file in report.files do
    IO.FS.createDirAll (parent file.path).text
    IO.FS.writeFile file.path.text file.text
  for line in report.sideLines do IO.eprintln line
  for piece in report.printed do IO.println piece.text
  for line in report.endingLines do IO.eprintln line
  return report.ending.exitCode.toUInt32

/-- Where the settings of a user are kept. -/
def ownSettings : IO Path := do
  return Path.ofText (((← IO.getEnv "HOME").getD ".") ++ "/.rule-elements/settings.json")

end RuleElements.Main

open RuleElements RuleElements.Main in
/-- Runs the command that the words stand for. -/
def main (words : List String) : IO UInt32 := do
  let settings ← ownSettings
  let paths := (namedPaths settings words ++ (← listedPaths)).eraseDups
  carryOut (runWords (← paths.mapM readFile).flatten settings words)
