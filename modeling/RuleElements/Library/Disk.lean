import RuleElements.Fault
import RuleElements.Json.Reader
import RuleElements.Text.Casing
import RuleElements.Text.Split
import RuleElements.Yaml.Reader

/-!
# Paths and files

The files that a run of the program can see, as values, and the paths at which they stand. A folder
is there if a file stands in it.

Main definitions:
* `Path.ofText`, `Path.text`: from and to the written form.
* `Path.suffix`: what the name of a file says about its format.
* `Disk.placeOf`: where a path leads, which two points in it take a step upwards.
* `Disk.sourceFiles`: the files with sources in them below a path, in order.
* `File.data`, `File.documents`: what a file holds.

Results:
* `Disk.place?_eq_self`: a path without steps upwards leads to the place that it spells.
-/

namespace RuleElements

/-! ## Paths

A path is a list of parts. Two spellings of a path that differ in doubled or trailing slashes, or in
parts that are a single point, are the same path.
-/

/-- The way to a file or a folder. -/
structure Path where
  /-- whether the path starts at the root -/
  rooted : Bool
  parts : List String
  deriving DecidableEq, Repr, Inhabited

namespace Path

/-- The path with the given written form. -/
def ofText (s : String) : Path where
  rooted := Text.startsWith s "/"
  parts := (Text.splitAt '/' s).filter fun part => part ≠ "" && part ≠ "."

/-- The written form; the path without parts is the folder in use, or the root. -/
def text (p : Path) : String :=
  if p.rooted then "/" ++ "/".intercalate p.parts
  else if p.parts.isEmpty then "."
  else "/".intercalate p.parts

/-- A path inside another one. -/
def join (p : Path) (parts : List String) : Path := { p with parts := p.parts ++ parts }

/-- The last part. -/
def name (p : Path) : String := p.parts.getLastD ""

/-- The end of a name from its last point on, unless the point comes first or last. -/
def suffixOf (name : String) : String :=
  let after := (name.toList.reverse.takeWhile (· ≠ '.')).reverse
  let before := name.length - after.length - 1
  if after.isEmpty || after.length = name.length || before = 0 then ""
  else String.ofList ('.' :: after)

/-- The suffix of the last part, in lowercase. -/
def suffix (p : Path) : String := Text.lower (suffixOf p.name)

/-- Whether a path leads into another one. -/
def isInside (p folder : Path) : Bool :=
  p.rooted == folder.rooted && folder.parts.isPrefixOf p.parts && p.parts ≠ folder.parts

/-- Whether a path comes after another one, part by part. -/
def comesAfter (p q : Path) : Bool := q.parts < p.parts

end Path

/-! ## Files -/

/-- A file. -/
structure File where
  path : Path
  text : String
  deriving Repr, Inhabited

namespace File

/-- The suffixes of the files that are written in YAML. -/
def yamlSuffixes : List String := [".yaml", ".yml"]

/-- The suffixes of the files that a folder is searched for. -/
def sourceSuffixes : List String := ".json" :: yamlSuffixes

/-- What a file holds. Its suffix says whether it is written in YAML; any other file is read as
JSON. A YAML file with an empty value holds an object without fields. -/
def data (f : File) : Except Fault Data :=
  if yamlSuffixes.contains f.path.suffix then
    match Yaml.read f.text with
    | .ok d => .ok (if d.isEmpty then .object [] else d)
    | .error .malformed => .error .unreadable
    | .error (.scalar fault) => .error (.scalar fault)
  else
    match Json.read? f.text with
    | some d => .ok d
    | none => .error .unreadable

end File

namespace Data

/-- The items that a value stands for where several are wanted: those of a list, the keys of an
object, or the characters of a text. -/
def elements : Data → Except Fault (List Data)
  | .list items => .ok items
  | .object fields => .ok ((Fields.names fields).map .text)
  | .mapping entries => .ok (entries.map fun (key, _) => key.toData)
  | .text s => .ok (s.toList.map fun c => .text (String.ofList [c]))
  | other => .error (.notIterable other.typeName)

/-- The documents of a file: the items of a list, those under `sources`, or the value itself. -/
def documents (d : Data) : Except Fault (List Data) :=
  match d with
  | .list items => .ok items
  | other =>
    match other.fields?.bind (Fields.get? · "sources") with
    | some sources => sources.elements
    | none => .ok [d]

end Data

/-- The documents of a file. -/
def File.documents (f : File) : Except Fault (List Data) := f.data.bind Data.documents

/-- The files that can be seen. -/
abbrev Disk := List File

namespace Disk

/-- Whether a folder stands at a place. -/
def holdsFolder (disk : Disk) (place : Path) : Bool := disk.any (·.path.isInside place)

/-- Where a further part of a path leads from a place. Two points lead out of a folder that is
there. -/
def follow? (disk : Disk) (place : Path) (part : String) : Option Path :=
  if part ≠ ".." then some (place.join [part])
  else if disk.holdsFolder place then some { place with parts := place.parts.dropLast }
  else none

/-- The place that a path leads to. -/
def place? (disk : Disk) (path : Path) : Option Path :=
  path.parts.foldlM disk.follow? { path with parts := [] }

/-- The place that a path leads to; a path that leads nowhere stands for itself. -/
def placeOf (disk : Disk) (path : Path) : Path := (disk.place? path).getD path

/-- The file at a path. -/
def file? (disk : Disk) (path : Path) : Option File :=
  (disk.find? (·.path == path)).or
    ((disk.find? (·.path == disk.placeOf path)).map fun f => { f with path })

/-- The files in a folder and in the folders in it, in the order of their paths. -/
def filesIn (disk : Disk) (folder : Path) : List File :=
  let place := disk.placeOf folder
  let files := (disk.filter (·.path.isInside place)).map fun f =>
    { f with path := folder.join (f.path.parts.drop place.parts.length) }
  files.mergeSort fun f g => !f.path.comesAfter g.path

/-- Whether there is a folder at a path. -/
def hasFolder (disk : Disk) (folder : Path) : Bool := disk.holdsFolder (disk.placeOf folder)

/-- Whether there is a file or a folder at a path. -/
def has (disk : Disk) (path : Path) : Bool := (disk.file? path).isSome || disk.hasFolder path

/-- Whether a path leads through a file. -/
def crossesFile (disk : Disk) (path : Path) : Bool :=
  (List.range path.parts.length).any fun n =>
    (disk.file? { path with parts := path.parts.take n }).isSome

/-- The only file at a path, or why there is none. -/
def read (disk : Disk) (path : Path) : Except Fault File :=
  match disk.file? path with
  | some f => .ok f
  | none =>
    if disk.hasFolder path then .error (.isFolder path.text)
    else if disk.crossesFile path then .error (.throughFile path.text)
    else .error (.missingFile path.text)

/-- The files with sources at a path: a file whatever its suffix is, or the files of a folder that
have one of the suffixes. -/
def sourceFiles (disk : Disk) (path : Path) : List File :=
  match disk.file? path with
  | some f => [f]
  | none => (disk.filesIn path).filter fun f => File.sourceSuffixes.contains f.path.suffix

/-- A path without steps upwards leads to the place that it spells. -/
theorem place?_eq_self (disk : Disk) {path : Path} (h : ".." ∉ path.parts) :
    disk.place? path = some path := by
  have onward : ∀ (parts : List String) (place : Path), ".." ∉ parts →
      parts.foldlM disk.follow? place = some (place.join parts) := by
    intro parts
    induction parts with
    | nil => intro place _; simp [Path.join]
    | cons part rest ih =>
      intro place h
      simp only [List.mem_cons, not_or] at h
      rw [List.foldlM_cons, follow?, if_pos (Ne.symm h.1)]
      simpa [Path.join] using ih (place.join [part]) h.2
  simpa [place?, Path.join] using onward path.parts { path with parts := [] } h

end Disk

end RuleElements
