import RuleElements.Character.State
import RuleElements.Library.Disk
import RuleElements.Source

/-!
# Sources and characters from files

Sources are found by their identifiers, which are all different.

Main definitions:
* `SourceIndex`: sources in order, with `SourceIndex.insertAll` for those of a further file.
* `SourceIndex.resolve`: the sources with given identifiers.
* `SourceIndex.load`: the sources of all files below a path.
* `CharacterState.load`: a character, with the sources that it names and those that it brings
  itself.
-/

namespace RuleElements

/-! ## The index of sources -/

/-- Sources in order, with different identifiers. -/
structure SourceIndex where
  sources : List RuleSource := []
  deriving Repr, Inhabited

namespace SourceIndex

/-- The source with an identifier. -/
def find? (index : SourceIndex) (id : String) : Option RuleSource :=
  index.sources.find? (·.id == id)

/-- The source with an identifier, which must be there. -/
def get (index : SourceIndex) (id : String) : Except Fault RuleSource :=
  match index.find? id with
  | some source => .ok source
  | none => .error (.missingKey id)

/-- The sources with the given identifiers, which must all be there. -/
def resolve (index : SourceIndex) (ids : List String) : Except Fault (List RuleSource) :=
  match ids.filter fun id => (index.find? id).isNone with
  | [] => .ok (ids.filterMap index.find?)
  | missing => .error (.missingKey ("Unknown source id(s): " ++ ", ".intercalate missing))

/-- The sources of a kind, given by its word. -/
def ofKind (index : SourceIndex) (kind : String) : List RuleSource :=
  index.sources.filter (Worded.word ·.kind == kind)

/-- The index with further sources from one file, up to the first one whose identifier is taken. -/
def insertAll (file : String) (index : SourceIndex) : List Data → Except Fault SourceIndex
  | [] => .ok index
  | doc :: rest =>
    match RuleSource.read doc with
    | .invalid issues => .error (.invalid issues)
    | .valid source =>
      if (index.find? source.id).isSome then .error (.duplicateSource source.id file)
      else insertAll file ⟨index.sources ++ [source]⟩ rest

end SourceIndex

/-! ## Loading -/

/-- The sources of the files at a path. -/
def SourceIndex.load (disk : Disk) (path : Path) : Except Fault SourceIndex :=
  (disk.sourceFiles path).foldlM
    (fun index f => f.documents.bind (SourceIndex.insertAll f.path.text index)) {}

/-- The entry that a pair of a list stands for. -/
def Data.pairAt (place : Nat) (pair : Data) : Except Fault (Key × Data) :=
  match pair.elements with
  | .error _ => .error (.notAPair place none)
  | .ok [key, value] =>
    match key.toKey? with
    | some key => .ok (key, value)
    | none => .error (.notAKey key.typeName)
  | .ok items => .error (.notAPair place items.length)

/-- The fields of an object, or those that a list of pairs stands for; entries whose keys are no
texts are left out. -/
def Data.fields (d : Data) : Except Fault (List (String × Data)) :=
  match d.fields? with
  | some fields => .ok fields
  | none => do
    let pairs ← (← d.elements).zipIdx.mapM fun (pair, place) => pair.pairAt place
    return Entries.fields (Entries.ofPairs pairs)

/-- A character from the contents of its file. Its own sources stand under `sources` and come after
those that it names. -/
def CharacterState.load (index : SourceIndex) (d : Data) :
    Except Fault (CharacterState × List RuleSource) := do
  let fields ← d.fields
  let own := (Fields.get? fields "sources").getD (.list [])
  let docs ← if own.isEmpty then pure [] else own.elements
  let inline ← docs.mapM fun doc => (RuleSource.read doc).toExcept
  let state ← (CharacterState.read (.object (Fields.erase fields "sources"))).toExcept
  return (state, (← index.resolve state.sourceIds) ++ inline)

/-- A character from its file. -/
def CharacterState.loadFile (disk : Disk) (index : SourceIndex) (path : Path) :
    Except Fault (CharacterState × List RuleSource) :=
  (disk.read path).bind fun f => f.data.bind (CharacterState.load index)

end RuleElements
