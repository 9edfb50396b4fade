import RuleElements.Element.Reader
import RuleElements.Fault
import RuleElements.Processing.Pass

/-!
# Sources

A source is an authored item that bears rule elements: a feat, a piece of gear, a condition, a
spell.

Main definitions:
* `RuleSource.read`: a source from raw data; each of its rules must have a kind.
* `RuleSource.process`: a pass over the rules of a source.
-/

namespace RuleElements

/-- An authored item with its rules, which are not yet checked. -/
structure RuleSource where
  id : String
  name : String
  kind : SourceKind := .feat
  level : Option Int := none
  description : Option String := none
  rules : List (List (String × Data)) := []
  deriving Repr, Inhabited

namespace RuleSource

/-- Whether a rule names its kind. -/
def hasKind (rule : List (String × Data)) : Bool :=
  match Fields.get? rule "key" with
  | some (.text _) => true
  | _ => false

/-- The rules without a kind, by their places. -/
def faults (s : RuleSource) : List String :=
  (s.rules.zipIdx.filter fun (rule, _) => !hasKind rule).map fun (_, place) =>
    "rules[" ++ toString place ++ "] has no 'key'"

/-- A source from raw data. -/
def read (data : Data) : Checked RuleSource :=
  (data.asModel "RuleSource" fun fields =>
    RuleSource.mk
      <$> Fields.required fields "id" Data.asText
      <*> Fields.required fields "name" Data.asText
      <*> Fields.defaulted fields "kind" .feat Data.asWord
      <*> Fields.optional fields "level" Data.asInteger
      <*> Fields.optional fields "description" Data.asText
      <*> Fields.defaulted fields "rules" [] (Data.asList Data.asObject)).andThen
        (Effect.require faults)

/-- A source as raw data. -/
def toData (s : RuleSource) : Data :=
  .object [("id", .text s.id), ("name", .text s.name), ("kind", .ofWord s.kind),
    ("level", .ofOption .int s.level), ("description", .ofOption .text s.description),
    ("rules", .list (s.rules.map .object))]

/-- What the rules of a source turn out to be. -/
def elements (s : RuleSource) : List ParsedElement := s.rules.map ParsedElement.ofFields

/-- A pass over the rules of a source. -/
def process (s : RuleSource) (level : Int) (choices : Option ChoiceStore) :
    Except ArithmeticFault Pass :=
  Processing.run { source := s.name, level, choices } s.elements

/-- Passes over several sources, one after the other. -/
def processAll (sources : List RuleSource) (level : Int) (choices : Option ChoiceStore) :
    Except ArithmeticFault (List Pass) :=
  sources.mapM (·.process level choices)

/-- What passes over several sources report, up to the rule element that ends them, if one does. -/
def reportsAll (level : Int) (choices : Option ChoiceStore) : List RuleSource → List LogLine
  | [] => []
  | s :: rest =>
    let p : Processing := { source := s.name, level, choices }
    p.reports s.elements ++
      match p.run s.elements with
      | .ok _ => reportsAll level choices rest
      | .error _ => []

end RuleSource

/-- Several passes joined into one. -/
def Pass.merge (passes : List Pass) : Pass where
  aggregate := Aggregate.merge (passes.map (·.aggregate))
  log := passes.flatMap (·.log)

end RuleElements
