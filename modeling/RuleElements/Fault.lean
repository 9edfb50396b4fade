import RuleElements.Data.Moment
import RuleElements.Schema.Issue
import RuleElements.Text.Class
import RuleElements.Text.Numeral

/-!
# Faults

The ways in which an operation of the engine fails. A text fails to be YAML as a whole, or a scalar
in it fails to be what its tag says.

Main definitions:
* `Yaml.ScalarFault`, `Yaml.Failure`: failures of YAML.
* `Fault`, `Fault.message`: the cause of a failure, and its wording.
-/

namespace RuleElements

/-! ## Failures of YAML -/

namespace Yaml

/-- Why a scalar is not what its tag says. -/
inductive ScalarFault
  | notInteger (base : Nat) (digits : String)
  | tooManyDigits (count : Nat)
  | notReal (digits : String)
  /-- a number has no characters -/
  | noDigits
  | notBoolean (word : String)
  | notTimestamp
  | calendar (fault : CalendarFault)
  deriving DecidableEq, Repr, Inhabited

/-- The wording of a fault. -/
def ScalarFault.message : ScalarFault → String
  | .notInteger base digits =>
    "invalid literal for int() with base " ++ toString base ++ ": " ++ Text.quoted digits
  | .tooManyDigits count => Text.tooManyDigitsText count
  | .notReal digits => "could not convert string to float: " ++ Text.quoted digits
  | .noDigits => "string index out of range"
  | .notBoolean word => Text.quoted word
  | .notTimestamp => "'NoneType' object has no attribute 'groupdict'"
  | .calendar fault => fault.message

/-- Whether a fault is about a value of the right form, or about the form of the scalar. -/
def ScalarFault.isAboutValue : ScalarFault → Bool
  | .notInteger .. => true
  | .tooManyDigits _ => true
  | .notReal _ => true
  | .calendar _ => true
  | _ => false

/-- Why a text denotes no value. -/
inductive Failure
  | malformed
  | scalar (fault : ScalarFault)
  deriving DecidableEq, Repr, Inhabited

end Yaml

/-! ## Failures of the engine -/

/-- The cause of a failure. -/
inductive Fault
  /-- a raw value does not describe what it should -/
  | invalid (issues : List Issue)
  | arithmetic (fault : ArithmeticFault)
  /-- a file is not written in its format -/
  | unreadable
  /-- a scalar in a file is not what its tag says -/
  | scalar (fault : Yaml.ScalarFault)
  /-- a value stands where statements should be listed -/
  | notIterable (typeName : String)
  | unknownMode (mode : String)
  | crossesValue (path part : String)
  | notNumeric (path : String)
  | notASize
  | missingKey (key : String)
  | missingFile (path : String)
  | isFolder (path : String)
  /-- a path leads through a file -/
  | throughFile (path : String)
  /-- an item of a list of fields is not a name with a value; its length is told if it has one -/
  | notAPair (place : Nat) (length : Option Nat)
  | notAKey (typeName : String)
  | duplicateSource (id file : String)
  /-- a text stands where a level of the log should -/
  | notALevel (text : String)
  /-- a suppressed modifier has nothing that suppresses it -/
  | noWinner
  | wrongSelection (reason : String)
  | indexOutOfRange
  | namelessOption
  | noContext
  deriving DecidableEq, Repr, Inhabited

/-- The wording of a failure. -/
def Fault.message : Fault → String
  | .invalid issues => Issue.messages issues
  | .arithmetic fault => fault.message
  | .unreadable => ""
  | .scalar fault => fault.message
  | .notIterable typeName => "'" ++ typeName ++ "' object is not iterable"
  | .unknownMode mode => "Unknown property mode: " ++ mode
  | .crossesValue path part => "Property '" ++ path ++ "' crosses non-mapping '" ++ part ++ "'"
  | .notNumeric path => "Property '" ++ path ++ "' is not numeric"
  | .notASize => "tuple.index(x): x not in tuple"
  | .missingKey key => Text.quoted key
  | .missingFile path => "[Errno 2] No such file or directory: " ++ Text.quoted path
  | .isFolder path => "[Errno 21] Is a directory: " ++ Text.quoted path
  | .throughFile path => "[Errno 20] Not a directory: " ++ Text.quoted path
  | .notAPair place none =>
    "cannot convert dictionary update sequence element #" ++ toString place ++ " to a sequence"
  | .notAPair place (some length) =>
    "dictionary update sequence element #" ++ toString place ++ " has length " ++ toString length ++
      "; 2 is required"
  | .notAKey typeName => "unhashable type: '" ++ typeName ++ "'"
  | .duplicateSource id file => "Duplicate source id " ++ id ++ " in " ++ file
  | .notALevel text => "Unknown level: " ++ Text.quoted text
  | .noWinner => ""
  | .wrongSelection reason => reason
  | .indexOutOfRange => "list index out of range"
  | .namelessOption => "'RollOptionResult' object has no attribute 'property'"
  | .noContext => "'NoneType' object has no attribute 'options'"

/-- Whether a failure says that the contents of a file cannot be read, and nothing else. -/
def Fault.isAboutReading : Fault → Bool
  | .unreadable => true
  | .scalar fault => fault.isAboutValue
  | _ => false

/-- A result of arithmetic as a result of the engine. -/
def Fault.ofArithmetic {α : Type} : Except ArithmeticFault α → Except Fault α
  | .ok a => .ok a
  | .error fault => .error (.arithmetic fault)

/-- A checked value as a result of the engine. -/
def Checked.toExcept {α : Type} : Checked α → Except Fault α
  | .valid a => .ok a
  | .invalid issues => .error (.invalid issues)

end RuleElements
