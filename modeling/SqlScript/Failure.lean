import SqlScript.Text.Spelling
import SqlScript.Token

/-!
The ways in which a script, a setting or a request can be refused, and what is said about each.
-/

set_option autoImplicit false

namespace SqlScript

inductive ErrorKind where
  | general
  | missingDependency
  | improperConfiguration
  | unsupportedDialect
  | parsing
  | unrecognizedStart
  | unexpectedSequence
  | alreadyTerminated
  deriving DecidableEq, Repr

namespace ErrorKind

def name : ErrorKind → String
  | .general => "SQLIdentError"
  | .missingDependency => "MissingDependencyError"
  | .improperConfiguration => "ImproperConfigurationError"
  | .unsupportedDialect => "UnsupportedDialectError"
  | .parsing => "SQLParsingError"
  | .unrecognizedStart => "UnrecognizedStatementStartError"
  | .unexpectedSequence => "UnexpectedTokenSequenceError"
  | .alreadyTerminated => "StatementAlreadyTerminatedError"

def all : List ErrorKind :=
  [.general, .missingDependency, .improperConfiguration, .unsupportedDialect, .parsing,
   .unrecognizedStart, .unexpectedSequence, .alreadyTerminated]

/-- The kind itself and the more general kinds it belongs to, the nearest first. -/
def lineage : ErrorKind → List ErrorKind
  | .general => [.general]
  | .missingDependency => [.missingDependency, .general]
  | .improperConfiguration => [.improperConfiguration, .general]
  | .unsupportedDialect => [.unsupportedDialect, .improperConfiguration, .general]
  | .parsing => [.parsing, .general]
  | .unrecognizedStart => [.unrecognizedStart, .parsing, .general]
  | .unexpectedSequence => [.unexpectedSequence, .parsing, .general]
  | .alreadyTerminated => [.alreadyTerminated, .general]

def defaultMessage : ErrorKind → List Char
  | .parsing => "Issues parsing SQL statement.".toList
  | .alreadyTerminated => "This statement has already got to the end.".toList
  | _ => []

end ErrorKind

def alternatives (items : List (List Char)) : List Char := " or ".toList.intercalate items

def describeKeywords (ks : List Keyword) : List Char :=
  alternatives <| ks.map fun k =>
    "(type=\"keyword\" value=\"".toList ++ k.spelling.toList ++ "\")".toList

inductive StatementError where
  | unrecognizedStart (value : List Char) (position : Int)
  | missingBefore (required : List TokenKind) (value : List Char) (stepIndex : Nat)
  | unaccepted (accepted : List Keyword) (kind : TokenKind) (value : List Char) (stepIndex : Nat)
  | alreadyTerminated
  deriving DecidableEq, Repr

namespace StatementError

def kind : StatementError → ErrorKind
  | .unrecognizedStart .. => .unrecognizedStart
  | .missingBefore .. | .unaccepted .. => .unexpectedSequence
  | .alreadyTerminated => .alreadyTerminated

def unrecognizedMessage (value position : List Char) : List Char :=
  "Invalid statement parser \"".toList ++ value ++ "\" at position ".toList ++ position ++ ['.']

def stepMark (stepIndex : Nat) : List Char :=
  " (currentStep=".toList ++ Text.decimal stepIndex ++ ").".toList

def message : StatementError → List Char
  | .unrecognizedStart value position => unrecognizedMessage value (Text.signedDecimal position)
  | .missingBefore required value stepIndex =>
    "Expected any of these tokens ".toList ++ alternatives (required.map (·.name.toList)) ++
      " before \"".toList ++ value ++ ['"'] ++ stepMark stepIndex
  | .unaccepted accepted kind value stepIndex =>
    "Expected any of these tokens ".toList ++ describeKeywords accepted ++
      " instead of type=\"".toList ++ kind.name.toList ++ "\" value=\"".toList ++ value ++ ['"'] ++
      stepMark stepIndex
  | .alreadyTerminated => ErrorKind.alreadyTerminated.defaultMessage

end StatementError

end SqlScript
