import SqlScript.Json.Printer
import SqlScript.Script
import SqlScript.Text.Words

/-!
The statements of a script with their texts, as a table and as JSON.
-/

set_option autoImplicit false

namespace SqlScript

structure Finding where
  start : Int
  stop : Int
  text : List Char
  type : StatementType
  execution : ExecutionType
  deriving DecidableEq, Repr

namespace Finding

/-- The finding for a statement of a script; what is not known of the statement is unknown. -/
def ofStatement (script : List Char) (s : Statement) : Finding where
  start := s.start
  stop := s.stop
  text := Text.slice script s.start (s.stop + 1)
  type := s.type.getD .unknown
  execution := s.execution.getD .unknown

def json (f : Finding) : Json :=
  .obj [("start".toList, .int f.start), ("end".toList, .int f.stop), ("text".toList, .str f.text),
    ("type".toList, .ofString f.type.name), ("executionType".toList, .ofString f.execution.name)]

end Finding

def findings (script : List Char) (body : List Statement) : List Finding :=
  body.map (Finding.ofStatement script)

def identify (set : Settings) (script : List Char) : Except StatementError (List Finding) := do
  let parsed ← parse set script
  pure (findings script parsed.body)

def encode (fs : List Finding) : List Char := (Json.arr (fs.map Finding.json)).render

structure Table where
  title : List Char
  columns : List (List Char)
  rows : List (List (List Char))
  deriving DecidableEq, Repr

def textWidth : Int := 60

def Finding.row (number : Nat) (f : Finding) : List (List Char) :=
  [Text.decimal number, f.type.name.toList, f.execution.name.toList,
    Text.signedDecimal f.start ++ '-' :: Text.signedDecimal f.stop, Text.shorten f.text textWidth]

def tabulate (dialect : List Char) (fs : List Finding) : Table where
  title := "Statements (".toList ++ Text.lower dialect ++ [')']
  columns := ["#".toList, "Type".toList, "Execution".toList, "Span".toList, "Text".toList]
  rows := fs.mapIdx fun i f => f.row (i + 1)

end SqlScript
