/-!
Statements of a script, as they are found and as they are reported.
-/

set_option autoImplicit false

namespace SqlScript

inductive StatementType where
  | select | insert | update | delete | truncate
  | createTable | createDatabase | createTrigger | createFunction
  | dropTable | dropDatabase
  | unknown
  deriving DecidableEq, Repr

def StatementType.name : StatementType → String
  | .select => "SELECT"
  | .insert => "INSERT"
  | .update => "UPDATE"
  | .delete => "DELETE"
  | .truncate => "TRUNCATE"
  | .createTable => "CREATE_TABLE"
  | .createDatabase => "CREATE_DATABASE"
  | .createTrigger => "CREATE_TRIGGER"
  | .createFunction => "CREATE_FUNCTION"
  | .dropTable => "DROP_TABLE"
  | .dropDatabase => "DROP_DATABASE"
  | .unknown => "UNKNOWN"

def StatementType.all : List StatementType :=
  [.select, .insert, .update, .delete, .truncate, .createTable, .createDatabase, .createTrigger,
   .createFunction, .dropTable, .dropDatabase, .unknown]

inductive ExecutionType where
  | listing | modification | unknown
  deriving DecidableEq, Repr

def ExecutionType.name : ExecutionType → String
  | .listing => "LISTING"
  | .modification => "MODIFICATION"
  | .unknown => "UNKNOWN"

def ExecutionType.all : List ExecutionType := [.listing, .modification, .unknown]

def StatementType.execution : StatementType → ExecutionType
  | .select => .listing
  | .insert | .update | .delete | .truncate => .modification
  | .createTable | .createDatabase | .createTrigger | .createFunction => .modification
  | .dropTable | .dropDatabase => .modification
  | .unknown => .unknown

def executionOf : Option StatementType → ExecutionType
  | none => .unknown
  | some type => type.execution

inductive DefinerState where
  | inactive | sawDefiner | sawEquals | consumingPrincipal
  deriving DecidableEq, Repr

def DefinerState.name : DefinerState → String
  | .inactive => "inactive"
  | .sawDefiner => "saw_definer"
  | .sawEquals => "saw_equals"
  | .consumingPrincipal => "consuming_principal"

def DefinerState.all : List DefinerState :=
  [.inactive, .sawDefiner, .sawEquals, .consumingPrincipal]

/-- A statement under way or at its end. Both offsets are those of characters in it. The type is
missing until the statement's head has told it, and the number of open blocks wherever the dialect
does not count them. -/
structure Statement where
  start : Int := 0
  stop : Int := 0
  type : Option StatementType := none
  execution : Option ExecutionType := none
  terminated : Bool := false
  canEnd : Bool := false
  definer : DefinerState := .inactive
  openBlocks : Option Int := none
  deriving DecidableEq, Repr

def Statement.hasOpenBlock (s : Statement) : Bool :=
  match s.openBlocks with
  | none => false
  | some n => n != 0

end SqlScript
