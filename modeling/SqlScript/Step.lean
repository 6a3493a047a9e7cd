import SqlScript.Failure
import SqlScript.Statement
import SqlScript.Token

/-!
How the head of a statement tells its type. A keyword that begins a statement opens a list of steps;
each step takes one token that is neither blank nor part of a clause, and records what it tells.
-/

set_option autoImplicit false

namespace SqlScript

inductive Effect where
  | markStart
  | assign (type : StatementType)
  | assignObject (types : List (Keyword × StatementType))
  deriving DecidableEq, Repr

def Effect.apply (e : Effect) (t : Token) (s : Statement) : Statement :=
  match e with
  | .markStart => { s with start := t.start }
  | .assign type => { s with type := some type, start := t.start }
  | .assignObject types => { s with type := some ((t.word?.bind fun k => types.lookup k).getD .unknown) }

/-- A step of a statement's head. Without accepted keywords it takes any token, and without required
kinds any token may stand before. -/
structure Step where
  accepted : List Keyword
  requiredBefore : List TokenKind
  effect : Effect
  deriving DecidableEq, Repr

namespace Step

def accepts (p : Step) (t : Token) : Bool :=
  p.accepted.isEmpty || t.keyword?.any p.accepted.contains

def hasRequiredBefore (p : Step) (previous : Option Token) : Bool :=
  p.requiredBefore.isEmpty || previous.any fun t => p.requiredBefore.contains t.kind

/-- Whether the step gives way to the next one before it takes the token. None does. -/
def givesWay (_ : Step) (_ : Token) : Bool := false

@[simp] theorem givesWay_eq (p : Step) (t : Token) : p.givesWay t = false := rfl

def isOver (_ : Step) (_ : Token) : Bool := true

@[simp] theorem isOver_eq (p : Step) (t : Token) : p.isOver t = true := rfl

def keyword (k : Keyword) (type : StatementType) : Step := ⟨[k], [], .assign type⟩

def leading (k : Keyword) : Step := ⟨[k], [], .markStart⟩

def object (types : List (Keyword × StatementType)) : Step :=
  ⟨types.map Prod.fst, [.whitespace], .assignObject types⟩

end Step

inductive Opening where
  | select | insert | update | delete | truncate | create | drop | unknown
  deriving DecidableEq, Repr

namespace Opening

def name : Opening → String
  | .select => "SELECT"
  | .insert => "INSERT"
  | .update => "UPDATE"
  | .delete => "DELETE"
  | .truncate => "TRUNCATE"
  | .create => "CREATE"
  | .drop => "DROP"
  | .unknown => "UNKNOWN"

def all : List Opening := [.select, .insert, .update, .delete, .truncate, .create, .drop, .unknown]

def ofKeyword? : Keyword → Option Opening
  | .select => some .select
  | .insert => some .insert
  | .update => some .update
  | .delete => some .delete
  | .truncate => some .truncate
  | .create => some .create
  | .drop => some .drop
  | _ => none

def createdObjects : List (Keyword × StatementType) :=
  [(.table, .createTable), (.database, .createDatabase), (.trigger, .createTrigger),
   (.function, .createFunction)]

def droppedObjects : List (Keyword × StatementType) :=
  [(.table, .dropTable), (.database, .dropDatabase)]

def steps : Opening → List Step
  | .select => [.keyword .select .select]
  | .insert => [.keyword .insert .insert]
  | .update => [.keyword .update .update]
  | .delete => [.keyword .delete .delete]
  | .truncate => [.keyword .truncate .truncate]
  | .create => [.leading .create, .object createdObjects]
  | .drop => [.leading .drop, .object droppedObjects]
  | .unknown => [⟨[], [], .assign .unknown⟩]

def step? (o : Opening) (index : Int) : Option Step :=
  let i := if index < 0 then o.steps.length + index else index
  if i < 0 then none else o.steps[i.toNat]?

end Opening

end SqlScript
