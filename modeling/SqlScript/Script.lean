import SqlScript.Classifier
import SqlScript.Scan
import SqlScript.Settings

/-!
Splitting a script. The tokens go to the statement under way; one that is not blank begins a
statement where none is. A statement is sealed at the semicolon that ends it, the last one at the
latest where the script ends.
-/

set_option autoImplicit false

namespace SqlScript

/-- The statement as it is reported: it ends at the given offset, and a type that its head has not
told is unknown. -/
def Statement.seal (stop : Int) (s : Statement) : Statement :=
  match s.type with
  | some _ => { s with stop := stop }
  | none =>
    { s with stop := stop, type := some .unknown, execution := some StatementType.unknown.execution }

def Classifier.take (c : Classifier) (t : Token) :
    Except StatementError (Option Classifier × Option Statement) :=
  match c.feed t with
  | (_, some e) => .error e
  | (c, none) =>
    if c.statement.terminated then .ok (none, some (c.statement.seal (t.stop - 1)))
    else .ok (some c, none)

def advance (set : Settings) (current : Option Classifier) (t : Token) :
    Except StatementError (Option Classifier × Option Statement) :=
  match current with
  | some c => c.take t
  | none =>
    if t.isBlank then .ok (none, none)
    else do
      let c ← Classifier.ofFirst set.dialect set.strict t
      c.take t

/-- The statements that the tokens end or leave under way, in order. -/
def statementsFrom (set : Settings) (last : Int) :
    Option Classifier → List Token → Except StatementError (List Statement)
  | current, [] => .ok (current.map fun c => c.statement.seal last).toList
  | current, t :: ts => do
    let (next, sealed) ← advance set current t
    let rest ← statementsFrom set last next ts
    pure (sealed.toList ++ rest)

structure Parsed where
  start : Int
  stop : Int
  body : List Statement
  tokens : List Token
  deriving DecidableEq, Repr

def lastOffset (script : List Char) : Int := (script.length : Int) - 1

def parse (set : Settings) (script : List Char) : Except StatementError Parsed := do
  let tokens := tokenize set.dialect script
  let body ← statementsFrom set (lastOffset script) none tokens
  pure ⟨0, lastOffset script, body, tokens⟩

inductive Event where
  | token (t : Token)
  | statement (s : Statement)
  deriving DecidableEq, Repr

/-- A token is told before it is taken, a statement once it is sealed. A refused token is the last
event. -/
def eventsFrom (set : Settings) (last : Int) : Option Classifier → List Token → List Event
  | current, [] => (current.map fun c => Event.statement (c.statement.seal last)).toList
  | current, t :: ts =>
    .token t ::
      match advance set current t with
      | .error _ => []
      | .ok (next, sealed) => (sealed.map Event.statement).toList ++ eventsFrom set last next ts

def events (set : Settings) (script : List Char) : List Event :=
  eventsFrom set (lastOffset script) none (tokenize set.dialect script)

end SqlScript
