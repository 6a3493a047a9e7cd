import SqlScript.Dialect
import SqlScript.Step

/-!
One statement, fed token by token: the steps of its head tell its type, the dialect's clauses between
them are passed over, the blocks of its body are followed, and a semicolon that is not part of the
body ends it.
-/

set_option autoImplicit false

namespace SqlScript

/-- The state of the clause behind a token, and whether the token belongs to the clause. Blanks
close a principal, which may take several tokens. -/
def DefinerState.advance (mayBegin : Bool) (t : Token) : DefinerState → DefinerState × Bool
  | .inactive =>
    if mayBegin && t.keyword? == some .definer then (.sawDefiner, true) else (.inactive, false)
  | .sawDefiner =>
    if t.isBlank then (.sawDefiner, true)
    else if t.text == ['='] then (.sawEquals, true)
    else (.inactive, false)
  | .sawEquals => if t.isBlank then (.sawEquals, true) else (.consumingPrincipal, true)
  | .consumingPrincipal =>
    if t.isBlank then (.inactive, false) else (.consumingPrincipal, true)

/-- What a keyword does to the body that it stands in, and nothing where it has no part in the body's
blocks. An opener right behind `END` belongs to that `END`. -/
def Dialect.trackWord (d : Dialect) (followsEnd : Bool) (k : Keyword) (s : Statement) :
    Option Statement :=
  if d.blockEnders.contains k then
    if d.tracksBlocks then
      let left := max (s.openBlocks.getD 0 - 1) 0
      some { s with openBlocks := some left, canEnd := s.canEnd || left == 0 }
    else some { s with canEnd := true }
  else if d.tracksBlocks && d.blockOpeners.contains k then
    some (if followsEnd then s else { s with openBlocks := some (s.openBlocks.getD 0 + 1) })
  else if d.bodyEndMarkers.contains k && !s.hasOpenBlock then some { s with canEnd := true }
  else none

/-- A statement under way. `previous` is the last token that counted for the head, and
`lastBodyWord` the keyword that was the last token of the body, blanks apart. -/
structure Classifier where
  dialect : Dialect
  strict : Bool
  steps : List Step
  stepIndex : Nat := 0
  statement : Statement
  previous : Option Token := none
  lastBodyWord : Option Keyword := none
  deriving DecidableEq, Repr

namespace Classifier

def fresh (d : Dialect) (strict : Bool) (opening : Opening) (start : Int) : Classifier where
  dialect := d
  strict := strict
  steps := opening.steps
  statement :=
    { start := start, stop := start, openBlocks := if d.tracksBlocks then some 0 else none }

def ofFirst (d : Dialect) (strict : Bool) (t : Token) : Except StatementError Classifier :=
  match t.keyword?.bind Opening.ofKeyword? with
  | some opening => .ok (fresh d strict opening t.start)
  | none =>
    if strict then .error (.unrecognizedStart t.text t.start)
    else .ok (fresh d strict .unknown t.start)

def untyped (c : Classifier) : Bool := c.statement.type.isNone

def inHead (c : Classifier) : Bool := 0 < c.stepIndex && c.untyped

def trackBody (c : Classifier) (t : Token) : Classifier × Bool :=
  if t.isBlank || !c.dialect.hasBody c.statement then (c, false)
  else
    let followsEnd := c.lastBodyWord.any c.dialect.blockEnders.contains
    let c := { c with lastBodyWord := t.keyword? }
    match t.keyword?.bind fun k => c.dialect.trackWord followsEnd k c.statement with
    | some s => ({ c with statement := s }, true)
    | none => (c, false)

def skipsOption (c : Classifier) (t : Token) : Bool :=
  c.inHead && t.keyword?.any c.dialect.createOptions.contains

def takeStep (c : Classifier) (t : Token) : Except StatementError Classifier :=
  match c.steps[c.stepIndex]? with
  | none => .ok c
  | some first =>
    let index :=
      if first.givesWay t && c.stepIndex + 1 < c.steps.length then c.stepIndex + 1 else c.stepIndex
    let step := c.steps[index]?.getD first
    if c.strict && !step.hasRequiredBefore c.previous then
      .error (.missingBefore step.requiredBefore t.text index)
    else if c.strict && !step.accepts t then
      .error (.unaccepted step.accepted t.kind t.text index)
    else
      let s := step.effect.apply t c.statement
      .ok { c with
        statement := { s with execution := some (executionOf s.type) }
        stepIndex := if step.isOver t then index + 1 else index }

def feedHead (c : Classifier) (t : Token) : Classifier × Option StatementError :=
  if c.skipsOption t then ({ c with previous := some t }, none)
  else
    let (definer, taken) :=
      c.statement.definer.advance (c.dialect.supportsDefiner && c.inHead) t
    let c := { c with statement := { c.statement with definer := definer } }
    if taken then (c, none)
    else if t.isBlank then ({ c with previous := some t }, none)
    else if !c.untyped then (c, none)
    else
      match c.takeStep t with
      | .error e => (c, some e)
      | .ok c => ({ c with previous := some t }, none)

def feedSemicolon (c : Classifier) : Classifier :=
  let ends := !c.dialect.suppresses c.statement
  { c with lastBodyWord := none, statement := { c.statement with terminated := ends } }

/-- The state behind a token, and the reason why the token is refused if it is. -/
def feed (c : Classifier) (t : Token) : Classifier × Option StatementError :=
  if c.statement.terminated then (c, some .alreadyTerminated)
  else if t.kind = .semicolon then (c.feedSemicolon, none)
  else
    match c.trackBody t with
    | (c, true) => (c, none)
    | (c, false) => c.feedHead t

end Classifier

end SqlScript
