import SqlScript.Json.Value
import SqlScript.Script
import SqlScript.Text.Spelling

/-!
Events of a run as one line of text and as an object.
-/

set_option autoImplicit false

namespace SqlScript

/-- An event with the dialect of the run. Its kind is `token` or `statement` where the run tells it;
an event from elsewhere may have any kind, and any of the two parts. -/
structure TraceEvent where
  kind : List Char
  dialect : List Char
  token : Option Token := none
  statement : Option Statement := none
  deriving DecidableEq, Repr

def Event.toTrace (d : Dialect) : Event → TraceEvent
  | .token t => ⟨"token".toList, d.name.toList, some t, none⟩
  | .statement s => ⟨"statement".toList, d.name.toList, none, some s⟩

def Token.json (t : Token) : Json :=
  .obj [("type".toList, .ofString t.kind.name), ("value".toList, .str t.text),
    ("start".toList, .int t.start), ("end".toList, .int t.stop)]

def Json.ofName? : Option String → Json
  | some name => .ofString name
  | none => .null

def Statement.terminator (s : Statement) : Json :=
  if s.terminated then .str [';'] else .null

def Statement.blocks (s : Statement) : Json :=
  match s.openBlocks with
  | some n => .int n
  | none => .null

def Statement.json (s : Statement) : Json :=
  .obj [("start".toList, .int s.start), ("end".toList, .int s.stop),
    ("type".toList, .ofName? (s.type.map (·.name))),
    ("execution_type".toList, .ofName? (s.execution.map (·.name))),
    ("end_statement".toList, s.terminator), ("can_end".toList, .bool s.canEnd),
    ("open_blocks".toList, s.blocks)]

namespace TraceEvent

def fields (e : TraceEvent) : Json.Fields :=
  [("kind".toList, .str e.kind), ("dialect".toList, .str e.dialect)] ++
    (e.token.map fun t => ("token".toList, t.json)).toList ++
    (e.statement.map fun s => ("statement".toList, s.json)).toList

def statementLine (dialect : List Char) (s : Statement) : List Char :=
  let type := match s.type with
    | some type => type.name.toList
    | none => ['?']
  '[' :: dialect ++ "] statement ".toList ++ type ++ " [".toList ++ Text.signedDecimal s.start ++
    ", ".toList ++ Text.signedDecimal s.stop ++ [']']

def tokenLine (dialect : List Char) (t : Token) : List Char :=
  '[' :: dialect ++ "] token ".toList ++ t.kind.name.toList ++ ' ' :: Text.quoted t.text ++
    " @".toList ++ Text.signedDecimal t.start

def line (e : TraceEvent) : List Char :=
  match e.statement, e.token with
  | some s, token =>
    if e.kind = "statement".toList then statementLine e.dialect s
    else match token with
      | some t => tokenLine e.dialect t
      | none => '[' :: e.dialect ++ "] ".toList ++ e.kind
  | none, some t => tokenLine e.dialect t
  | none, none => '[' :: e.dialect ++ "] ".toList ++ e.kind

end TraceEvent

end SqlScript
