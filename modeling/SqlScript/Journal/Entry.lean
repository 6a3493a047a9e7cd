import SqlScript.Journal.Level
import SqlScript.Json.Printer

/-!
Entries of the journal and the two styles in which they are written.
-/

set_option autoImplicit false

namespace SqlScript

inductive Style where
  | structured
  | simple
  deriving DecidableEq, Repr

def Style.name : Style → String
  | .structured => "structured"
  | .simple => "simple"

/-- The style that a name means: every name but one means the simple style. -/
def Style.ofName (given : List Char) : Style :=
  if given = "structured".toList then .structured else .simple

structure Origin where
  module : List Char
  function : List Char
  line : Int
  deriving DecidableEq, Repr

structure Entry where
  logger : List Char
  level : Level
  message : List Char
  origin : Origin
  extra : Json.Fields := []
  fault : Option (List Char) := none

namespace Entry

def baseFields (time : List Char) (e : Entry) : Json.Fields :=
  [("timestamp".toList, .str time), ("level".toList, .ofString e.level.name),
    ("logger".toList, .str e.logger), ("message".toList, .str e.message),
    ("module".toList, .str e.origin.module), ("function".toList, .str e.origin.function),
    ("line".toList, .int e.origin.line)]

def correlationFields (id : Option (List Char)) : Json.Fields :=
  match id with
  | none | some [] => []
  | some id => [("correlation_id".toList, .str id)]

def faultFields (e : Entry) : Json.Fields :=
  match e.fault with
  | none => []
  | some text => [("exception".toList, .str text)]

/-- The entry as an object. A field that is written again keeps its place and takes the last value,
in the order: base fields, identifier, extra fields, fault. -/
def fields (time : List Char) (id : Option (List Char)) (e : Entry) : Json.Fields :=
  (((e.baseFields time).putAll (correlationFields id)).putAll e.extra).putAll e.faultFields

def structuredLine (time : List Char) (id : Option (List Char)) (e : Entry) : List Char :=
  (Json.obj (e.fields time id)).render

def withFault (line : List Char) (e : Entry) : List Char :=
  match e.fault with
  | none | some [] => line
  | some text => if line.getLast? = some '\n' then line ++ text else line ++ '\n' :: text

def simpleLine (time : List Char) (e : Entry) : List Char :=
  e.withFault (time ++ " - ".toList ++ e.logger ++ " - ".toList ++ e.level.name.toList ++
    " - ".toList ++ e.message)

def bareLine (e : Entry) : List Char := e.withFault e.message

def line (style : Style) (time : List Char) (id : Option (List Char)) (e : Entry) : List Char :=
  match style with
  | .structured => e.structuredLine time id
  | .simple => e.simpleLine time

end Entry

def faultText (kind text : List Char) : List Char :=
  if text.isEmpty then kind else kind ++ ": ".toList ++ text

end SqlScript
