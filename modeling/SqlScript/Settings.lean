import SqlScript.Dialect
import SqlScript.Failure
import SqlScript.Json.Display

/-!
What a run is told: the dialect of the script, whether statements that cannot be classified are
refused, and whether someone observes the run.
-/

set_option autoImplicit false

namespace SqlScript

inductive SettingsError where
  | dialectNotText (typeName : String)
  | unsupportedDialect (given : List Char)
  | observerNotCallable
  deriving DecidableEq, Repr

namespace SettingsError

def kind : SettingsError → ErrorKind
  | .dialectNotText _ | .observerNotCallable => .improperConfiguration
  | .unsupportedDialect _ => .unsupportedDialect

def unsupportedMessage (given : List Char) (supported : List (List Char)) : List Char :=
  "Unsupported dialect ".toList ++ given ++ ". Expected one of: ".toList ++
    ", ".toList.intercalate supported

def message : SettingsError → List Char
  | .dialectNotText typeName => "Dialect must be a string, got ".toList ++ typeName.toList
  | .unsupportedDialect given =>
    unsupportedMessage (Text.quoted given) (Dialect.all.map (·.name.toList))
  | .observerNotCallable => "Observer must be callable".toList

end SettingsError

def Dialect.require (given : List Char) : Except SettingsError Dialect :=
  match Dialect.ofName? given with
  | some d => .ok d
  | none => .error (.unsupportedDialect given)

inductive Observer where
  | absent
  | callable
  | other
  deriving DecidableEq, Repr

structure Settings where
  strict : Bool := true
  dialect : Dialect := .generic
  observed : Bool := false
  deriving DecidableEq, Repr

/-- Checks the dialect before the observer. -/
def Settings.check (strict : Bool) (dialect : Json) (observer : Observer) :
    Except SettingsError Settings := do
  match dialect with
  | .str given =>
    let d ← Dialect.require given
    match observer with
    | .absent => pure ⟨strict, d, false⟩
    | .callable => pure ⟨strict, d, true⟩
    | .other => throw .observerNotCallable
  | v => throw (.dialectNotText v.typeName)

end SqlScript
