import SqlScript.Journal.Entry
import SqlScript.Settings
import SqlScript.Text.Lower

/-!
The arguments of the program and the options that they give. An option is spelled with dashes; the
value of one that takes a value stands behind an equals sign or in the next argument. The options of
the journal stand before the command, those of the command behind it.
-/

set_option autoImplicit false

namespace SqlScript.CommandLine

/-- What stands in an argument list: options with their values in order, a flag's value being empty,
and the other arguments. -/
structure Arguments where
  options : List (List Char × List Char)
  others : List (List Char)
  deriving DecidableEq, Repr

def splitOption (argument : List Char) : List Char × Option (List Char) :=
  match argument.dropWhile (· != '=') with
  | '=' :: value => (argument.takeWhile (· != '='), some value)
  | _ => (argument, none)

def isOption : List Char → Bool
  | '-' :: _ :: _ => true
  | _ => false

def Arguments.addOption (name value : List Char) (a : Arguments) : Arguments :=
  { a with options := (name, value) :: a.options }

def Arguments.addOther (argument : List Char) (a : Arguments) : Arguments :=
  { a with others := argument :: a.others }

/-- Reads arguments, or refuses them. `takesValue` says whether an option takes a value and knows
nothing of other options. Where options are not interspersed, the first argument that is none ends
them; two dashes end them everywhere. -/
def readArguments (takesValue : List Char → Option Bool) (interspersed : Bool) :
    List (List Char) → Option Arguments
  | [] => some ⟨[], []⟩
  | argument :: r =>
    if argument = ['-', '-'] then some ⟨[], r⟩
    else if isOption argument then
      let (name, value?) := splitOption argument
      match takesValue name, value?, r with
      | some true, some value, r =>
        (readArguments takesValue interspersed r).map (·.addOption name value)
      | some true, none, value :: r =>
        (readArguments takesValue interspersed r).map (·.addOption name value)
      | some false, none, r => (readArguments takesValue interspersed r).map (·.addOption name [])
      | _, _, _ => none
    else if interspersed then
      (readArguments takesValue interspersed r).map (·.addOther argument)
    else some ⟨[], argument :: r⟩

def Arguments.last? (a : Arguments) (names : List (List Char)) : Option (List Char × List Char) :=
  (a.options.reverse).find? fun o => names.contains o.1

inductive OutputFormat where
  | table
  | json
  deriving DecidableEq, Repr

def OutputFormat.name : OutputFormat → String
  | .table => "table"
  | .json => "json"

structure Invocation where
  level : Level := .warning
  style : Style := .simple
  correlationId : Option (List Char) := none
  dialect : Dialect := .generic
  strict : Bool := true
  format : OutputFormat := .table
  trace : Bool := false
  script : List Char := ['-']
  deriving DecidableEq, Repr

def choice? {α : Type} (name : α → String) (choices : List α) (value : List Char) : Option α :=
  choices.find? fun a => Text.matchesCaselessly value (name a).toList

def chosen? {α : Type} (a : Arguments) (option : String) (name : α → String) (choices : List α)
    (unset : α) : Option α :=
  match a.last? [option.toList] with
  | none => some unset
  | some (_, value) => choice? name choices value

def levels : List Level := [.debug, .info, .warning, .error]

def journalOption (name : List Char) : Option Bool :=
  if ["--log-level", "--log-format", "--correlation-id"].any (·.toList == name) then some true
  else none

def commandOption (name : List Char) : Option Bool :=
  if ["--dialect", "--format"].any (·.toList == name) then some true
  else if ["--strict", "--no-strict", "--trace"].any (·.toList == name) then some false
  else none

def commandName : List Char := "identify".toList

def Invocation.ofArguments? (argv : List (List Char)) : Option Invocation := do
  let outer ← readArguments journalOption false argv
  let level ← chosen? outer "--log-level" Level.name levels .warning
  let style ← chosen? outer "--log-format" Style.name [.simple, .structured] .simple
  let correlationId := (outer.last? ["--correlation-id".toList]).map Prod.snd
  match outer.others with
  | [] => none
  | command :: rest =>
    if command ≠ commandName then none
    else do
      let inner ← readArguments commandOption true rest
      let dialect ← chosen? inner "--dialect" Dialect.name Dialect.all .generic
      let format ← chosen? inner "--format" OutputFormat.name [.table, .json] .table
      let strict := match inner.last? ["--strict".toList, "--no-strict".toList] with
        | none => true
        | some (name, _) => name == "--strict".toList
      let trace := (inner.last? ["--trace".toList]).isSome
      match inner.others with
      | [] => some ⟨level, style, correlationId, dialect, strict, format, trace, ['-']⟩
      | [script] => some ⟨level, style, correlationId, dialect, strict, format, trace, script⟩
      | _ => none

end SqlScript.CommandLine
