import SqlScript.Pattern
import SqlScript.Statement
import SqlScript.Text.Lower

/-!
What the dialects of SQL differ in: their quotations and comments, the statements that have a body,
how such a body ends, and the clauses between `CREATE` and the object that it creates.
-/

set_option autoImplicit false

namespace SqlScript

inductive Dialect where
  | mssql | sqlite | mysql | psql | generic
  deriving DecidableEq, Repr

namespace Dialect

def name : Dialect → String
  | .mssql => "mssql"
  | .sqlite => "sqlite"
  | .mysql => "mysql"
  | .psql => "psql"
  | .generic => "generic"

def all : List Dialect := [.mssql, .sqlite, .mysql, .psql, .generic]

def ofName? (given : List Char) : Option Dialect :=
  let small := Text.lower given
  all.find? fun d => d.name.toList == small

def bodyTypes : Dialect → List StatementType
  | .mssql | .sqlite => [.createFunction, .createTrigger]
  | .psql => [.createFunction]
  | .mysql | .generic => []

def tracksBlocks : Dialect → Bool
  | .psql => true
  | _ => false

def blockOpeners : Dialect → List Keyword
  | .psql => [.begin, .case_, .if_, .loop]
  | _ => []

def blockEnders (_ : Dialect) : List Keyword := [.end_]

/-- Keywords that let a body end while no block is open. -/
def bodyEndMarkers : Dialect → List Keyword
  | .psql => [.language]
  | _ => []

def createOptions : Dialect → List Keyword
  | .psql => [.or, .replace]
  | _ => []

def supportsDefiner : Dialect → Bool
  | .mysql => true
  | _ => false

def doubled (c : Char) : Pattern := .quoted ⟨c, c, true, false⟩

def backslashed (c : Char) : Pattern := .quoted ⟨c, c, true, true⟩

def lineComments : Dialect → List Pattern
  | .mysql => [.lineComment ['-', '-'], .lineComment ['#']]
  | _ => [.lineComment ['-', '-']]

def quotations : Dialect → List Pattern
  | .generic => [doubled '\'', doubled '"']
  | .sqlite => [doubled '\'', doubled '"', doubled '\x60', .quoted ⟨'[', ']', false, false⟩]
  | .mssql => [doubled '\'', doubled '"', .quoted ⟨'[', ']', true, false⟩]
  | .mysql => [backslashed '\'', backslashed '"', doubled '\x60']
  | .psql => [doubled '\'', doubled '"', .dollarQuoted]

def patterns (d : Dialect) : List Pattern :=
  [.blanks] ++ d.lineComments ++ [.blockComment] ++ d.quotations ++ [.semicolon, .word, .anyChar]

def hasBody (d : Dialect) (s : Statement) : Bool :=
  match s.type with
  | none => false
  | some type => d.bodyTypes.contains type

/-- Whether a semicolon at this point belongs to the statement's body. -/
def suppresses (d : Dialect) (s : Statement) : Bool :=
  d.hasBody s && (!s.canEnd || s.hasOpenBlock)

end Dialect

end SqlScript
