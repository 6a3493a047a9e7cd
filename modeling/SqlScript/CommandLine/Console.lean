import SqlScript.Listing

/-!
The console is not part of the program: what it makes of the tables and texts that it is given is a
parameter. A text is markup, with styles in brackets, and so is each cell of a table. A console
without styles is defined here for the program to run on.
-/

set_option autoImplicit false

namespace SqlScript.CommandLine

inductive Display where
  | table (t : Table)
  | markup (s : List Char)
  deriving DecidableEq, Repr

/-- A console. `escape` makes markup of a text, and `show?` says what can be read in the end, or
nothing where the markup is refused. -/
structure Console where
  escape : List Char → List Char
  show? : Display → Option (List Char)

def redMarkup (s : List Char) : List Char := "[red]".toList ++ s ++ "[/]".toList

namespace Console

def isUnread (c : Char) : Bool :=
  32 ≤ c.toNat && c.toNat < 127 && c != '[' && c != '\\' && c != ':'

/-- A text without tags and escapes. A code would take two colons. -/
structure Plain (s : List Char) : Prop where
  unread : ∀ c ∈ s, c = ':' ∨ isUnread c = true
  colons : s.count ':' ≤ 1

end Console

/-! ## A console without styles -/

end SqlScript.CommandLine

namespace SqlScript.Table

def pad (width : Nat) (cell : List Char) : List Char := cell.rightpad width ' '

def widths (t : Table) : List Nat :=
  t.rows.foldl (fun ws row => ws.zipWith max (row.map List.length)) (t.columns.map List.length)

def layoutRow (ws : List Nat) (row : List (List Char)) : List Char :=
  [' ', ' '].intercalate (ws.zipWith pad row)

def layout (t : Table) : List (List Char) :=
  let rule := [' ', ' '].intercalate (t.widths.map fun w => List.replicate w '-')
  [t.title, layoutRow t.widths t.columns, rule] ++ t.rows.map (layoutRow t.widths)

end SqlScript.Table

namespace SqlScript.CommandLine.Console

def unstyled (markup : List Char) : List Char :=
  let inner := (markup.dropWhile (· != ']')).drop 1
  inner.take (inner.length - 3)

def isDropped (c : Char) : Bool :=
  c == '\x07' || c == '\x08' || c == '\x0b' || c == '\x0c' || c == '\r'

/-- It reads no tags but those around a text, takes every table, and drops controls. -/
def terminal : Console where
  escape := id
  show?
    | .markup s => some ((unstyled s).filter (!isDropped ·))
    | .table t => some (['\n'].intercalate t.layout)

end SqlScript.CommandLine.Console
