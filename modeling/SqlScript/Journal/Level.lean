import SqlScript.Text.Spelling
import SqlScript.Text.Upper

/-!
Levels of the journal. An entry is written where its level is at least that which is set.
-/

set_option autoImplicit false

namespace SqlScript

inductive Level where
  | notset | debug | info | warning | error | critical
  deriving DecidableEq, Repr

namespace Level

def weight : Level → Nat
  | .notset => 0
  | .debug => 10
  | .info => 20
  | .warning => 30
  | .error => 40
  | .critical => 50

def name : Level → String
  | .notset => "NOTSET"
  | .debug => "DEBUG"
  | .info => "INFO"
  | .warning => "WARNING"
  | .error => "ERROR"
  | .critical => "CRITICAL"

def names : List (String × Level) :=
  [("NOTSET", .notset), ("DEBUG", .debug), ("INFO", .info), ("WARN", .warning),
   ("WARNING", .warning), ("ERROR", .error), ("FATAL", .critical), ("CRITICAL", .critical)]

/-- Why a name is refused: nothing has it, or it is that of the plain form of an entry, or that of
the table of such forms. -/
inductive Refusal where
  | unknown (capitals : List Char)
  | form
  | formTable
  deriving DecidableEq, Repr

def plainForm : List Char := "%(levelname)s:%(name)s:%(message)s".toList

def shownFormTable : List Char :=
  "\x7b'%': (<class 'logging.PercentStyle'>, ".toList ++ Text.quoted plainForm ++
    "), '\x7b': (<class 'logging.StrFormatStyle'>, ".toList ++
    "'\x7blevelname\x7d:\x7bname\x7d:\x7bmessage\x7d'".toList ++
    "), '$': (<class 'logging.StringTemplateStyle'>, ".toList ++
    "'$\x7blevelname\x7d:$\x7bname\x7d:$\x7bmessage\x7d')\x7d".toList

def Refusal.message : Refusal → List Char
  | .unknown capitals =>
    "module 'logging' has no attribute '".toList ++ capitals ++ ['\'']
  | .form => "Unknown level: ".toList ++ Text.quoted plainForm
  | .formTable => "Level not an integer or a valid string: ".toList ++ shownFormTable

def otherNames : List (String × Refusal) := [("BASIC_FORMAT", .form), ("_STYLES", .formTable)]

def ofName (given : List Char) : Except Refusal Level :=
  let capitals := Text.upper given
  match names.find? (fun p => p.1.toList == capitals) with
  | some (_, level) => .ok level
  | none =>
    match otherNames.find? (fun p => p.1.toList == capitals) with
    | some (_, refusal) => .error refusal
    | none => .error (.unknown capitals)

end Level

end SqlScript
