import SqlScript.Settings
import SqlScript.Text.Words

/-!
Reports of failures as values that can be built from any arguments: what they say, how they show,
and which kinds they belong to.
-/

set_option autoImplicit false

namespace SqlScript

structure Report where
  kind : ErrorKind
  arguments : List (List Char)
  detail : List Char
  deriving DecidableEq, Repr

namespace Report

/-- A report from arguments and a detail. Arguments that count as not given are dropped. Without a
detail, the first of the others becomes the detail. -/
def ofArguments (kind : ErrorKind) (arguments : List Json) (detail : Json) : Report :=
  let texts := (arguments.filter Json.isGiven).map Json.display
  if detail.isGiven then ⟨kind, texts, detail.display⟩
  else match texts with
    | [] => ⟨kind, [], []⟩
    | first :: rest => ⟨kind, rest, first⟩

def ofMessage (kind : ErrorKind) (message : Json) : Report :=
  match message with
  | .null => ofArguments kind [.str kind.defaultMessage] .null
  | v => ofArguments kind [v] .null

def unrecognizedStart (value position : Json) : Report :=
  ofMessage .unrecognizedStart
    (.str (StatementError.unrecognizedMessage value.display position.display))

def unsupportedDialect (dialect : Json) (supported : List (List Char)) : Report :=
  ofMessage .unsupportedDialect (.str (SettingsError.unsupportedMessage dialect.literal supported))

def missingDependency (package install : Json) : Report :=
  let source := if install.isGiven then install.display else package.display
  ofMessage .missingDependency <| .str <|
    "Package ".toList ++ package.literal ++
      " is not installed but required. You can install it by running 'pip install sqlident[".toList ++
      source ++ "]' to install sqlident with the required extra or 'pip install ".toList ++ source ++
      "' to install the package separately".toList

def text (r : Report) : List Char := Text.trim (Text.unwords (r.arguments ++ [r.detail]))

def summary (r : Report) : List Char :=
  if r.detail.isEmpty then r.kind.name.toList
  else r.kind.name.toList ++ " - ".toList ++ r.detail

end Report

end SqlScript
