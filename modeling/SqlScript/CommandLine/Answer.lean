import SqlScript.CommandLine.Console
import SqlScript.CommandLine.Options
import SqlScript.Journal.Journal

/-!
What the program answers: its exit code, what it prints, and what it writes into the journal.
-/

set_option autoImplicit false

namespace SqlScript.CommandLine

inductive Answer where
  | usageError
  | done (exit : Nat) (stdout : List Char) (console : List (List Char)) (log : List Char)
  deriving DecidableEq, Repr

def Invocation.settings (v : Invocation) : Settings := ⟨v.strict, v.dialect, v.trace⟩

def Invocation.journal (v : Invocation) (time : List Char) : Journal × List Char :=
  let j : Journal := { correlationId := v.correlationId }
  match j.configure time v.level.name.toList (Style.name v.style).toList with
  | .ok set => set
  | .error _ => (j, [])

def errorMark : List Char := "Error identifying statements: ".toList

def Console.errorMarkup (k : Console) (e : StatementError) : List Char :=
  redMarkup (errorMark ++ k.escape e.message)

/-- The answer for a script. The cells of a table are not escaped: a console that refuses one ends
the program. -/
def Invocation.answer (k : Console) (v : Invocation) (time script : List Char) : Answer :=
  let script := Text.unifyNewlines script
  let (j, setup) := v.journal time
  let log := setup ++ j.writeRun time v.settings script
  match identify v.settings script with
  | .error e => .done 1 [] (k.show? (.markup (k.errorMarkup e))).toList log
  | .ok fs =>
    match v.format with
    | .json => .done 0 (encode fs ++ ['\n']) [] log
    | .table =>
      match k.show? (.table (tabulate v.dialect.name.toList fs)) with
      | some shown => .done 0 [] [shown] log
      | none => .done 1 [] [] log

def answer (k : Console) (time : List Char) (source : List Char → Option (List Char))
    (argv : List (List Char)) : Answer :=
  match Invocation.ofArguments? argv with
  | none => .usageError
  | some v =>
    match source v.script with
    | none => .usageError
    | some script => v.answer k time script

end SqlScript.CommandLine
