import SqlScript.CommandLine.Answer
import SqlScript.Proofs.Arguments
import SqlScript.Proofs.Messages
import SqlScript.Proofs.Shortening
import SqlScript.Proofs.Splitting

/-!
What the program answers is what the library finds in the script, whatever the console makes of it.
Neither the journal nor an observer has a part in it. What a console shows of a refusal, or of a table,
is what is said there only where it reads nothing in it.
-/

set_option autoImplicit false

namespace SqlScript

namespace CommandLine

/-- What can be seen of an answer outside of the journal: the exit code, the standard output and the
console. -/
def Answer.seen : Answer → Option (Nat × List Char × List (List Char))
  | .usageError => none
  | .done exit stdout console _ => some (exit, stdout, console)

def Invocation.library (v : Invocation) : Settings := { strict := v.strict, dialect := v.dialect }

def Console.seenTable (k : Console) (t : Table) : Nat × List Char × List (List Char) :=
  match k.show? (.table t) with
  | some shown => (0, [], [shown])
  | none => (1, [], [])

def Invocation.shows (k : Console) (v : Invocation) (script : List Char) :
    Nat × List Char × List (List Char) :=
  match identify v.library script with
  | .error e => (1, [], (k.show? (.markup (k.errorMarkup e))).toList)
  | .ok fs =>
    match v.format with
    | .json => (0, encode fs ++ ['\n'], [])
    | .table => k.seenTable (tabulate v.dialect.name.toList fs)

section

variable {k : Console} {v : Invocation} {script : List Char}

end

/-! ## What a lawful console shows -/

section

variable {k : Console} {time : List Char} {source : List Char → Option (List Char)}
  {argv : List (List Char)} {v : Invocation} {script : List Char}

end

end CommandLine

end SqlScript
