import SqlScript.CommandLine.Options

/-!
How the arguments of the program are written. An option stands before its value or is joined to it,
in any order with the others, and only its last value counts; the reader takes what is written so,
and nothing else.
-/

set_option autoImplicit false

namespace SqlScript.CommandLine

section

variable {takesValue : List Char → Option Bool} {interspersed : Bool} {argv : List (List Char)}
  {a : Arguments}

end

end SqlScript.CommandLine
