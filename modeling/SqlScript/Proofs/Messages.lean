import SqlScript.CommandLine.Console
import SqlScript.Report

/-!
What is said about a refusal. A report of it says just the message, and nothing but the text of the
refused token could be read by a console.
-/

set_option autoImplicit false

namespace SqlScript

section

variable {p : Char → Bool} {s : List Char}

end

def Unread (s : List Char) : Prop := ∀ c ∈ s, CommandLine.Console.isUnread c = true

instance (s : List Char) : Decidable (Unread s) :=
  List.decidableBAll (fun c => CommandLine.Console.isUnread c = true) s

namespace Unread

variable {s t : List Char}

theorem append (hs : Unread s) (ht : Unread t) : Unread (s ++ t) := fun c hc =>
  (List.mem_append.1 hc).elim (hs c) (ht c)

end Unread

namespace StatementError

end StatementError

end SqlScript
