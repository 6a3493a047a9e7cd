import SqlScript.Proofs.Recasting
import SqlScript.Proofs.Tiling

/-!
Offsets are only carried along: text that stands further behind gives the same tokens and the same
statements further behind, and is refused for the same reason.
-/

set_option autoImplicit false

namespace SqlScript

def Token.shift (n : Int) (t : Token) : Token :=
  { t with start := t.start + n, stop := t.stop + n }

def Statement.shift (n : Int) (s : Statement) : Statement :=
  { s with start := s.start + n, stop := s.stop + n }

def StatementError.shift (n : Int) : StatementError → StatementError
  | .unrecognizedStart value position => .unrecognizedStart value (position + n)
  | .missingBefore required value stepIndex => .missingBefore required value stepIndex
  | .unaccepted accepted kind value stepIndex => .unaccepted accepted kind value stepIndex
  | .alreadyTerminated => .alreadyTerminated

def Classifier.shift (n : Int) (c : Classifier) : Classifier :=
  { c with statement := c.statement.shift n, previous := c.previous.map (·.shift n) }

def Token.relocate (g : Int → Int) (t : Token) : Token :=
  { t with start := g t.start, stop := g t.stop }

@[simp] theorem Token.relocate_kind (g : Int → Int) (t : Token) :
    (t.relocate g).kind = t.kind := rfl

def Classifier.relocate (g : Int → Int) (c : Classifier) : Classifier :=
  { c with statement := c.statement.relocate g, previous := c.previous.map (·.relocate g) }

namespace Classifier

/-- Only a first token that begins no statement is refused with its offset. -/
theorem feed_error_recast (g : Int → Int) (c : Classifier) (t : Token) :
    (c.feed t).2.map (·.recast id g) = (c.feed t).2 := by
  generalize hf : c.feed t = r
  obtain ⟨c', e⟩ := r
  have ho := outcome_of_feed hf
  cases ho with
  | refused p definer e _ _ _ _ _ hr =>
    unfold refusal? at hr
    split at hr
    · obtain rfl := Option.some.inj hr
      rfl
    · split at hr
      · obtain rfl := Option.some.inj hr
        rfl
      · contradiction
  | _ => rfl

theorem feed_relocate (g : Int → Int) (c : Classifier) (t : Token) :
    (c.relocate g).feed (t.relocate g) = ((c.feed t).1.relocate g, (c.feed t).2) := by
  have h := feed_recast (keepsWord_id t.text) g c
  rw [feed_error_recast] at h
  exact h

end Classifier

theorem StatementError.recast_shift (n : Int) (e : StatementError) :
    e.recast id (· + n) = e.shift n := by
  cases e <;> rfl

theorem statementsFrom_shift (n : Int) (set : Settings) (last : Int) (current : Option Classifier)
    (ts : List Token) :
    statementsFrom set (last + n) (current.map (·.shift n)) (ts.map (·.shift n)) =
      ((statementsFrom set last current ts).map (List.map (·.shift n))).mapError (·.shift n) := by
  have h := statementsFrom_recast (g := (· + n)) set last current
    (fun t _ => keepsWord_id t.text) (fun t (_ : t ∈ ts) _ => by omega)
  simp only [StatementError.recast_shift] at h
  exact h

theorem tokensFrom_shift (forms : List Pattern) (n i : Nat) (s : List Char) :
    tokensFrom forms (i + n) s = (tokensFrom forms i s).map (·.shift n) := by
  fun_induction tokensFrom forms i s with
  | case1 i => simp
  | case2 i c r m ih =>
    have hf : frontToken forms (i + n) (c :: r) = (frontToken forms i (c :: r)).shift n := by
      have hstart : ((i + n : Nat) : Int) = i + n := by omega
      have hstop : (i : Int) + n + (lexeme forms (c :: r)).2 =
          i + (lexeme forms (c :: r)).2 + n := by
        omega
      simp only [frontToken, Token.shift, hstart, hstop]
    have hi : i + n + m = i + m + n := by omega
    rw [tokensFrom_cons, hf, List.map_cons, ← ih, hi]

end SqlScript
