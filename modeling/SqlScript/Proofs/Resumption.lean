import SqlScript.Proofs.Lookahead
import SqlScript.Proofs.Shift

/-!
A script may be cut behind any statement that a semicolon ends: what stands behind the cut is split
as a script of its own, whatever it is.
-/

set_option autoImplicit false

namespace SqlScript

/-- The tokens through the end of a terminated statement yield the statements up to it, whatever
follows them. -/
theorem Splits.front {set : Settings} {last : Int} {ts : List Token} {body : List Statement}
    (h : Splits set last ts body) {k : Nat} {s : Statement} (hk : body[k]? = some s)
    (hs : s.terminated = true) :
    ∃ a z b, ts = a ++ [z] ++ b ∧ z.kind = .semicolon ∧ s.stop = z.stop - 1 ∧
      ∀ last' us, statementsFrom set last' none (a ++ [z] ++ us) =
        (statementsFrom set last' none us).map (body.take (k + 1) ++ ·) := by
  induction h generalizing k with
  | nil => simp at hk
  | @blank t ts body ht _ ih =>
    obtain ⟨a, z, b, rfl, hz, hstop, hrest⟩ := ih hk
    refine ⟨t :: a, z, b, rfl, hz, hstop, ?_⟩
    intro last' us
    rw [List.cons_append, List.cons_append, statementsFrom_blank _ ht, hrest]
  | @ended t us ts c body ht hc hend _ ih =>
    cases k with
    | zero =>
      obtain rfl := Option.some.inj hk
      have hlast := Classifier.last_of_terminated hc hend
      refine ⟨(t :: us).dropLast, us.getLastD t, ts, ?_, hlast, by simp, ?_⟩
      · rw [concat_getLastD]
      · intro last' vs
        rw [concat_getLastD, statementsFrom_ended vs ht hc hend]
        rfl
    | succ k =>
      obtain ⟨a, z, b, rfl, hz, hstop, hrest⟩ := ih hk
      refine ⟨t :: us ++ a, z, b, by simp, hz, hstop, ?_⟩
      intro last' vs
      rw [List.append_assoc, List.append_assoc, statementsFrom_ended _ ht hc hend,
        ← List.append_assoc, hrest]
      cases statementsFrom set last' none vs <;> rfl
  | underWay ht hc hopen =>
    cases k with
    | zero =>
      obtain rfl := Option.some.inj hk
      simp [hopen] at hs
    | succ k => simp at hk

theorem tokenize_shift (d : Dialect) (n : Nat) (s : List Char) :
    tokensFrom d.patterns n s = (tokenize d s).map (·.shift n) := by
  have h := tokensFrom_shift d.patterns n 0 s
  rwa [Nat.zero_add] at h

theorem lastOffset_append (w x : List Char) :
    lastOffset (w ++ x) = lastOffset x + w.length := by
  simp only [lastOffset, List.length_append]
  omega

theorem tokenize_front {d : Dialect} {script : List Char} {a b : List Token} {z : Token}
    (h : tokenize d script = a ++ [z] ++ b) :
    z.stop = (textOf (a ++ [z])).length ∧
      script.take (textOf (a ++ [z])).length = textOf (a ++ [z]) ∧
      (tokenize d script).filter (fun t => t.stop ≤ ((textOf (a ++ [z])).length : Int)) =
        a ++ [z] := by
  have htile := tiles_tokenize d script
  rw [h] at htile
  obtain ⟨m, hfront, hback⟩ := tiles_append.1 htile
  have hm : m = (textOf (a ++ [z])).length := by
    have hm := hfront.stop_eq
    omega
  subst hm
  have htext : script = textOf (a ++ [z]) ++ textOf b := by
    rw [← textOf_append, ← h, textOf_tokenize]
  refine ⟨hfront.stop_last, ?_, ?_⟩
  · rw [htext, List.take_left]
  · rw [h]
    exact hfront.filter_stop_le hback

theorem tokenize_resume {d : Dialect} {script : List Char} {a b : List Token} {z : Token}
    (h : tokenize d script = a ++ [z] ++ b) (hz : z.kind = .semicolon) (x : List Char) :
    tokenize d (textOf (a ++ [z]) ++ x) =
      a ++ [z] ++ (tokenize d x).map (·.shift (textOf (a ++ [z])).length) := by
  rw [← List.append_cons] at h ⊢
  have hread := tokensFrom_semicolon x hz a 0 script h
  rw [Nat.zero_add, tokenize_shift _ (textOf (a ++ [z])).length] at hread
  exact hread

/-- The script may be cut at `e`, behind the statement of the given index: the tokens and the
statements before the cut stay as they are, and any text that follows it is taken apart or refused
as if it stood alone, only further behind. -/
structure Cuts (set : Settings) (script : List Char) (p : Parsed) (k e : Nat) : Prop where
  le : e ≤ script.length
  semicolon : (script.take e).getLast? = some ';'
  tokens (x : List Char) : tokenize set.dialect (script.take e ++ x) =
    p.tokens.filter (fun t => t.stop ≤ (e : Int)) ++ (tokenize set.dialect x).map (·.shift e)
  parsed (x : List Char) : parse set (script.take e ++ x) =
    ((parse set x).map fun q =>
      { start := 0
        stop := q.stop + e
        body := p.body.take (k + 1) ++ q.body.map (·.shift e)
        tokens := p.tokens.filter (fun t => t.stop ≤ (e : Int)) ++
          q.tokens.map (·.shift e) }).mapError (·.shift e)

theorem cuts_of_terminated {set : Settings} {script : List Char} {p : Parsed} {k : Nat}
    {s : Statement} (h : parse set script = .ok p) (hk : p.body[k]? = some s)
    (hs : s.terminated = true) : ∃ e : Nat, (e : Int) = s.stop + 1 ∧ Cuts set script p k e := by
  obtain ⟨htok, hsplit⟩ := parse_ok h
  obtain ⟨a, z, b, hab, hz, hstop, hrun⟩ := hsplit.front hk hs
  rw [htok] at hab
  have hmem : z ∈ tokenize set.dialect script := by simp [hab]
  have htext := (semicolon_token hmem hz).1
  obtain ⟨hend, htake, hseen⟩ := tokenize_front hab
  refine ⟨(textOf (a ++ [z])).length, by omega, ?_, ?_, ?_, ?_⟩
  · have hle := congrArg List.length htake
    rw [List.length_take] at hle
    omega
  · rw [htake]
    simp [htext]
  · intro x
    rw [htake, htok, hseen, tokenize_resume hab hz]
  · intro x
    have hshift := statementsFrom_shift (textOf (a ++ [z])).length set (lastOffset x) none
      (tokenize set.dialect x)
    rw [Option.map_none] at hshift
    rw [htake, htok, hseen, parse_eq, parse_eq, lastOffset_append, tokenize_resume hab hz, hrun,
      hshift]
    cases statementsFrom set (lastOffset x) none (tokenize set.dialect x) with
    | error e => rfl
    | ok body => rfl

/-- A semicolon in the quotation that is a function's body is no cut, the one behind it is. -/
theorem cuts_behind_function :
    let script := "CREATE FUNCTION f AS $$;$$ LANGUAGE sql;SELECT '".toList
    ∃ p s, parse { dialect := .psql } script = .ok p ∧ p.body[0]? = some s ∧
      s.terminated = true ∧ s.stop = 39 ∧ ∃ e : Nat, (e : Int) = s.stop + 1 ∧
      Cuts { dialect := .psql } script p 0 e := by
  intro script
  have h : ((parse { dialect := .psql } script).toOption.bind (·.body[0]?)).map
      (fun s => (s.terminated, s.stop)) = some (true, 39) := by decide +kernel
  obtain ⟨s, hb, hs⟩ := Option.map_eq_some_iff.1 h
  obtain ⟨p, hp, hk⟩ := Option.bind_eq_some_iff.1 hb
  obtain ⟨hend, hstop⟩ := Prod.mk.inj hs
  have hp := ok_of_toOption hp
  exact ⟨p, s, hp, hk, hend, hstop, cuts_of_terminated hp hk hend⟩

end SqlScript
