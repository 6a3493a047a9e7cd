import SqlScript.Proofs.Lookahead

/-!
Asking the scanner for one token after the other. It has a token at every offset of the script and
at no other one; each ends behind the offset at which it was asked for, so the script is used up,
and no character of it is lost.
-/

set_option autoImplicit false

namespace SqlScript

structure Token.PartOf (script : List Char) (t : Token) : Prop where
  nonneg : 0 ≤ t.start
  advances : t.start < t.stop
  within : t.stop ≤ script.length
  text : t.text = Text.slice script t.start t.stop

/-- The tokens that the scanner has from an offset on, if each is asked for where the one before it
ends, and none is once the script is used up. -/
inductive Pulls (d : Dialect) (script : List Char) : Int → List Token → Prop where
  | done {i : Int} : (script.length : Int) ≤ i → Pulls d script i []
  | token {i : Int} {t : Token} {ts : List Token} : i < script.length →
      tokenAt d script i = .ok t → Pulls d script t.stop ts → Pulls d script i (t :: ts)

theorem tokenAt_eq_error_iff {d : Dialect} {script : List Char} {i : Int} :
    tokenAt d script i = .error ⟨i, script.length⟩ ↔ i < 0 ∨ (script.length : Int) ≤ i := by
  unfold tokenAt
  split
  · rename_i h
    exact iff_of_true rfl h
  · rename_i h
    exact iff_of_false (by simp) h

theorem tokenAt_natCast {d : Dialect} {script : List Char} {n : Nat} (h : n < script.length) :
    tokenAt d script n = .ok (frontToken d.patterns n (script.drop n)) := by
  have hin : ¬ ((n : Int) < 0 ∨ (script.length : Int) ≤ n) := by omega
  rw [tokenAt, if_neg hin, Int.toNat_natCast]

theorem partOf_frontToken (d : Dialect) {script : List Char} {n : Nat} (h : n < script.length) :
    (frontToken d.patterns n (script.drop n)).PartOf script := by
  have hrest : script.drop n ≠ [] := by
    rw [ne_eq, List.drop_eq_nil_iff]
    omega
  have hpos := lexeme_pos d.patterns (script.drop n)
  have hle := lexeme_le d.patterns hrest
  rw [List.length_drop] at hle
  refine ⟨?_, ?_, ?_, ?_⟩ <;> simp only [frontToken]
  · omega
  · omega
  · omega
  · have hstop : (n : Int) + (lexeme d.patterns (script.drop n)).2 =
        ((n + (lexeme d.patterns (script.drop n)).2 : Nat) : Int) := by omega
    rw [hstop, Text.slice_natCast _ _ _ (by omega), Nat.add_sub_cancel_left]

theorem exists_tokenAt (d : Dialect) {script : List Char} {i : Int} (hi : 0 ≤ i)
    (hlt : i < script.length) :
    ∃ t, tokenAt d script i = .ok t ∧ t.start = i ∧ t.PartOf script := by
  obtain ⟨n, rfl⟩ := Int.eq_ofNat_of_zero_le hi
  have hn : n < script.length := by omega
  exact ⟨_, tokenAt_natCast hn, rfl, partOf_frontToken d hn⟩

theorem partOf_of_mem {d : Dialect} {script : List Char} {t : Token}
    (h : t ∈ tokenize d script) : t.PartOf script := by
  obtain ⟨k, hk, rfl⟩ := mem_tokensFrom h
  rw [Nat.zero_add]
  exact partOf_frontToken d hk

theorem pulls_tokensFrom (d : Dialect) {script s : List Char} {n : Nat} (h : script.drop n = s) :
    Pulls d script n (tokensFrom d.patterns n s) := by
  fun_induction tokensFrom d.patterns n s with
  | case1 n =>
    rw [List.drop_eq_nil_iff] at h
    exact .done (by omega)
  | case2 n c r m ih =>
    have hn : n < script.length := by
      rw [← Nat.not_le, ← List.drop_eq_nil_iff, h]
      exact List.cons_ne_nil c r
    have htoken := tokenAt_natCast (d := d) hn
    rw [h] at htoken
    refine .token (by omega) htoken ?_
    rw [← List.drop_drop, h] at ih
    exact ih rfl

theorem Pulls.unique {d : Dialect} {script : List Char} {i : Int} {ts us : List Token}
    (h : Pulls d script i ts) (hu : Pulls d script i us) : us = ts := by
  induction h generalizing us with
  | done hi =>
    cases hu with
    | done => rfl
    | token hlt => omega
  | token hlt ht _ ih =>
    cases hu with
    | done hi => omega
    | token _ ht' hrest =>
      obtain rfl := Except.ok.inj (ht.symm.trans ht')
      rw [ih hrest]

theorem pulls_iff {d : Dialect} {script : List Char} {ts : List Token} :
    Pulls d script 0 ts ↔ ts = tokenize d script := by
  have hall : Pulls d script 0 (tokenize d script) := pulls_tokensFrom d List.drop_zero
  exact ⟨hall.unique, fun h => h ▸ hall⟩

/-- What the scanner makes of a script. -/
structure Lossless (d : Dialect) (script : List Char) : Prop where
  pulled : ∀ ts, Pulls d script 0 ts ↔ ts = tokenize d script
  tiles : Tiles 0 (tokenize d script) script.length
  parts : ∀ t ∈ tokenize d script, t.PartOf script
  joined : textOf (tokenize d script) = script
  refused : ∀ i : Int, tokenAt d script i = .error ⟨i, script.length⟩ ↔
    i < 0 ∨ (script.length : Int) ≤ i
  scanned : ∀ i : Int, 0 ≤ i → i < script.length →
    ∃ t, tokenAt d script i = .ok t ∧ t.start = i ∧ t.PartOf script

/-- No text is beyond the scanner, and none of it is lost. -/
theorem lossless (d : Dialect) (script : List Char) : Lossless d script where
  pulled _ := pulls_iff
  tiles := tiles_tokenize d script
  parts _ := partOf_of_mem
  joined := textOf_tokenize d script
  refused _ := tokenAt_eq_error_iff
  scanned _ := exists_tokenAt d

end SqlScript
