import SqlScript.Proofs.Ending
import SqlScript.Proofs.Refusals
import SqlScript.Proofs.Strictness

/-!
The token that is taken for the object behind `CREATE` or `DROP`. Strict mode asks for white space
before it and passes over clauses, but the token that it looks at is not always the one right before
the object, and it passes over the clauses behind `DROP` as well.
-/

set_option autoImplicit false

namespace SqlScript

structure GivesUp (d : Dialect) (us gap clause : List Token) : Prop where
  dialect : d = .mysql
  split : us = gap ++ clause
  gap : HeadGap d gap
  clause : ClausePart .sawDefiner clause

/-- The token that strict mode looks at for the one before the object, between which and the leading
keyword `t` the tokens `us` stand. Of a clause that is given up it has seen nothing. -/
inductive LooksAt (d : Dialect) (t : Token) (us : List Token) : Token → Prop where
  | neighbour : HeadGap d us → LooksAt d t us (us.getLastD t)
  | beforeClause {gap clause : List Token} : GivesUp d us gap clause →
      LooksAt d t us (gap.getLastD t)

def objectRefusal? (k : Keyword) (seen x : Token) : Option StatementError :=
  if seen.kind ≠ .whitespace then some (.missingBefore [.whitespace] x.text 1)
  else if ∃ w ∈ k.objects, x.keyword? = some w then none
  else some (.unaccepted k.objects x.kind x.text 1)

section

variable {k : Keyword} {seen x : Token}

theorem objectRefusal?_eq_none : objectRefusal? k seen x = none ↔
    seen.kind = .whitespace ∧ ∃ w ∈ k.objects, x.keyword? = some w := by
  unfold objectRefusal?
  split
  · simp_all
  · split <;> simp_all

theorem objectRefusal?_eq_missingBefore :
    objectRefusal? k seen x = some (.missingBefore [.whitespace] x.text 1) ↔
      seen.kind ≠ .whitespace := by
  unfold objectRefusal?
  split
  · simp_all
  · split <;> simp_all

theorem kind_of_objectRefusal? {e : StatementError} (h : objectRefusal? k seen x = some e) :
    e.kind = .unexpectedSequence := by
  unfold objectRefusal? at h
  split at h
  · obtain rfl := Option.some.inj h
    rfl
  · split at h
    · contradiction
    · obtain rfl := Option.some.inj h
      rfl

end

theorem Keyword.ofWord?_equals : Keyword.ofWord? ['='] = none := by decide +kernel

namespace Classifier

variable {set : Settings} {t x seen : Token} {us : List Token} {b c : Classifier} {k w : Keyword}

/-- Whether a token gets to the steps of the head: the statement is under way and its type untold,
and the token is no semicolon, no option, no part of a clause, and not blank. -/
def reachesStep (c : Classifier) (t : Token) : Bool :=
  !c.statement.terminated && t.kind != .semicolon && !c.skipsOption t &&
    !(c.statement.definer.advance (c.dialect.supportsDefiner && c.inHead) t).2 && !t.isBlank &&
    c.untyped

theorem reachesStep_iff : c.reachesStep x = true ↔
    c.statement.terminated = false ∧ x.kind ≠ .semicolon ∧ c.skipsOption x = false ∧
      c.statement.definer.advance (c.dialect.supportsDefiner && c.inHead) x = (.inactive, false) ∧
      x.isBlank = false ∧ c.statement.type = none := by
  have hleft : (c.statement.definer.advance (c.dialect.supportsDefiner && c.inHead) x).2 = false ↔
      c.statement.definer.advance (c.dialect.supportsDefiner && c.inHead) x = (.inactive, false) :=
    ⟨DefinerState.advance_of_left, fun h => by rw [h]⟩
  simp [reachesStep, untyped, hleft, and_assoc]

theorem BehindLeading.afterPass_awaits (h : BehindLeading set t k c) (previous : Option Token)
    (definer : DefinerState) : (c.afterPass previous definer).Awaits k.objectTypes :=
  h.awaits.afterPass previous definer

theorem BehindLeading.feedAll_gap_part (h : BehindLeading set t k c) {gap part : List Token}
    {state : DefinerState} (hgap : HeadGap set.dialect gap)
    (hpart : (state = .inactive ∧ part = []) ∨ (set.dialect = .mysql ∧ ClausePart state part)) :
    c.feedAll (gap ++ part) = .ok (c.afterPass (some (gap.getLastD t)) state) := by
  rw [← h.dialect] at hgap hpart
  have hread := h.awaits.feedAll_gap h.definer h.previous hgap
  rcases hpart with ⟨rfl, rfl⟩ | ⟨hd, hpart⟩
  · rwa [List.append_nil]
  · have hgap := h.awaits.afterPass (some (gap.getLastD t)) .inactive
    exact feedAll_append_ok.2 ⟨_, hread, hgap.feedAll_part hd rfl hpart⟩

theorem BehindLeading.feedAll_looksAt (h : BehindLeading set t k c)
    (hl : LooksAt set.dialect t us seen) :
    ∃ state, (state = .inactive ∨ state = .sawDefiner) ∧
      c.feedAll us = .ok (c.afterPass (some seen) state) := by
  cases hl with
  | neighbour hgap =>
    have hread := h.feedAll_gap_part hgap (.inl ⟨rfl, rfl⟩)
    rw [List.append_nil] at hread
    exact ⟨_, .inl rfl, hread⟩
  | beforeClause hg =>
    rw [hg.split]
    exact ⟨_, .inr rfl, h.feedAll_gap_part hg.gap (.inr ⟨hg.dialect, hg.clause⟩)⟩

/-- Where a token gets to the step behind the leading keyword, some token is looked at, and it is
the one that is remembered. -/
theorem BehindLeading.exists_looksAt (h : BehindLeading set t k c) (hr : c.feedAll us = .ok b)
    (hx : b.reachesStep x = true) : ∃ seen, LooksAt set.dialect t us seen := by
  obtain ⟨hopen, hk, -, hleft, hblank, hty⟩ := reachesStep_iff.1 hx
  have hread := h.hasRead.feedAll hr hty hopen
  obtain ⟨gap, part, hsplit, hgap, hstate⟩ := hread.read
  have hd : b.dialect = set.dialect := (feedAll_dialect hr).trans h.dialect
  rw [List.nil_append] at hsplit
  rw [hd] at hgap hstate
  rcases hstate with ⟨-, rfl⟩ | ⟨hmysql, hpart⟩
  · rw [List.append_nil] at hsplit
    subst hsplit
    exact ⟨_, .neighbour hgap⟩
  · -- only a clause whose sign of equality is missing does not take the token
    have hmay : (b.dialect.supportsDefiner && b.inHead) = true := by
      rw [hread.awaits.inHead, hd, hmysql]
      rfl
    rw [hmay] at hleft
    have hsaw : b.statement.definer = .sawDefiner := by
      cases hdef : b.statement.definer with
      | inactive =>
        rw [hdef] at hpart
        cases hpart
      | sawDefiner => rfl
      | sawEquals | consumingPrincipal =>
        rw [hdef] at hleft
        simp [DefinerState.advance, hblank] at hleft
    rw [hsaw] at hpart
    exact ⟨_, .beforeClause ⟨hmysql, hsplit, hgap, hpart⟩⟩

theorem BehindLeading.feed_seen (h : BehindLeading set t k c) (hs : set.strict = true)
    (hk : k = .create ∨ k = .drop) (hr : c.feedAll us = .ok b) (hx : b.reachesStep x = true)
    (hl : LooksAt set.dialect t us seen) :
    b.feed x = match objectRefusal? k seen x with
      | some e => (b.afterPass b.previous .inactive, some e)
      | none => (b.afterStep (.object k.objectTypes) .inactive x, none) := by
  obtain ⟨-, hkind, hskip, hleft, hblank, -⟩ := reachesStep_iff.1 hx
  obtain ⟨state, -, hread⟩ := h.feedAll_looksAt hl
  obtain rfl := Except.ok.inj (hr.symm.trans hread)
  have hawaits := h.afterPass_awaits (some seen) state
  have hstrict : (c.afterPass (some seen) state).strict = true := h.strict.trans hs
  have hrefusal : (c.afterPass (some seen) state).refusal? (.object k.objectTypes) x =
      objectRefusal? k seen x := refusal?_object hk hstrict rfl h.stepIndex
  have hfeed := hawaits.feed_object hkind hblank hskip hleft
  rw [hrefusal] at hfeed
  exact hfeed

theorem BehindLeading.looksAt_unique {seen' : Token} (h : BehindLeading set t k c)
    (hl : LooksAt set.dialect t us seen) (hl' : LooksAt set.dialect t us seen') : seen' = seen := by
  obtain ⟨state, -, hread⟩ := h.feedAll_looksAt hl
  obtain ⟨state', -, hread'⟩ := h.feedAll_looksAt hl'
  have hsame := Except.ok.inj (hread.symm.trans hread')
  exact (Option.some.inj (congrArg Classifier.previous hsame)).symm

theorem BehindLeading.not_headGap (h : BehindLeading set t k c) {gap clause : List Token}
    (hg : GivesUp set.dialect us gap clause) : ¬ HeadGap set.dialect us := by
  intro hgap
  have hwhole := h.feedAll_gap_part hgap (.inl ⟨rfl, rfl⟩)
  have hpart := h.feedAll_gap_part hg.gap (.inr ⟨hg.dialect, hg.clause⟩)
  rw [List.append_nil] at hwhole
  rw [← hg.split] at hpart
  have hsame := Except.ok.inj (hwhole.symm.trans hpart)
  have hstate : DefinerState.inactive = .sawDefiner := congrArg (·.statement.definer) hsame
  contradiction

theorem BehindLeading.reachesStep_object (h : BehindLeading set t k c)
    (hl : LooksAt set.dialect t us seen) (hx : x.keyword? = some w) (hw : w ∈ k.objects) :
    ∃ b, c.feedAll us = .ok b ∧ b.reachesStep x = true := by
  obtain ⟨state, hstate, hread⟩ := h.feedAll_looksAt hl
  have hawaits := h.afterPass_awaits (some seen) state
  have hne : w ≠ .or ∧ w ≠ .replace ∧ w ≠ .definer := by
    cases k <;> simp [Keyword.objects] at hw <;> grind
  obtain ⟨hor, hreplace, hdefiner⟩ := hne
  have hblank := Token.isBlank_of_keyword hx
  refine ⟨_, hread, reachesStep_iff.2 ⟨hawaits.underWay, Token.kind_ne_semicolon hx, ?_, ?_, hblank,
    hawaits.type⟩⟩
  · rw [Bool.eq_false_iff, ne_eq, hawaits.skipsOption_eq, hx]
    simp [hor, hreplace]
  · rcases hstate with rfl | rfl
    · simp [afterPass, DefinerState.advance, hx, hdefiner]
    · have htext : x.text ≠ ['='] := by
        intro htext
        have hword := Token.word?_of_keyword hx
        rw [Token.word?, htext, Keyword.ofWord?_equals] at hword
        contradiction
      simp [afterPass, DefinerState.advance, hblank, htext]

theorem reachesStep_of_told (hf : b.feed x = (c, none)) (hty : b.statement.type = none)
    (htold : c.statement.type ≠ none) : b.reachesStep x = true := by
  have hopen := (outcome_of_feed hf).underWay
  have pass (previous : Option Token) (definer : DefinerState) : c ≠ b.afterPass previous definer :=
    fun hc => htold (hc ▸ hty)
  have hk : x.kind ≠ .semicolon := by
    intro hk
    rw [feed_of_semicolon hopen hk] at hf
    exact htold ((Prod.mk.inj hf).1 ▸ hty)
  have hhead : b.feedHead x = (c, none) := by
    rwa [feed, hopen, if_neg (by simp), if_neg hk, trackBody_of_untyped x hty] at hf
  have hskip : b.skipsOption x = false := by
    rw [Bool.eq_false_iff]
    intro hs
    exact pass _ _ (Prod.mk.inj (hhead.symm.trans (feedHead_of_option hs))).1
  cases ha : b.statement.definer.advance (b.dialect.supportsDefiner && b.inHead) x with
  | mk definer taken =>
    cases taken with
    | true =>
      have hc := (Prod.mk.inj (hhead.symm.trans (feedHead_of_clause hskip ha))).1
      exact absurd hc (pass _ _)
    | false =>
      have hblank : x.isBlank = false := by
        rw [Bool.eq_false_iff]
        intro hb
        exact pass _ _ (Prod.mk.inj (hhead.symm.trans (feedHead_of_blank hskip ha hb))).1
      exact reachesStep_iff.2 ⟨hopen, hk, hskip, DefinerState.advance_of_left (by rw [ha]), hblank,
        hty⟩

end Classifier

/-- Behind statements that have all ended a run is refused as it is without them. -/
theorem Complete.refused {set : Settings} {pre : List Token} (h : Complete set pre) {last : Int}
    {ts : List Token} {e : StatementError} (he : statementsFrom set last none ts = .error e) :
    statementsFrom set last none (pre ++ ts) = .error e := by
  obtain ⟨_, body, hsplit, hends⟩ := h
  induction hsplit with
  | nil => exact he
  | blank hb _ ih =>
    rw [List.cons_append, statementsFrom_blank _ hb]
    exact ih hends
  | @ended t us pre c body hb hc hend _ ih =>
    rw [List.append_assoc, statementsFrom_ended _ hb hc hend, ih (List.forall_mem_cons.1 hends).2]
    rfl
  | underWay _ _ hopen =>
    have hend := (List.forall_mem_cons.1 hends).1
    simp [hopen] at hend

/-- The place of a script where the statement that begins with the token `t` comes to the step
behind its leading keyword, with the token `x`. The statements before it have ended. -/
structure AtObject (set : Settings) (script : List Char) (k : Keyword) (t : Token)
    (us : List Token) (x : Token) (c : Classifier) : Prop where
  tokens : ∃ pre post, tokenize set.dialect script = pre ++ (t :: us ++ x :: post) ∧
    Complete set pre
  keyword : t.keyword? = some k
  leading : k = .create ∨ k = .drop
  read : Classifier.behind set t us = .ok c
  reaches : c.reachesStep x = true

namespace AtObject

variable {set : Settings} {script : List Char} {k : Keyword} {t x : Token} {us : List Token}
  {c : Classifier} {e : StatementError}

theorem exists_behindLeading (h : AtObject set script k t us x c) :
    ∃ a, a.feedAll us = .ok c ∧ Classifier.BehindLeading set t k a := by
  obtain ⟨a, ha, hlead⟩ := Classifier.exists_behindLeading set h.keyword h.leading
  obtain ⟨a', ha', hr⟩ := Classifier.behind_eq_ok.1 h.read
  obtain rfl := Except.ok.inj (ha.symm.trans ha')
  exact ⟨a, hr, hlead⟩

theorem parse_eq_error (h : AtObject set script k t us x c) (he : (c.feed x).2 = some e) :
    parse set script = .error e := by
  obtain ⟨pre, post, htokens, hpre⟩ := h.tokens
  have hf : c.feed x = ((c.feed x).1, some e) := by rw [← he]
  have hbehind : Classifier.behind set t (us ++ [x]) = .error e :=
    Classifier.behind_refused h.read hf
  have hne : e ≠ .alreadyTerminated := by
    have hopen := (Classifier.reachesStep_iff.1 h.reaches).1
    obtain ⟨_, _, _, hwhy⟩ :=
      Classifier.refused_behind (Token.isBlank_of_keyword h.keyword) h.read hopen hf
    rcases hwhy with rfl | rfl <;> simp
  have hts : t :: us ++ x :: post = t :: (us ++ [x]) ++ post := by simp
  have hrun : statementsFrom set (lastOffset script) none (t :: us ++ x :: post) = .error e := by
    rw [hts]
    exact statementsFrom_behind_error post (Token.isBlank_of_keyword h.keyword) hbehind hne
  rw [parse_eq, htokens, hpre.refused hrun]
  rfl

end AtObject

structure JudgesNeighbour (set : Settings) (script : List Char) (t : Token) (us : List Token)
    (x : Token) (c : Classifier) : Prop where
  refuses : (us.getLastD t).kind ≠ .whitespace → ∃ e, (c.feed x).2 = some e ∧
    e.kind = .unexpectedSequence ∧ parse set script = .error e
  passes : (us.getLastD t).kind = .whitespace →
    (c.feed x).2 ≠ some (.missingBefore [.whitespace] x.text 1)

/-- Where it does not: a clause that is given up stands between, and white space before the clause
passes for white space behind it, or is asked for in its place. -/
inductive Misjudges (d : Dialect) (k : Keyword) (t : Token) (us : List Token) (x : Token) : Prop
  where
  | passes {gap clause : List Token} {w : Keyword} : GivesUp d us gap clause →
      (gap.getLastD t).kind = .whitespace → (us.getLastD t).kind ≠ .whitespace →
      w ∈ k.objects → x.keyword? = some w → Misjudges d k t us x
  | refuses {gap clause : List Token} : GivesUp d us gap clause →
      (gap.getLastD t).kind ≠ .whitespace → (us.getLastD t).kind = .whitespace →
      Misjudges d k t us x

structure ChecksObject (set : Settings) (script : List Char) (k : Keyword) (t : Token)
    (us : List Token) (x : Token) (c : Classifier) : Prop where
  second : c.stepIndex = 1
  answer : ∃ seen, LooksAt set.dialect t us seen ∧ (c.feed x).2 = objectRefusal? k seen x
  raised : ∀ e, (c.feed x).2 = some e → parse set script = .error e
  judged : JudgesNeighbour set script t us x c ↔ ¬ Misjudges set.dialect k t us x

/-- Strict mode judges the object by one token before it, which is the neighbour unless a clause that
is given up stands between. -/
theorem checksObject {set : Settings} {script : List Char} {k : Keyword} {t x : Token}
    {us : List Token} {c : Classifier} (hs : set.strict = true)
    (h : AtObject set script k t us x c) : ChecksObject set script k t us x c := by
  obtain ⟨a, hr, hlead⟩ := h.exists_behindLeading
  obtain ⟨seen, hl⟩ := hlead.exists_looksAt hr h.reaches
  have hanswer : (c.feed x).2 = objectRefusal? k seen x := by
    rw [hlead.feed_seen hs h.leading hr h.reaches hl]
    cases objectRefusal? k seen x <;> rfl
  refine ⟨?_, ⟨seen, hl, hanswer⟩, fun e he => h.parse_eq_error he, ?_, ?_⟩
  · obtain ⟨state, -, hread⟩ := hlead.feedAll_looksAt hl
    rw [Except.ok.inj (hr.symm.trans hread)]
    exact hlead.stepIndex
  · -- no two tokens are looked at, so the clause that is given up decides
    rintro ⟨hrefuses, hpasses⟩ (⟨hg, hwhite, hglued, hw, hx⟩ | ⟨hg, hnot, hwhite⟩)
    · rw [hlead.looksAt_unique hl (.beforeClause hg)] at hwhite
      obtain ⟨e, he, -⟩ := hrefuses hglued
      rw [hanswer, objectRefusal?_eq_none.2 ⟨hwhite, _, hw, hx⟩] at he
      contradiction
    · rw [hlead.looksAt_unique hl (.beforeClause hg)] at hnot
      apply hpasses hwhite
      rw [hanswer, objectRefusal?_eq_missingBefore]
      exact hnot
  · intro hjudged
    constructor
    · intro hglued
      cases he : objectRefusal? k seen x with
      | some e =>
        rw [he] at hanswer
        exact ⟨e, hanswer, kind_of_objectRefusal? he, h.parse_eq_error hanswer⟩
      | none =>
        obtain ⟨hwhite, w, hw, hx⟩ := objectRefusal?_eq_none.1 he
        cases hl with
        | neighbour => exact absurd hwhite hglued
        | beforeClause hg => exact absurd (.passes hg hwhite hglued hw hx) hjudged
    · intro hwhite hmissing
      rw [hanswer, objectRefusal?_eq_missingBefore] at hmissing
      cases hl with
      | neighbour => exact hmissing hwhite
      | beforeClause hg => exact hjudged (.refuses hg hmissing hwhite)

theorem checksObject_after_clause :
    let set : Settings := { dialect := .mysql }
    let script := "DELETE; CREATE/**/definer\nTABLE t".toList
    let t : Token := ⟨.keyword, "CREATE".toList, 8, 14⟩
    let us : List Token := [⟨.blockComment, "/**/".toList, 14, 18⟩,
      ⟨.keyword, "definer".toList, 18, 25⟩, ⟨.whitespace, ['\n'], 25, 26⟩]
    let x : Token := ⟨.keyword, "TABLE".toList, 26, 31⟩
    ∃ c, AtObject set script .create t us x c ∧ ChecksObject set script .create t us x c := by
  intro set script t us x
  have hread : (Classifier.behind set t us).toOption.map (·.reachesStep x) = some true := by
    decide +kernel
  obtain ⟨c, hc, hx⟩ := Option.map_eq_some_iff.1 hread
  have hpre : (Classifier.behind set ⟨.keyword, "DELETE".toList, 0, 6⟩
      [⟨.semicolon, [';'], 6, 7⟩]).toOption.map (·.statement.terminated) = some true := by
    decide +kernel
  obtain ⟨b, hb, hend⟩ := Option.map_eq_some_iff.1 hpre
  have hat : AtObject set script .create t us x c := {
    tokens := ⟨_, [⟨.whitespace, [' '], 31, 32⟩, ⟨.other, ['t'], 32, 33⟩], by decide +kernel,
      (complete_ended rfl (ok_of_toOption hb) hend).append
        (complete_blank set (t := ⟨.whitespace, [' '], 7, 8⟩) rfl)⟩
    keyword := by decide +kernel
    leading := .inl rfl
    read := ok_of_toOption hc
    reaches := hx }
  exact ⟨c, hat, checksObject rfl hat⟩

/-- White space right before the object is not what strict mode asks for: in
`CREATE DEFINER/**/TABLE t` there is none. -/
theorem strict_misses_comment :
    ¬ ∀ (set : Settings) (script : List Char) (k : Keyword) (t : Token) (us : List Token)
      (x : Token) (c : Classifier), set.strict = true → AtObject set script k t us x c →
      JudgesNeighbour set script t us x c := by
  intro hall
  let set : Settings := { dialect := .mysql }
  let t : Token := ⟨.keyword, "CREATE".toList, 0, 6⟩
  let us : List Token := [⟨.whitespace, [' '], 6, 7⟩, ⟨.keyword, "DEFINER".toList, 7, 14⟩,
    ⟨.blockComment, "/**/".toList, 14, 18⟩]
  let x : Token := ⟨.keyword, "TABLE".toList, 18, 23⟩
  have hread : (Classifier.behind set t us).toOption.map (fun c =>
      (c.reachesStep x, (c.feed x).2)) = some (true, none) := by decide +kernel
  obtain ⟨c, hc, hx⟩ := Option.map_eq_some_iff.1 hread
  obtain ⟨hreaches, haccepted⟩ := Prod.mk.inj hx
  have hat : AtObject set "CREATE DEFINER/**/TABLE t".toList .create t us x c := {
    tokens := ⟨[], [⟨.whitespace, [' '], 23, 24⟩, ⟨.other, ['t'], 24, 25⟩], by decide +kernel,
      complete_nil set⟩
    keyword := by decide +kernel
    leading := .inl rfl
    read := ok_of_toOption hc
    reaches := hreaches }
  obtain ⟨e, he, -⟩ := (hall set _ _ t us x c rfl hat).refuses (by decide)
  rw [haccepted] at he
  contradiction

end SqlScript
