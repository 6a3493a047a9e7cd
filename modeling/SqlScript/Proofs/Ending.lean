import SqlScript.Proofs.Depth
import SqlScript.Proofs.Spans

/-!
Which semicolons end a statement. The rule looks only at the tokens of the statement before the
semicolon, and knows nothing of how a classifier keeps track of a body.
-/

set_option autoImplicit false

namespace SqlScript

def toldType (set : Settings) : List Token → Option StatementType
  | [] => none
  | t :: us => (Classifier.behind set t us).toOption.bind (·.statement.type)

def IsBody (set : Settings) (ts body : List Token) : Prop :=
  ∃ head object, ts = head ++ object :: body ∧ toldType set head = none ∧
    toldType set (head ++ [object]) ≠ none

/-- When a semicolon ends a statement whose tokens before it are given. -/
inductive MayEnd (set : Settings) (before : List Token) : Prop where
  | bodyless : (∀ type, toldType set before = some type → type ∉ set.dialect.bodyTypes) →
      MayEnd set before
  | closed (body : List Token) : set.dialect = .sqlite ∨ set.dialect = .mssql →
      IsBody set before body → (∃ u ∈ body, u.keyword? = some .end_) → MayEnd set before
  /-- Where they are, no block may be open, and either the last one has been closed before or the
  language has been named outside of all. -/
  | balanced (body : List Token) : set.dialect = .psql → IsBody set before body →
      (nesting body).depth = 0 →
      (∃ a u b, body = a ++ u :: b ∧
        ((u.keyword? = some .end_ ∧ (nesting (a ++ [u])).depth = 0) ∨
         (u.keyword? = some .language ∧ (nesting a).depth = 0))) →
      MayEnd set before

theorem Dialect.hasBody_iff {d : Dialect} {s : Statement} :
    d.hasBody s = true ↔ ∃ type, s.type = some type ∧ type ∈ d.bodyTypes := by
  cases h : s.type with
  | none => simp [hasBody, h]
  | some type => simp [hasBody, h]

namespace Classifier

theorem exists_told {a c : Classifier} {ts : List Token} (hr : a.feedAll ts = .ok c)
    (ha : a.statement.type = none) (hc : c.statement.type ≠ none) :
    ∃ head object body b b', ts = head ++ object :: body ∧ a.feedAll head = .ok b ∧
      b.statement.type = none ∧ a.feedAll (head ++ [object]) = .ok b' ∧
      b'.statement.type ≠ none := by
  induction ts generalizing a with
  | nil =>
    obtain rfl := Except.ok.inj hr
    contradiction
  | cons t ts ih =>
    obtain ⟨a', hf, hr⟩ := feedAll_cons_ok.1 hr
    by_cases ht : a'.statement.type = none
    · obtain ⟨head, object, body, b, b', rfl, hb, hn, hb', hs⟩ := ih hr ht
      exact ⟨t :: head, object, body, b, b', rfl, feedAll_cons_ok.2 ⟨a', hf, hb⟩, hn,
        feedAll_cons_ok.2 ⟨a', hf, hb'⟩, hs⟩
    · exact ⟨[], t, ts, a, a', rfl, rfl, ha, feedAll_cons_ok.2 ⟨a', hf, rfl⟩, ht⟩

theorem trackWord_uncounted {d : Dialect} (hd : d.tracksBlocks = false) (f : Bool) (k : Keyword)
    (s : Statement) :
    (d.trackWord f k s).getD s = { s with canEnd := s.canEnd || k == .end_ } := by
  have hmarker : d.bodyEndMarkers.contains k = false := by cases d <;> first | rfl | contradiction
  by_cases hk : k = .end_
  · subst hk
    simp [Dialect.trackWord, Dialect.blockEnders, hd]
  · have hend : (k == Keyword.end_) = false := beq_eq_false_iff_ne.2 hk
    have hender : ¬ d.blockEnders.contains k = true := by simpa [Dialect.blockEnders] using hk
    rw [Dialect.trackWord, if_neg hender, hd, hmarker, hend]
    simp

theorem canEnd_uncounted {c c' : Classifier} {t : Token} (hd : c.dialect.tracksBlocks = false)
    (hbody : c.dialect.hasBody c.statement = true) (ho : Outcome c t c' none) :
    c'.statement.canEnd = (c.statement.canEnd || t.keyword? == some .end_) := by
  cases ho with
  | semicolon _ hk => simp [feedSemicolon, Token.keyword?_of_semicolon hk]
  | passed previous definer =>
    cases hb : t.isBlank with
    | true => simp [trackBody_of_blank hb, afterPass, Token.keyword?_of_blank hb]
    | false =>
      rw [trackBody_fst_of_body hb hbody]
      cases hk : t.keyword? with
      | none => simp [afterPass]
      | some k =>
        rw [Option.bind_some, trackWord_uncounted hd]
        rfl
  | stepped p definer _ _ _ hu => simp [Dialect.hasBody, hu] at hbody

theorem canEnd_uncounted_iff {c c' : Classifier} {ts : List Token} {type : StatementType}
    (hd : c.dialect.tracksBlocks = false) (hty : c.statement.type = some type)
    (hbody : type ∈ c.dialect.bodyTypes) (hr : c.feedAll ts = .ok c') :
    c'.statement.canEnd = true ↔
      c.statement.canEnd = true ∨ ∃ u ∈ ts, u.keyword? = some .end_ := by
  induction ts generalizing c with
  | nil =>
    obtain rfl := Except.ok.inj hr
    simp
  | cons t ts ih =>
    obtain ⟨b, hf, hr⟩ := feedAll_cons_ok.1 hr
    have ho := outcome_of_feed hf
    have hcan := canEnd_uncounted hd (Dialect.hasBody_iff.2 ⟨type, hty, hbody⟩) ho
    have hdb := ho.dialect_eq
    rw [ih (by rwa [hdb]) (ho.type_eq hty) (by rwa [hdb]) hr, hcan]
    simp [or_assoc]

end Classifier

section

variable {set : Settings} {t : Token} {us : List Token} {a c : Classifier}

theorem toldType_of_feedAll {head rest : List Token} {b : Classifier}
    (ha : Classifier.ofFirst set.dialect set.strict t = .ok a) (hsplit : t :: us = head ++ rest)
    (hr : a.feedAll head = .ok b) : toldType set head = b.statement.type := by
  cases head with
  | nil =>
    obtain ⟨o, rfl⟩ := Classifier.ofFirst_ok ha
    obtain rfl := Except.ok.inj hr
    rfl
  | cons t' head =>
    obtain ⟨rfl, _⟩ := List.cons.inj hsplit
    have hb := Classifier.behind_ok.2 ⟨a, ha, hr⟩
    rw [toldType, hb]
    rfl

theorem toldType_of_behind (h : Classifier.behind set t us = .ok c) :
    toldType set (t :: us) = c.statement.type := by
  rw [toldType, h]
  rfl

theorem exists_isBody (h : Classifier.behind set t us = .ok c) (hc : c.statement.type ≠ none) :
    ∃ body, IsBody set (t :: us) body := by
  obtain ⟨a, ha, hr⟩ := Classifier.behind_ok.1 h
  obtain ⟨o, rfl⟩ := Classifier.ofFirst_ok ha
  obtain ⟨head, object, body, b, b', hsplit, hb, hn, hb', hs⟩ := Classifier.exists_told hr rfl hc
  have hthrough : t :: us = (head ++ [object]) ++ body := by simp [hsplit]
  refine ⟨body, head, object, hsplit, ?_, ?_⟩
  · rw [toldType_of_feedAll ha hsplit hb, hn]
  · rw [toldType_of_feedAll ha hthrough hb']
    exact hs

/-- The body of a statement is read by a classifier that is under way and has read no word of a body
before. -/
theorem IsBody.run {body : List Token} (hbody : IsBody set (t :: us) body)
    (h : Classifier.behind set t us = .ok c) : ∃ b : Classifier, b.Unopened ∧
      b.dialect = set.dialect ∧ b.statement.type = c.statement.type ∧
      b.statement.terminated = false ∧ b.feedAll body = .ok c := by
  obtain ⟨head, object, hsplit, hn, hs⟩ := hbody
  obtain ⟨a, ha, hr⟩ := Classifier.behind_ok.1 h
  rw [hsplit] at hr
  obtain ⟨b₀, hhead, hrest⟩ := Classifier.feedAll_append_ok.1 hr
  obtain ⟨b, hobject, hrun⟩ := Classifier.feedAll_cons_ok.1 hrest
  have ho := Classifier.outcome_of_feed hobject
  have hthrough : a.feedAll (head ++ [object]) = .ok b :=
    Classifier.feedAll_append_ok.2 ⟨b₀, hhead, Classifier.feedAll_cons_ok.2 ⟨b, hobject, rfl⟩⟩
  have hsplit' : t :: us = (head ++ [object]) ++ body := by simp [hsplit]
  rw [toldType_of_feedAll ha hsplit hhead] at hn
  rw [toldType_of_feedAll ha hsplit' hthrough] at hs
  obtain ⟨o, rfl⟩ := Classifier.ofFirst_ok ha
  have hopen := Classifier.unopened_feedAll (Classifier.unopened_fresh _ _ o _) hhead hn
  obtain ⟨type, htype⟩ := Option.ne_none_iff_exists'.1 hs
  refine ⟨b, hopen.outcome hn ho, ?_, ?_, ?_, hrun⟩
  · rw [Classifier.feedAll_dialect hthrough]
    rfl
  · rw [htype, Classifier.feedAll_type hrun htype]
  · -- a semicolon would have told no type
    rw [Bool.eq_false_iff]
    intro hend
    have hk := (ho.terminated_iff.1 hend).1
    rw [Classifier.feed_of_semicolon ho.underWay hk] at hobject
    obtain ⟨rfl, -⟩ := Prod.mk.inj hobject
    exact hs hn

theorem IsBody.closed_iff {body : List Token} (hb : t.isBlank = false)
    (hbody : IsBody set (t :: us) body) (h : Classifier.behind set t us = .ok c)
    (hd : set.dialect.tracksBlocks = false) (hhas : set.dialect.hasBody c.statement = true) :
    set.dialect.suppresses c.statement = false ↔ ∃ u ∈ body, u.keyword? = some .end_ := by
  obtain ⟨b, hopen, hdb, hty, _, hr⟩ := hbody.run h
  have hdc := Classifier.dialect_behind h
  have hcount := (Classifier.begun_behind hb h).uncounted (by rwa [hdc])
  have hnone : c.statement.hasOpenBlock = false := by simp [Statement.hasOpenBlock, hcount]
  obtain ⟨type, htype, hmem⟩ := Dialect.hasBody_iff.1 hhas
  rw [← hdb] at hd hmem
  have hcan := Classifier.canEnd_uncounted_iff hd (hty.trans htype) hmem hr
  rw [hopen.canEnd] at hcan
  simp only [Bool.false_eq_true, false_or] at hcan
  rw [Dialect.suppresses, hhas, hnone, ← hcan]
  simp

theorem IsBody.balanced_iff {body : List Token} (hbody : IsBody set (t :: us) body)
    (h : Classifier.behind set t us = .ok c) (hd : set.dialect = .psql)
    (hhas : set.dialect.hasBody c.statement = true) :
    set.dialect.suppresses c.statement = false ↔ (nesting body).depth = 0 ∧
      ∃ a u b, body = a ++ u :: b ∧
        ((u.keyword? = some .end_ ∧ (nesting (a ++ [u])).depth = 0) ∨
         (u.keyword? = some .language ∧ (nesting a).depth = 0)) := by
  obtain ⟨b, hopen, hdb, hty, _, hr⟩ := hbody.run h
  have htype : c.statement.type = some .createFunction := by
    obtain ⟨type, htype, hmem⟩ := Dialect.hasBody_iff.1 hhas
    rw [hd] at hmem
    rw [htype, List.mem_singleton.1 hmem]
  have hstart := hopen.follows (hdb.trans hd) (hty.trans htype)
  have hc := hstart.feedAll hr
  have hcan := hstart.canEnd_iff hr
  rw [hopen.canEnd] at hcan
  simp only [Bool.false_eq_true, false_or] at hcan
  have hsup := hc.suppresses_eq_false
  rw [Classifier.dialect_behind h, hcan, and_comm] at hsup
  rw [hsup]
  refine and_congr_right fun _ => ?_
  simp [Nesting.allowsEnd, nesting]

theorem mayEnd_iff (hb : t.isBlank = false) (h : Classifier.behind set t us = .ok c) :
    MayEnd set (t :: us) ↔ set.dialect.suppresses c.statement = false := by
  cases hhas : set.dialect.hasBody c.statement with
  | false =>
    have hrule : MayEnd set (t :: us) := by
      refine .bodyless ?_
      intro type htype hmem
      rw [toldType_of_behind h] at htype
      rw [Dialect.hasBody_iff.2 ⟨type, htype, hmem⟩] at hhas
      contradiction
    simp [Dialect.suppresses, hhas, hrule]
  | true =>
    obtain ⟨type, htype, hmem⟩ := Dialect.hasBody_iff.1 hhas
    constructor
    · intro hrule
      cases hrule with
      | bodyless hnone => exact absurd hmem (hnone type ((toldType_of_behind h).trans htype))
      | closed body hd hbody hend =>
        have hcount : set.dialect.tracksBlocks = false := by
          rcases hd with hd | hd <;> rw [hd] <;> rfl
        exact (hbody.closed_iff hb h hcount hhas).2 hend
      | balanced body hd hbody hdepth hallows =>
        exact (hbody.balanced_iff h hd hhas).2 ⟨hdepth, hallows⟩
    · intro hsup
      obtain ⟨body, hbody⟩ := exists_isBody h (by simp [htype])
      cases hd : set.dialect with
      | psql =>
        obtain ⟨hdepth, hallows⟩ := (hbody.balanced_iff h hd hhas).1 hsup
        exact .balanced body hd hbody hdepth hallows
      | sqlite =>
        exact .closed body (.inl hd) hbody
          ((hbody.closed_iff hb h (by rw [hd]; rfl) hhas).1 hsup)
      | mssql =>
        exact .closed body (.inr hd) hbody
          ((hbody.closed_iff hb h (by rw [hd]; rfl) hhas).1 hsup)
      | mysql => simp [hd, Dialect.bodyTypes] at hmem
      | generic => simp [hd, Dialect.bodyTypes] at hmem

/-- Among the tokens of a statement a semicolon is the last and ends it just if the rule lets it. -/
theorem mayEnd_iff_terminated (hb : t.isBlank = false) (h : Classifier.behind set t us = .ok c)
    {before after : List Token} {z : Token} (hsplit : t :: us = before ++ z :: after)
    (hz : z.kind = .semicolon) :
    MayEnd set before ↔ c.statement.terminated = true ∧ after = [] := by
  cases before with
  | nil =>
    obtain ⟨rfl, rfl⟩ := List.cons.inj hsplit
    obtain ⟨a, ha, hr⟩ := Classifier.behind_ok.1 h
    obtain ⟨o, rfl⟩ := Classifier.ofFirst_ok ha
    obtain ⟨b, hf, hr⟩ := Classifier.feedAll_cons_ok.1 hr
    have hend : b.statement.terminated = true :=
      (Classifier.outcome_of_feed hf).terminated_iff.2 ⟨hz, rfl⟩
    obtain ⟨rfl, rfl⟩ := Classifier.feedAll_terminated hend hr
    have hrule : MayEnd set [] := .bodyless fun type htype => by simp [toldType] at htype
    simp [hrule, hend]
  | cons t' vs =>
    obtain ⟨rfl, rfl⟩ := List.cons.inj hsplit
    obtain ⟨a, ha, hr⟩ := Classifier.behind_append.1 h
    obtain ⟨b, hf, hr⟩ := Classifier.feedAll_cons_ok.1 hr
    have hend := (Classifier.outcome_of_feed hf).terminated_iff
    rw [Classifier.dialect_behind ha] at hend
    rw [mayEnd_iff hb ha]
    constructor
    · intro hsup
      have hend := hend.2 ⟨hz, hsup⟩
      obtain ⟨rfl, rfl⟩ := Classifier.feedAll_terminated hend hr
      exact ⟨hend, rfl⟩
    · rintro ⟨hc, rfl⟩
      obtain rfl := Except.ok.inj hr
      exact (hend.1 hc).2

end

/-- Which semicolons of a script end the statement that they lie in. -/
structure EndsByRule (set : Settings) (p : Parsed) : Prop where
  ends_iff : ∀ s ∈ p.body, ∀ z ∈ p.tokens, z.kind = .semicolon → s.holds z = true →
    ((s.terminated = true ∧ s.stop = z.start) ↔
      MayEnd set (p.tokens.filter fun u =>
        decide (s.start ≤ u.start) && decide (u.stop ≤ z.start)))
  plain : set.dialect = .generic ∨ set.dialect = .mysql → ∀ z ∈ p.tokens, z.kind = .semicolon →
    p.body.countP (fun s => s.terminated && decide (s.stop = z.start)) = 1

theorem ends_iff_of_reads {set : Settings} {s : Statement} {pre post us : List Token}
    {t z : Token} {i j : Int} (hpre : Tiles i pre s.start) (hr : Reads set t us s)
    (hpost : Tiles (s.stop + 1) post j) (hz : z ∈ pre ++ (t :: us ++ post))
    (hk : z.kind = .semicolon) (hlen : z.stop = z.start + 1) (hin : s.holds z = true) :
    (s.terminated = true ∧ s.stop = z.start) ↔
      MayEnd set ((pre ++ (t :: us ++ post)).filter fun u =>
        decide (s.start ≤ u.start) && decide (u.stop ≤ z.start)) := by
  obtain ⟨c, stop, hc, hseal⟩ := hr.read
  have hterm : s.terminated = c.statement.terminated := by rw [hseal, Statement.seal_terminated]
  obtain ⟨hstart, hstop⟩ := Statement.holds_iff.1 hin
  have hmem : z ∈ t :: us := by
    rcases List.mem_append.1 hz with hz | hz
    · have h := hpre.bounds hz
      omega
    · rcases List.mem_append.1 hz with hz | hz
      · exact hz
      · have h := hpost.bounds hz
        omega
  obtain ⟨before, after, hsplit⟩ := List.append_of_mem hmem
  have htile := hr.tiles
  rw [hsplit] at htile
  obtain ⟨m, hbefore, hbehind⟩ := tiles_append.1 htile
  obtain rfl : z.start = m := hbehind.1
  have hafter := hbehind.2.2.2
  have hfilter : (pre ++ (t :: us ++ post)).filter (fun u =>
      decide (s.start ≤ u.start) && decide (u.stop ≤ z.start)) = before := by
    have hrest : Tiles z.start (z :: after ++ post) j := tiles_append.2 ⟨_, hbehind, hpost⟩
    rw [hsplit, List.append_assoc]
    exact hpre.filter_between hbefore hrest
  have hlast : s.stop = z.start ↔ after = [] := by
    constructor
    · intro h
      cases after with
      | nil => rfl
      | cons u after =>
        have hlt := hafter.lt
        omega
    · rintro rfl
      have := hafter.stop_eq
      simp only [textOf_nil, List.length_nil] at this
      omega
  rw [hfilter, mayEnd_iff_terminated hr.first hc hsplit hk, hterm, hlast]

theorem ends_iff_mayEnd {set : Settings} {script : List Char} {p : Parsed} {s : Statement}
    {z : Token} (h : parse set script = .ok p) (hs : s ∈ p.body) (hz : z ∈ p.tokens)
    (hk : z.kind = .semicolon) (hin : s.holds z = true) :
    (s.terminated = true ∧ s.stop = z.start) ↔
      MayEnd set (p.tokens.filter fun u =>
        decide (s.start ≤ u.start) && decide (u.stop ≤ z.start)) := by
  have hlen := semicolon_stop_of_parse h hz hk
  obtain ⟨pre, t, us, post, hsplit, hpre, hr, hpost⟩ := (laid_of_parse h).reads s hs
  rw [hsplit] at hz ⊢
  exact ends_iff_of_reads hpre hr hpost hz hk hlen hin

theorem endsByRule_parse {set : Settings} {script : List Char} {p : Parsed}
    (h : parse set script = .ok p) : EndsByRule set p := by
  have hlaid := laid_of_parse h
  refine ⟨fun s hs z hz hk hin => ends_iff_mayEnd h hs hz hk hin, ?_⟩
  intro hd z hz hk
  have hlen := semicolon_stop_of_parse h hz hk
  have hnone : set.dialect.bodyTypes = [] := by rcases hd with hd | hd <;> rw [hd] <;> rfl
  have hsame : p.body.countP (fun s => s.terminated && decide (s.stop = z.start)) =
      p.body.countP (·.holds z) := by
    refine List.countP_congr ?_
    intro s hs
    rw [Bool.and_eq_true, decide_eq_true_eq]
    constructor
    · rintro ⟨_, hstop⟩
      have hb := hlaid.bounds s hs
      exact Statement.holds_iff.2 ⟨by omega, by omega⟩
    · intro hin
      exact (ends_iff_mayEnd h hs hz hk hin).2 (.bodyless fun type _ => by simp [hnone])
  rw [hsame]
  refine (hlaid.covered z hz).resolve_right ?_
  rintro ⟨hblank, _⟩
  rw [Token.isBlank_of_semicolon hk] at hblank
  contradiction

/-- Of five semicolons in a function only the one behind its outermost block ends it. -/
theorem endsByRule_nested_blocks :
    let script :=
      "CREATE FUNCTION f AS BEGIN IF x; THEN CASE y; END; END /**/ IF; END;DROP TABLE t;".toList
    ∃ p, parse { dialect := .psql } script = .ok p ∧
      p.body.map (fun s => (s.start, s.stop)) = [(0, 67), (68, 80)] ∧
      EndsByRule { dialect := .psql } p := by
  intro script
  have h : (parse { dialect := .psql } script).toOption.map (fun p => p.body.map fun s =>
      (s.start, s.stop)) = some [(0, 67), (68, 80)] := by decide +kernel
  obtain ⟨p, hp, hbody⟩ := Option.map_eq_some_iff.1 h
  have hp := ok_of_toOption hp
  exact ⟨p, hp, hbody, endsByRule_parse hp⟩

end SqlScript
