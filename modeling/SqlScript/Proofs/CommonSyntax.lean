import SqlScript.Proofs.Ending
import SqlScript.Proofs.Strictness

/-!
What the dialects have in common. Without the characters that only some of them know, a script falls
into the same tokens in all; without bodies and without options and clauses, its statements are the
same as well, and so is the reason why it is refused.
-/

set_option autoImplicit false

namespace SqlScript

/-! ## Tokens -/

/-- The characters that have a meaning of their own in some dialects only. -/
def Dialect.ownMarks : List Char := ['#', '\\', '\x60', '[', '$']

def Pattern.unescaped : Pattern → Pattern
  | .quoted q => .quoted { q with backslash := false }
  | p => p

theorem Quoting.bodyLength_unescaped (q : Quoting) :
    (s : List Char) → '\\' ∉ s →
      ({ q with backslash := false } : Quoting).bodyLength s = q.bodyLength s
  | [], _ | [_], _ => rfl
  | c :: d :: r, h => by
    rw [List.mem_cons, not_or] at h
    have hone := q.bodyLength_unescaped (d :: r) h.2
    have htwo := q.bodyLength_unescaped r fun hr => h.2 (List.mem_cons_of_mem d hr)
    have hc : (c == '\\') = false := beq_eq_false_iff_ne.2 (Ne.symm h.1)
    simp only [bodyLength, hc, Bool.and_false, hone, htwo]

namespace Pattern

theorem extent_unescaped (p : Pattern) {s : List Char} (h : '\\' ∉ s) :
    p.unescaped.extent s = p.extent s := by
  cases p with
  | quoted q =>
    cases s with
    | nil => rfl
    | cons c r =>
      have hr : '\\' ∉ r := fun hr => h (List.mem_cons_of_mem c hr)
      simp only [unescaped, extent, q.bodyLength_unescaped r hr]
  | _ => rfl

theorem kindOf_unescaped (p : Pattern) (text : List Char) :
    p.unescaped.kindOf text = p.kindOf text := by
  cases p <;> rfl

end Pattern

theorem lexeme_unescaped (forms : List Pattern) {s : List Char} (h : '\\' ∉ s) :
    lexeme (forms.map Pattern.unescaped) s = lexeme forms s := by
  induction forms with
  | nil => rfl
  | cons p forms ih =>
    rw [List.map_cons, lexeme_cons, lexeme_cons, p.extent_unescaped h, p.kindOf_unescaped, ih]

theorem Dialect.patterns_common (d : Dialect) {a : Char} (ha : a ∉ ownMarks) :
    (d.patterns.map Pattern.unescaped).filter (·.mayBegin a) =
      generic.patterns.filter (·.mayBegin a) := by
  have hne {m : Char} (hm : m ∈ ownMarks) : m ≠ a := fun h => ha (h ▸ hm)
  have hhash : '#' ≠ a := hne (by decide)
  have hgrave : a ≠ '\x60' := (hne (by decide)).symm
  have hbracket : a ≠ '[' := (hne (by decide)).symm
  have hdollar : a ≠ '$' := (hne (by decide)).symm
  have hcomments : (d.lineComments.map Pattern.unescaped).filter (·.mayBegin a) =
      generic.lineComments.filter (·.mayBegin a) := by
    cases d <;> simp [lineComments, Pattern.unescaped, List.filter_cons, Pattern.mayBegin, hhash]
  have hquotations : (d.quotations.map Pattern.unescaped).filter (·.mayBegin a) =
      generic.quotations.filter (·.mayBegin a) := by
    cases d <;> simp [quotations, doubled, backslashed, Pattern.unescaped, List.filter_cons,
      Pattern.mayBegin, hgrave, hbracket, hdollar]
  simp only [patterns, List.map_append, List.filter_append, hcomments, hquotations]
  rfl

section

variable {s : List Char}

theorem lexeme_common (d : Dialect) (hs : ∀ a ∈ s, a ∉ Dialect.ownMarks) (hne : s ≠ []) :
    lexeme d.patterns s = lexeme Dialect.generic.patterns s := by
  obtain ⟨a, r, rfl⟩ := List.exists_cons_of_ne_nil hne
  have hb : '\\' ∉ a :: r := fun h => hs _ h (by decide)
  have ha := hs a List.mem_cons_self
  rw [← lexeme_unescaped d.patterns hb, lexeme_filter, d.patterns_common ha, ← lexeme_filter]

theorem tokensFrom_common (d : Dialect) (i : Nat) (hs : ∀ a ∈ s, a ∉ Dialect.ownMarks) :
    tokensFrom d.patterns i s = tokensFrom Dialect.generic.patterns i s := by
  fun_induction tokensFrom d.patterns i s with
  | case1 => rw [tokensFrom_nil]
  | case2 i c r n ih =>
    have hlex := lexeme_common d hs (List.cons_ne_nil c r)
    have hrest : ∀ a ∈ (c :: r).drop n, a ∉ Dialect.ownMarks := fun a ha =>
      hs a (List.mem_of_mem_drop ha)
    have hn : (lexeme Dialect.generic.patterns (c :: r)).2 = n := by rw [← hlex]
    rw [tokensFrom_cons, hn, ih hrest]
    simp only [frontToken, hlex]

end

/-! ## Statements -/

def Statement.inDialect (d : Dialect) (s : Statement) : Statement :=
  { s with openBlocks := if d = .psql then some 0 else none }

def Parsed.inDialect (d : Dialect) (p : Parsed) : Parsed :=
  { p with body := p.body.map (·.inDialect d) }

def Keyword.headWords : List Keyword := [.or, .replace, .definer]

/-- Whether the tokens of a statement begin with `CREATE` or `DROP` and go on, but for blanks, with
an option or a clause that only some dialects have. -/
def beginsOption : List Token → Bool
  | [] => false
  | t :: us =>
    (t.keyword? == some .create || t.keyword? == some .drop) &&
      (us.find? (!·.isBlank)).any fun u => u.keyword?.any Keyword.headWords.contains

def Statement.Bodiless (s : Statement) : Prop :=
  s.type ≠ some .createTrigger ∧ s.type ≠ some .createFunction

instance (s : Statement) : Decidable s.Bodiless := inferInstanceAs (Decidable (_ ∧ _))

theorem Statement.Bodiless.hasBody {s : Statement} (h : s.Bodiless) (d : Dialect) :
    d.hasBody s = false := by
  rw [Bool.eq_false_iff, ne_eq, Dialect.hasBody_iff]
  rintro ⟨type, hty, hmem⟩
  obtain ⟨htrigger, hfunction⟩ := h
  cases d <;> simp [Dialect.bodyTypes] at hmem <;> simp_all

namespace Classifier

def inDialect (d : Dialect) (c : Classifier) : Classifier :=
  { c with dialect := d, statement := c.statement.inDialect d }

/-- Nothing in which the dialects differ bears on the token: no body, no clause that has begun, and
no option or clause that the token begins. -/
structure Plain (c : Classifier) (t : Token) : Prop where
  definer : c.statement.definer = .inactive
  bodiless : c.statement.Bodiless
  option : c.inHead = true → ∀ k ∈ Keyword.headWords, t.keyword? ≠ some k

section

variable {c b : Classifier} {t : Token}

theorem Plain.inDialect (h : c.Plain t) (d : Dialect) : (c.inDialect d).Plain t :=
  ⟨h.definer, h.bodiless, h.option⟩

theorem Plain.feed_eq (h : c.Plain t) (ht : c.statement.terminated = false)
    (hk : t.kind ≠ .semicolon) :
    c.feed t =
      if t.isBlank then ({ c with previous := some t }, none)
      else if c.untyped then
        match c.takeStep t with
        | .error e => (c, some e)
        | .ok b => ({ b with previous := some t }, none)
      else (c, none) := by
  have hpass : c.afterPass c.previous .inactive = c := by
    rw [← h.definer]
    rfl
  have hs : c.skipsOption t = false := by
    rw [Bool.eq_false_iff, skipsOption, ne_eq, Bool.and_eq_true, Dialect.createOptions_iff]
    rintro ⟨hhead, -, ho | hr⟩
    · exact h.option hhead _ (by decide) ho
    · exact h.option hhead _ (by decide) hr
  have hd : c.statement.definer.advance (c.dialect.supportsDefiner && c.inHead) t =
      (.inactive, false) := by
    rw [h.definer, DefinerState.advance, if_neg]
    rw [Bool.and_eq_true, Bool.and_eq_true, beq_iff_eq]
    rintro ⟨⟨-, hhead⟩, hdef⟩
    exact h.option hhead _ (by decide) hdef
  have hfeed : c.feed t = c.feedHead t := by
    rw [feed, ht, if_neg (by simp), if_neg hk, trackBody_of_bodyless t (h.bodiless.hasBody _)]
  rw [hfeed]
  cases hb : t.isBlank with
  | true =>
    rw [feedHead_of_blank hs hd hb, ← h.definer]
    rfl
  | false =>
    cases hu : c.untyped with
    | true =>
      rw [feedHead_of_untyped hs hd hb hu, hpass]
      rfl
    | false =>
      rw [feedHead_of_typed hs hd hb hu, hpass]
      rfl

theorem takeStep_inDialect (d : Dialect) (c : Classifier) (t : Token) :
    (c.inDialect d).takeStep t = (c.takeStep t).map (·.inDialect d) := by
  cases hp : c.steps[c.stepIndex]? with
  | none =>
    rw [takeStep_of_none t hp, takeStep_of_none (c := c.inDialect d) t hp]
    rfl
  | some p =>
    have hr : (c.inDialect d).refusal? p t = c.refusal? p t := rfl
    have he : p.effect.apply t (c.inDialect d).statement =
        (p.effect.apply t c.statement).inDialect d := by
      cases p.effect <;> rfl
    rw [takeStep_of_step t hp, takeStep_of_step (c := c.inDialect d) t hp, hr, he]
    cases c.refusal? p t <;> rfl

theorem takeStep_definer (h : c.takeStep t = .ok b) :
    b.statement.definer = c.statement.definer := by
  cases hp : c.steps[c.stepIndex]? with
  | none =>
    rw [takeStep_of_none t hp] at h
    rw [Except.ok.inj h]
  | some p =>
    rw [takeStep_of_step t hp] at h
    cases hr : c.refusal? p t with
    | some e => simp [hr] at h
    | none =>
      rw [hr] at h
      rw [← Except.ok.inj h]
      cases p.effect <;> rfl

theorem Plain.feed_inDialect (h : c.Plain t) (d : Dialect) :
    (c.inDialect d).feed t = ((c.feed t).1.inDialect d, (c.feed t).2) := by
  have ht' : (c.inDialect d).statement.terminated = c.statement.terminated := rfl
  cases ht : c.statement.terminated with
  | true => simp [feed, ht', ht]
  | false =>
    by_cases hk : t.kind = .semicolon
    · have hs (c : Classifier) (h : c.Plain t) : c.dialect.suppresses c.statement = false := by
        rw [Dialect.suppresses, h.bodiless.hasBody, Bool.false_and]
      rw [feed_of_semicolon ht hk, feed_of_semicolon (c := c.inDialect d) ht hk, feedSemicolon,
        feedSemicolon, hs c h, hs _ (h.inDialect d)]
      rfl
    · have hu : (c.inDialect d).untyped = c.untyped := rfl
      rw [h.feed_eq ht hk, (h.inDialect d).feed_eq ht hk, hu, takeStep_inDialect]
      split
      · rfl
      · split
        · cases c.takeStep t <;> rfl
        · rfl

theorem Plain.definer_feed (h : c.Plain t) (hf : c.feed t = (b, none)) :
    b.statement.definer = .inactive := by
  have ht := (outcome_of_feed hf).underWay
  by_cases hk : t.kind = .semicolon
  · rw [feed_of_semicolon ht hk] at hf
    obtain ⟨rfl, -⟩ := Prod.mk.inj hf
    exact h.definer
  · rw [h.feed_eq ht hk] at hf
    split at hf
    · obtain ⟨rfl, -⟩ := Prod.mk.inj hf
      exact h.definer
    · split at hf
      · cases hstep : c.takeStep t with
        | error e => simp [hstep] at hf
        | ok a =>
          rw [hstep] at hf
          obtain ⟨rfl, -⟩ := Prod.mk.inj hf
          exact (takeStep_definer hstep).trans h.definer
      · obtain ⟨rfl, -⟩ := Prod.mk.inj hf
        exact h.definer

theorem feedAll_inDialect (d : Dialect) {us : List Token} (hi : c.statement.definer = .inactive)
    (h : ∀ vs u ws b, us = vs ++ u :: ws → c.feedAll vs = .ok b →
      b.statement.Bodiless ∧ (b.inHead = true → ∀ k ∈ Keyword.headWords, u.keyword? ≠ some k)) :
    (c.inDialect d).feedAll us = (c.feedAll us).map (·.inDialect d) := by
  induction us generalizing c with
  | nil => rfl
  | cons u us ih =>
    obtain ⟨hbody, hoption⟩ := h [] u us c rfl rfl
    have hplain : c.Plain u := ⟨hi, hbody, hoption⟩
    rw [feedAll, feedAll, hplain.feed_inDialect d]
    cases hf : c.feed u with
    | mk b e =>
      cases e with
      | some e => rfl
      | none =>
        refine ih (hplain.definer_feed hf) fun vs v ws a hus ha => ?_
        exact h (u :: vs) v ws a (by rw [hus, List.cons_append]) (feedAll_cons_ok.2 ⟨b, hf, ha⟩)

end

theorem ofFirst_inDialect (d : Dialect) (strict : Bool) (t : Token) :
    ofFirst d strict t = (ofFirst .generic strict t).map (·.inDialect d) := by
  have hfresh (o : Opening) :
      fresh d strict o t.start = (fresh .generic strict o t.start).inDialect d := by
    cases d <;> rfl
  unfold ofFirst
  cases t.keyword?.bind Opening.ofKeyword? with
  | some o => exact congrArg Except.ok (hfresh o)
  | none =>
    cases strict with
    | true => rfl
    | false => exact congrArg Except.ok (hfresh .unknown)

end Classifier

theorem HeadGap.isBlank {gap : List Token} (h : HeadGap .generic gap) :
    ∀ u ∈ gap, u.isBlank = true := by
  induction h with
  | nil => simp
  | blank _ hb ih =>
    intro u hu
    rcases List.mem_append.1 hu with hu | hu
    · exact ih u hu
    · rwa [List.mem_singleton.1 hu]
  | option _ hd => contradiction
  | clause _ hd => contradiction

namespace Classifier

variable {set : Settings} {t u : Token} {us vs ws : List Token} {b c : Classifier}

theorem leading_of_untyped (hd : set.dialect = .generic) (hb : t.isBlank = false)
    (h : behind set t vs = .ok b) (hty : b.statement.type = none)
    (hopen : b.statement.terminated = false) :
    (t.keyword? = some .create ∨ t.keyword? = some .drop) ∧ ∀ v ∈ vs, v.isBlank = true := by
  obtain ⟨a, ha, hr⟩ := behind_eq_ok.1 h
  obtain ⟨f, hf, hfeed⟩ := behind_nil.1 ha
  obtain ⟨o, rfl, ⟨rfl, hs⟩ | ⟨k, hk, ho⟩⟩ := opening_of_ofFirst hf
  · -- any first token tells the unknown type, unless it ends the statement
    exfalso
    have hau := type_eq_none_of_feedAll hr hty
    by_cases hsemi : t.kind = .semicolon
    · rw [feed_of_semicolon rfl hsemi] at hfeed
      obtain ⟨rfl, -⟩ := Prod.mk.inj hfeed
      obtain ⟨-, rfl⟩ := feedAll_terminated rfl hr
      simp [feedSemicolon, Dialect.suppresses, Dialect.hasBody, fresh] at hopen
    · have hp : (fresh set.dialect set.strict .unknown t.start).steps[0]? =
          some ⟨[], [], .assign .unknown⟩ := rfl
      rw [feed_of_fresh hsemi hb, takeStep_of_step t hp, refusal?_of_lenient hs] at hfeed
      obtain ⟨rfl, -⟩ := Prod.mk.inj hfeed
      contradiction
  · rcases plain_or_leading ho with ⟨type, hplain⟩ | hlead
    · obtain ⟨a', ha', htype⟩ := exists_behindPlain set hk hplain
      obtain rfl := Except.ok.inj (ha.symm.trans ha')
      rw [feedAll_type hr htype] at hty
      contradiction
    · obtain ⟨a', ha', hl⟩ := exists_behindLeading set hk hlead
      obtain rfl := Except.ok.inj (ha.symm.trans ha')
      obtain ⟨gap, part, hsplit, hgap, hstate⟩ := (hl.hasRead.feedAll hr hty hopen).read
      have hbd : b.dialect = .generic := (dialect_behind h).trans hd
      obtain ⟨-, rfl⟩ := hstate.resolve_right (by simp [hbd])
      rw [List.nil_append, List.append_nil] at hsplit
      rw [hbd] at hgap
      subst hsplit
      refine ⟨?_, hgap.isBlank⟩
      rw [hk]
      exact hlead.imp (congrArg some) (congrArg some)

theorem behind_inDialect (hb : t.isBlank = false)
    (hc : behind { set with strict := false, dialect := .generic } t us = .ok c)
    (hbody : c.statement.Bodiless) (hoption : beginsOption (t :: us) = false) :
    behind set t us =
      (behind { set with dialect := .generic } t us).map (·.inDialect set.dialect) := by
  rw [behind, behind, ofFirst_inDialect]
  cases ha : ofFirst .generic set.strict t with
  | error e => rfl
  | ok a =>
    obtain ⟨o, rfl⟩ := ofFirst_ok ha
    refine feedAll_inDialect set.dialect rfl fun vs u ws b hus hr => ?_
    cases vs with
    | nil =>
      obtain rfl := Except.ok.inj hr
      exact ⟨⟨by simp [fresh], by simp [fresh]⟩, by simp [inHead, fresh]⟩
    | cons t' vs =>
      rw [List.cons_append] at hus
      obtain ⟨rfl, rfl⟩ := List.cons.inj hus
      have hbehind : behind { set with dialect := .generic } t vs = .ok b :=
        behind_ok.2 ⟨_, ha, hr⟩
      have hlenient := behind_lenient hbehind
      obtain ⟨z, hz, hrest⟩ := behind_append.1 hc
      obtain rfl := Except.ok.inj (hlenient.symm.trans hz)
      refine ⟨?_, fun hhead k hk hu => ?_⟩
      · exact ⟨fun hty => hbody.1 (feedAll_type hrest hty),
          fun hty => hbody.2 (feedAll_type hrest hty)⟩
      · have hopen : b.statement.terminated = false := by
          obtain ⟨_, hfeed, -⟩ := feedAll_cons_ok.1 hrest
          exact (outcome_of_feed hfeed).underWay
        have hty : b.statement.type = none := by
          simpa [inHead, untyped] using (Bool.and_eq_true_iff.1 hhead).2
        -- so a keyword that comes now is the first token behind the leading one that is not blank
        obtain ⟨hlead, hblanks⟩ := leading_of_untyped rfl hb hbehind hty hopen
        have hfind : (vs ++ u :: ws).find? (!·.isBlank) = some u := by
          have hnone : vs.find? (!·.isBlank) = none := by
            simpa using hblanks
          simp [List.find?_append, hnone, Token.isBlank_of_keyword hu]
        have hbegins : beginsOption (t :: (vs ++ u :: ws)) = true := by
          simp only [beginsOption, hfind, Option.any_some, hu, Bool.and_eq_true, Bool.or_eq_true,
            beq_iff_eq, List.contains_iff_mem]
          exact ⟨hlead, hk⟩
        rw [hbegins] at hoption
        contradiction

end Classifier

/-! ## Scripts -/

def Statement.Common (s : Statement) (ts : List Token) : Prop :=
  s.Bodiless ∧ beginsOption ts = false

instance (s : Statement) (ts : List Token) : Decidable (s.Common ts) :=
  inferInstanceAs (Decidable (_ ∧ _))

section

variable {t : Token} {us ts : List Token} {last i : Int} {body : List Statement}

theorem Statement.seal_inDialect (d : Dialect) (stop : Int) (s : Statement) :
    (s.inDialect d).seal stop = (s.seal stop).inDialect d := by
  cases hs : s.type <;> simp [Statement.seal, inDialect, hs]

theorem Statement.bodiless_of_seal {s : Statement} {stop : Int} (h : (s.seal stop).Bodiless) :
    s.Bodiless := by
  cases hs : s.type with
  | none => simp [Bodiless, hs]
  | some type => rwa [Statement.seal_of_typed stop hs] at h

theorem behind_ne_alreadyTerminated {c : Classifier} {e : StatementError} (set : Settings)
    (hd : set.dialect ≠ .mysql) (hc : Classifier.behind { set with strict := false } t us = .ok c)
    (he : Classifier.behind set t us = .error e) : e ≠ .alreadyTerminated := by
  obtain ⟨strict, d, observed⟩ := set
  cases strict with
  | false =>
    rw [hc] at he
    contradiction
  | true =>
    rcases headerFits_or_fault d t us with hfit | ⟨e', hfault⟩
    · obtain ⟨a, ha, -⟩ := hfit.behind hd hc
      rw [ha] at he
      contradiction
    · obtain rfl := Except.error.inj ((hfault.behind hd hc).symm.trans he)
      exact hfault.ne_alreadyTerminated

/-- In both modes a run goes along the statements that the generic non-strict run has found, and
comes to the same in all dialects. -/
theorem Laid.inDialect (set : Settings)
    (h : Laid { set with strict := false, dialect := .generic } last i ts body)
    (hcommon : ∀ s ∈ body, s.Common (ts.filter s.holds)) :
    statementsFrom set last none ts =
      (statementsFrom { set with dialect := .generic } last none ts).map
        (List.map (·.inDialect set.dialect)) := by
  induction h with
  | nil => rfl
  | @blank i t ts body hb ht hrest ih =>
    have hothers : ∀ s ∈ body, ([t] ++ ts).filter s.holds = ts.filter s.holds :=
      hrest.filter_append ht
    rw [statementsFrom_blank ts hb, statementsFrom_blank ts hb]
    exact ih fun s hs => hothers s hs ▸ hcommon s hs
  | @statement t us ts s body hr hn hrest ih =>
    have hself := hrest.filter_front hr
    have hothers := hrest.filter_append hr.tiles
    have ih := ih fun s' hs' => hothers s' hs' ▸ hcommon s' (List.mem_cons_of_mem s hs')
    have hcommon := hcommon s List.mem_cons_self
    rw [hself] at hcommon
    obtain ⟨c, stop, hc, hseal⟩ := hr.read
    obtain ⟨hbody, hoption⟩ := hcommon
    rw [hseal] at hbody
    have hbody := Statement.bodiless_of_seal hbody
    have hbehind := Classifier.behind_inDialect hr.first hc hbody hoption
    cases hgeneric : Classifier.behind { set with dialect := .generic } t us with
    | error e =>
      rw [hgeneric] at hbehind
      have hne := behind_ne_alreadyTerminated { set with dialect := .generic } (by simp) hc hgeneric
      rw [statementsFrom_behind_error ts hr.first hbehind hne,
        statementsFrom_behind_error ts hr.first hgeneric hne]
      rfl
    | ok b =>
      rw [hgeneric] at hbehind
      obtain rfl := Except.ok.inj ((Classifier.behind_lenient hgeneric).symm.trans hc)
      have hread : Reads { set with dialect := .generic } t us s :=
        ⟨hr.first, ⟨b, stop, hgeneric, hseal⟩, hr.tiles⟩
      have hread' : Reads set t us (s.inDialect set.dialect) :=
        ⟨hr.first, ⟨_, stop, hbehind, by rw [hseal, ← Statement.seal_inDialect]; rfl⟩, hr.tiles⟩
      have hlast := hrest.last_of_unterminated hn
      rw [hread.statementsFrom_eq hlast, hread'.statementsFrom_eq hlast, ih]
      cases statementsFrom { set with dialect := .generic } last none ts <;> rfl

end

/-- How a dialect and the generic one belong together on a script. The generic statements are those
of non-strict mode, which takes any script apart. -/
structure ReadsAlike (set : Settings) (script : List Char) (p : Parsed) : Prop where
  tokens : tokenize set.dialect script = tokenize .generic script
  lenient : parse { set with strict := false, dialect := .generic } script = .ok p
  outcome : (∀ s ∈ p.body, s.Common (p.tokens.filter s.holds)) →
    parse set script =
      (parse { set with dialect := .generic } script).map (·.inDialect set.dialect)

/-- The dialects agree where their syntax does. -/
theorem exists_readsAlike (set : Settings) (script : List Char)
    (hs : ∀ a ∈ script, a ∉ Dialect.ownMarks) : ∃ p, ReadsAlike set script p := by
  have htokens : tokenize set.dialect script = tokenize .generic script :=
    tokensFrom_common set.dialect 0 hs
  obtain ⟨p, hp⟩ := exists_checksHeaders { set with dialect := .generic } script
  refine ⟨p, htokens, hp.lenient, fun hcommon => ?_⟩
  have hrun := Laid.inDialect set (laid_of_parse hp.lenient) hcommon
  rw [parse_eq, parse_eq, htokens, ← (parse_ok hp.lenient).1, hrun]
  cases statementsFrom { set with dialect := .generic } (lastOffset script) none p.tokens <;> rfl

/-- The token behind `CREATE` is a comment that names an option, and no option. -/
theorem readsAlike_table :
    let script := "CREATE --or\n table t; drop database 'it''s'; Select 1".toList
    (∀ a ∈ script, a ∉ Dialect.ownMarks) ∧ ∃ p, ReadsAlike { dialect := .psql } script p ∧
      p.body.length = 3 ∧ ∀ s ∈ p.body, s.Common (p.tokens.filter s.holds) := by
  intro script
  have hnone : script.all (fun a => !Dialect.ownMarks.contains a) = true := by decide +kernel
  have hmarks : ∀ a ∈ script, a ∉ Dialect.ownMarks := by simpa [List.all_eq_true] using hnone
  obtain ⟨p, hp⟩ := exists_readsAlike { dialect := .psql } script hmarks
  have hbody : (parse { strict := false } script).toOption.map (fun p => decide
      (p.body.length = 3 ∧ ∀ s ∈ p.body, s.Common (p.tokens.filter s.holds))) = some true := by
    decide +kernel
  obtain ⟨q, hq, hall⟩ := Option.map_eq_some_iff.1 hbody
  obtain rfl := Except.ok.inj ((ok_of_toOption hq).symm.trans hp.lenient)
  exact ⟨hmarks, q, hp, of_decide_eq_true hall⟩

end SqlScript
