import SqlScript.Proofs.Guards
import SqlScript.Proofs.Heads
import SqlScript.Proofs.Spans

/-!
What strict mode adds. It splits a script as non-strict mode does and checks the header of each
statement; the first one that fails the check is the reason why the script is refused.
-/

set_option autoImplicit false

namespace SqlScript

def Token.precedesObject (d : Dialect) (t : Token) : Bool :=
  t.isBlank || t.kind == .semicolon || t.keyword?.any d.createOptions.contains

/-- The tokens of a statement that begins with the keyword `CREATE` or `DROP` and names an object:
the token right before the object, and the object. -/
inductive ObjectAt (d : Dialect) (k : Keyword) : List Token → Token → Token → Prop where
  | found {t x : Token} {gap rest : List Token} : t.keyword? = some k → k = .create ∨ k = .drop →
      (∀ u ∈ gap, u.precedesObject d = true) → x.precedesObject d = false →
      ObjectAt d k (t :: gap ++ x :: rest) (gap.getLastD t) x

inductive HeaderFits (d : Dialect) : List Token → Prop where
  | plain {t : Token} {us : List Token} {k : Keyword} {type : StatementType} :
      t.keyword? = some k → k.plainType? = some type → HeaderFits d (t :: us)
  | noObject {t : Token} {us : List Token} {k : Keyword} :
      t.keyword? = some k → k = .create ∨ k = .drop →
      (∀ u ∈ us, u.precedesObject d = true) → HeaderFits d (t :: us)
  | object {ts : List Token} {k w : Keyword} {before x : Token} : ObjectAt d k ts before x →
      before.kind = .whitespace → x.keyword? = some w → w ∈ k.objects → HeaderFits d ts

inductive HeaderFault (d : Dialect) : List Token → StatementError → Prop where
  | start {t : Token} {us : List Token} :
      (∀ k, t.keyword? = some k → k.plainType? = none ∧ k ≠ .create ∧ k ≠ .drop) →
      HeaderFault d (t :: us) (.unrecognizedStart t.text t.start)
  | glued {ts : List Token} {k : Keyword} {before x : Token} : ObjectAt d k ts before x →
      before.kind ≠ .whitespace → HeaderFault d ts (.missingBefore [.whitespace] x.text 1)
  | noneOf {ts : List Token} {k : Keyword} {before x : Token} : ObjectAt d k ts before x →
      before.kind = .whitespace → (∀ w ∈ k.objects, x.keyword? ≠ some w) →
      HeaderFault d ts (.unaccepted k.objects x.kind x.text 1)

theorem precede_or_objectAt (d : Dialect) {t : Token} {k : Keyword} (us : List Token)
    (ht : t.keyword? = some k) (hk : k = .create ∨ k = .drop) :
    (∀ u ∈ us, u.precedesObject d = true) ∨ ∃ before x, ObjectAt d k (t :: us) before x := by
  have hgap : ∀ u ∈ us.takeWhile (·.precedesObject d), u.precedesObject d = true := by
    intro u hu
    exact List.all_eq_true.1 List.all_takeWhile u hu
  have hus := List.takeWhile_append_dropWhile (p := (·.precedesObject d)) (l := us)
  cases hrest : us.dropWhile (·.precedesObject d) with
  | nil =>
    rw [hrest, List.append_nil] at hus
    rw [hus] at hgap
    exact .inl hgap
  | cons x rest =>
    have hx : x.precedesObject d = false := by
      have h := List.head?_dropWhile_not (·.precedesObject d) us
      simpa [hrest] using h
    have hobject : ObjectAt d k (t :: us.takeWhile (·.precedesObject d) ++ x :: rest) _ x :=
      .found ht hk hgap hx
    rw [List.cons_append, ← hrest, hus] at hobject
    exact .inr ⟨_, _, hobject⟩

theorem headerFits_or_fault (d : Dialect) (t : Token) (us : List Token) :
    HeaderFits d (t :: us) ∨ ∃ e, HeaderFault d (t :: us) e := by
  cases ht : t.keyword? with
  | none => exact .inr ⟨_, .start (by simp [ht])⟩
  | some k =>
    cases hplain : k.plainType? with
    | some type => exact .inl (.plain ht hplain)
    | none =>
      by_cases hk : k = .create ∨ k = .drop
      · rcases precede_or_objectAt d us ht hk with hall | ⟨before, x, hobject⟩
        · exact .inl (.noObject ht hk hall)
        by_cases hwhite : before.kind = .whitespace
        · by_cases haccepted : ∃ w ∈ k.objects, x.keyword? = some w
          · obtain ⟨w, hw, hx⟩ := haccepted
            exact .inl (.object hobject hwhite hx hw)
          · exact .inr ⟨_, .noneOf hobject hwhite fun w hw hx => haccepted ⟨w, hw, hx⟩⟩
        · exact .inr ⟨_, .glued hobject hwhite⟩
      · refine .inr ⟨_, .start fun k' hk' => ?_⟩
        obtain rfl := Option.some.inj (ht.symm.trans hk')
        exact ⟨hplain, not_or.1 hk⟩

theorem Token.precedesObject_iff {d : Dialect} {t : Token} :
    t.precedesObject d = true ↔ t.isBlank = true ∨ t.kind = .semicolon ∨
      (d = .psql ∧ (t.keyword? = some .or ∨ t.keyword? = some .replace)) := by
  rw [precedesObject, Bool.or_eq_true, Bool.or_eq_true, beq_iff_eq, Dialect.createOptions_iff,
    or_assoc]

theorem headGap_of_precede {d : Dialect} {gap : List Token}
    (h : ∀ u ∈ gap, u.precedesObject d = true ∧ u.kind ≠ .semicolon) : HeadGap d gap := by
  have append {before : List Token} (hb : HeadGap d before) : HeadGap d (before ++ gap) := by
    induction gap generalizing before with
    | nil => rwa [List.append_nil]
    | cons u gap ih =>
      obtain ⟨hu, hk⟩ := h u List.mem_cons_self
      rw [List.append_cons]
      refine ih (fun v hv => h v (List.mem_cons_of_mem u hv)) ?_
      rcases Token.precedesObject_iff.1 hu with hblank | hsemi | ⟨hd, hopt⟩
      · exact .blank hb hblank
      · exact absurd hsemi hk
      · exact .option hb hd hopt
  exact append .nil

namespace Classifier

variable {set : Settings} {t x : Token} {gap us vs : List Token} {b c : Classifier} {k : Keyword}

theorem BehindLeading.precede (h : BehindLeading set t k c)
    (hall : ∀ u ∈ gap, u.precedesObject set.dialect = true) (hr : c.feedAll (gap ++ vs) = .ok b) :
    HeadGap set.dialect gap ∨ (vs = [] ∧ NamesNoObject set.dialect gap) := by
  cases hsemi : gap.find? (·.kind == .semicolon) with
  | none =>
    refine .inl (headGap_of_precede fun u hu => ⟨hall u hu, ?_⟩)
    simpa using List.find?_eq_none.1 hsemi u hu
  | some z =>
    obtain ⟨hz, front, rest, rfl, hfront⟩ := List.find?_eq_some_iff_append.1 hsemi
    have hz : z.kind = .semicolon := by simpa using hz
    have hgap : HeadGap set.dialect front := headGap_of_precede fun u hu =>
      ⟨hall u (List.mem_append_left _ hu), by simpa using hfront u hu⟩
    rw [List.append_assoc] at hr
    obtain ⟨a, ha, hr⟩ := feedAll_append_ok.1 hr
    obtain ⟨a', hf, hr⟩ := feedAll_cons_ok.1 hr
    rw [← h.dialect] at hgap
    obtain rfl := Except.ok.inj (ha.symm.trans (h.awaits.feedAll_gap h.definer h.previous hgap))
    rw [(h.awaits.afterPass _ _).feed_semicolon hz] at hf
    obtain ⟨rfl, -⟩ := Prod.mk.inj hf
    obtain ⟨hrest, hvs⟩ := List.append_eq_nil_iff.1 (feedAll_terminated rfl hr).1
    rw [h.dialect] at hgap
    subst hrest hvs
    exact .inr ⟨rfl, hgap.ended (.inr ⟨z, hz, rfl⟩)⟩

theorem precede_behind (hc : behind set t (gap ++ vs) = .ok c) (ht : t.keyword? = some k)
    (hk : k = .create ∨ k = .drop) (hall : ∀ u ∈ gap, u.precedesObject set.dialect = true) :
    HeadGap set.dialect gap ∨ (vs = [] ∧ NamesNoObject set.dialect gap) := by
  obtain ⟨a, ha, hlead⟩ := exists_behindLeading set ht hk
  obtain ⟨a', ha', hr⟩ := behind_eq_ok.1 hc
  obtain rfl := Except.ok.inj (ha.symm.trans ha')
  exact hlead.precede hall hr

/-- What strict mode has against the object of a statement. -/
theorem refusal?_object {before : Token} (hk : k = .create ∨ k = .drop) (hs : c.strict = true)
    (hp : c.previous = some before) (hi : c.stepIndex = 1) :
    c.refusal? (.object k.objectTypes) x =
      if before.kind ≠ .whitespace then some (.missingBefore [.whitespace] x.text 1)
      else if ∃ w ∈ k.objects, x.keyword? = some w then none
      else some (.unaccepted k.objects x.kind x.text 1) := by
  have hbefore : (Step.object k.objectTypes).hasRequiredBefore (some before) =
      decide (before.kind = .whitespace) := by
    simp [Step.hasRequiredBefore, Step.object]
  have haccepts := Keyword.accepts_object hk (t := x)
  have haccepted : (Step.object k.objectTypes).accepted = k.objects := k.map_objectTypes
  rw [refusal?, hs, hp, hi, hbefore, haccepted]
  by_cases hwhite : before.kind = .whitespace
  · by_cases hobject : ∃ w ∈ k.objects, x.keyword? = some w
    · simp [hwhite, haccepts.2 hobject, hobject]
    · rw [Bool.eq_false_iff.2 (mt haccepts.1 hobject)]
      simp [hwhite, hobject]
  · simp [hwhite, Step.object]

theorem BehindLeading.feed_object (h : BehindLeading set t k c) (hd : set.dialect ≠ .mysql)
    (hgap : HeadGap set.dialect gap) (hx : x.precedesObject set.dialect = false) :
    let a := c.afterPass (some (gap.getLastD t)) .inactive
    c.feedAll gap = .ok a ∧ a.feed x = match a.refusal? (.object k.objectTypes) x with
      | some e => (a, some e)
      | none => (a.afterStep (.object k.objectTypes) .inactive x, none) := by
  intro a
  have ha : a.Awaits k.objectTypes := h.awaits.afterPass _ _
  have had : a.dialect = set.dialect := h.dialect
  have hnot := mt Token.precedesObject_iff.2 (Bool.eq_false_iff.1 hx)
  rw [not_or, not_or] at hnot
  obtain ⟨hblank, hsemi, hopt⟩ := hnot
  have hskip : a.skipsOption x = false := by
    rw [Bool.eq_false_iff, ne_eq, ha.skipsOption_eq, had]
    exact hopt
  have hclause : a.statement.definer.advance (a.dialect.supportsDefiner && a.inHead) x =
      (.inactive, false) := by
    have hmay : a.dialect.supportsDefiner = false := by
      rw [had, Bool.eq_false_iff, ne_eq, Dialect.supportsDefiner_iff]
      exact hd
    rw [hmay]
    rfl
  constructor
  · rw [← h.dialect] at hgap
    exact h.awaits.feedAll_gap h.definer h.previous hgap
  · exact ha.feed_object hsemi (Bool.eq_false_iff.2 hblank) hskip hclause

end Classifier

section

variable {set : Settings} {t : Token} {us : List Token} {c : Classifier} {e : StatementError}

theorem ObjectAt.exists_found {d : Dialect} {k : Keyword} {before x : Token}
    (h : ObjectAt d k (t :: us) before x) : ∃ gap rest, us = gap ++ x :: rest ∧
      before = gap.getLastD t ∧ t.keyword? = some k ∧ (k = .create ∨ k = .drop) ∧
      (∀ u ∈ gap, u.precedesObject d = true) ∧ x.precedesObject d = false := by
  generalize hts : t :: us = ts at h
  obtain ⟨ht, hk, hgap, hx⟩ := h
  obtain ⟨rfl, rfl⟩ := List.cons.inj hts
  exact ⟨_, _, rfl, rfl, ht, hk, hgap, hx⟩

/-- What strict mode does at the object of a statement that the other mode reads. -/
theorem ObjectAt.behind {k : Keyword} {before x : Token}
    (h : ObjectAt set.dialect k (t :: us) before x) (hd : set.dialect ≠ .mysql)
    (hc : Classifier.behind { set with strict := false } t us = .ok c) :
    ∃ gap rest a, us = gap ++ x :: rest ∧
      Classifier.behind { set with strict := true } t gap = .ok a ∧
      a.feed x =
        if before.kind ≠ .whitespace then (a, some (.missingBefore [.whitespace] x.text 1))
        else if ∃ w ∈ k.objects, x.keyword? = some w then
          (a.afterStep (.object k.objectTypes) .inactive x, none)
        else (a, some (.unaccepted k.objects x.kind x.text 1)) := by
  obtain ⟨gap, rest, rfl, rfl, ht, hk, hgap, hx⟩ := h.exists_found
  obtain ⟨f, hf, hlead⟩ := Classifier.exists_behindLeading { set with strict := true } ht hk
  have hgap := (Classifier.precede_behind hc ht hk hgap).resolve_right (by simp)
  obtain ⟨hread, hfeed⟩ := hlead.feed_object hd hgap hx
  refine ⟨gap, rest, _, rfl, Classifier.behind_eq_ok.2 ⟨f, hf, hread⟩, ?_⟩
  have hrefusal := Classifier.refusal?_object (x := x)
    (c := f.afterPass (some (gap.getLastD t)) .inactive) hk hlead.strict rfl hlead.stepIndex
  rw [hfeed, hrefusal]
  by_cases hwhite : (gap.getLastD t).kind ≠ .whitespace
  · rw [if_pos hwhite, if_pos hwhite]
  · rw [if_neg hwhite, if_neg hwhite]
    by_cases hobject : ∃ w ∈ k.objects, x.keyword? = some w
    · rw [if_pos hobject, if_pos hobject]
    · rw [if_neg hobject, if_neg hobject]

theorem HeaderFits.behind (h : HeaderFits set.dialect (t :: us)) (hd : set.dialect ≠ .mysql)
    (hc : Classifier.behind { set with strict := false } t us = .ok c) :
    ∃ a, Classifier.behind { set with strict := true } t us = .ok a ∧ a.lenient = c := by
  generalize hts : t :: us = ts at h
  cases h with
  | @plain t' us' k type hk hplain =>
    obtain ⟨rfl, rfl⟩ := List.cons.inj hts
    obtain ⟨a, ha, hty⟩ := Classifier.exists_behindPlain { set with strict := true } hk hplain
    rw [← List.nil_append us] at hc ⊢
    exact Classifier.behind_of_typed ha hty hc
  | @noObject t' us' k ht hk hall =>
    obtain ⟨rfl, rfl⟩ := List.cons.inj hts
    obtain ⟨f, hf, hlead⟩ := Classifier.exists_behindLeading { set with strict := true } ht hk
    -- the other mode has read all the tokens, so only the last of them can be a semicolon
    have hnone : NamesNoObject f.dialect us := by
      rw [hlead.dialect]
      have hread := hc
      rw [← List.append_nil us] at hread
      rcases Classifier.precede_behind hread ht hk hall with hgap | ⟨-, hn⟩
      · have hn := hgap.ended (.inl rfl)
        rwa [List.append_nil] at hn
      · exact hn
    obtain ⟨a, ha, -⟩ := hlead.awaits.feedAll_namesNoObject hlead.definer hlead.previous hnone
    have ha := Classifier.behind_eq_ok.2 ⟨f, hf, ha⟩
    exact ⟨a, ha, Classifier.lenient_eq ha hc⟩
  | @object _ k w before x hobject hwhite hx hw =>
    subst hts
    obtain ⟨gap, rest, a, rfl, ha, hfeed⟩ := hobject.behind hd hc
    rw [if_neg (by simpa using hwhite), if_pos ⟨w, hw, hx⟩] at hfeed
    have hstep : a.feedAll [x] = .ok (a.afterStep (.object k.objectTypes) .inactive x) :=
      Classifier.feedAll_cons_ok.2 ⟨_, hfeed, rfl⟩
    have hread := Classifier.behind_append.2 ⟨a, ha, hstep⟩
    rw [List.append_cons] at hc ⊢
    exact Classifier.behind_of_typed hread rfl hc

/-- A statement that fails the header check is refused for the reason why it does. -/
theorem HeaderFault.behind (h : HeaderFault set.dialect (t :: us) e) (hd : set.dialect ≠ .mysql)
    (hc : Classifier.behind { set with strict := false } t us = .ok c) :
    Classifier.behind { set with strict := true } t us = .error e := by
  generalize hts : t :: us = ts at h
  cases h with
  | @start t' us' hstart =>
    obtain ⟨rfl, rfl⟩ := List.cons.inj hts
    have hnone : t.keyword?.bind Opening.ofKeyword? = none := by
      cases hk : t.keyword? with
      | none => rfl
      | some k =>
        obtain ⟨hplain, hcreate, hdrop⟩ := hstart k hk
        cases ho : Opening.ofKeyword? k with
        | none => exact ho
        | some o =>
          rcases Classifier.plain_or_leading ho with ⟨type, hp⟩ | hp | hp <;> simp_all
    simp [Classifier.behind, Classifier.ofFirst, hnone, bind, Except.bind]
  | glued hobject hwhite =>
    subst hts
    obtain ⟨gap, rest, a, rfl, ha, hfeed⟩ := hobject.behind hd hc
    rw [if_pos hwhite] at hfeed
    exact Classifier.behind_refused ha hfeed
  | noneOf hobject hwhite hne =>
    subst hts
    obtain ⟨gap, rest, a, rfl, ha, hfeed⟩ := hobject.behind hd hc
    rw [if_neg (by simpa using hwhite), if_neg (by simpa using hne)] at hfeed
    exact Classifier.behind_refused ha hfeed

theorem HeaderFits.reads {s : Statement} (h : HeaderFits set.dialect (t :: us))
    (hd : set.dialect ≠ .mysql) (hr : Reads { set with strict := false } t us s) :
    Reads { set with strict := true } t us s := by
  obtain ⟨c, stop, hc, hs⟩ := hr.read
  obtain ⟨a, ha, rfl⟩ := h.behind hd hc
  exact ⟨hr.first, ⟨a, stop, ha, hs⟩, hr.tiles⟩

theorem HeaderFault.not_fits {s : Statement} (h : HeaderFault set.dialect (t :: us) e)
    (hd : set.dialect ≠ .mysql) (hr : Reads { set with strict := false } t us s) :
    ¬ HeaderFits set.dialect (t :: us) := by
  intro hfit
  obtain ⟨c, -, hc, -⟩ := hr.read
  obtain ⟨a, ha, -⟩ := hfit.behind hd hc
  rw [h.behind hd hc] at ha
  contradiction

theorem HeaderFault.ne_alreadyTerminated {d : Dialect} {ts : List Token} (h : HeaderFault d ts e) :
    e ≠ .alreadyTerminated := by
  cases h <;> simp

end

/-- The answer of a run that checks the headers of the statements in turn. -/
inductive Checked (d : Dialect) (tokensOf : Statement → List Token) :
    List Statement → Except StatementError (List Statement) → Prop where
  | passed {body : List Statement} : (∀ s ∈ body, HeaderFits d (tokensOf s)) →
      Checked d tokensOf body (.ok body)
  | failed {pre post : List Statement} {s : Statement} {e : StatementError} :
      (∀ s ∈ pre, HeaderFits d (tokensOf s)) → HeaderFault d (tokensOf s) e →
      Checked d tokensOf (pre ++ s :: post) (.error e)

namespace Checked

variable {d : Dialect} {f g : Statement → List Token} {body : List Statement}
  {r : Except StatementError (List Statement)}

theorem congr (h : Checked d f body r) (hfg : ∀ s ∈ body, g s = f s) : Checked d g body r := by
  cases h with
  | passed hall => exact .passed fun s hs => by rw [hfg s hs]; exact hall s hs
  | failed hpre hfault =>
    refine .failed (fun s hs => ?_) ?_
    · rw [hfg s (List.mem_append_left _ hs)]
      exact hpre s hs
    · rwa [hfg _ (by simp)]

theorem cons {s : Statement} (h : Checked d f body r) (hs : HeaderFits d (f s)) :
    Checked d f (s :: body) (r.map (s :: ·)) := by
  cases h with
  | passed hall => exact .passed (List.forall_mem_cons.2 ⟨hs, hall⟩)
  | @failed pre post s' e hpre hfault =>
    exact @failed d f (s :: pre) post s' e (List.forall_mem_cons.2 ⟨hs, hpre⟩) hfault

end Checked

namespace Laid

variable {set : Settings} {last i : Int} {ts us : List Token} {t : Token} {s : Statement}
  {body : List Statement}

theorem filter_append {m : Int} (h : Laid set last m ts body) (ht : Tiles i us m) :
    ∀ s ∈ body, (us ++ ts).filter s.holds = ts.filter s.holds := by
  intro s hs
  rw [List.filter_append, List.filter_eq_nil_iff.2, List.nil_append]
  intro u hu
  obtain ⟨-, hlt, hstop⟩ := ht.bounds hu
  simp [(h.holds_before hlt hstop s hs).2]

theorem checked (hd : set.dialect ≠ .mysql)
    (h : Laid { set with strict := false } last i ts body) :
    Checked set.dialect (fun s => ts.filter s.holds) body
      (statementsFrom { set with strict := true } last none ts) := by
  -- along the statements: the check of one looks at no token of the others
  induction h with
  | nil => exact .passed (by simp)
  | @blank i t ts body hb ht hrest ih =>
    rw [statementsFrom_blank ts hb]
    have hothers : ∀ s ∈ body, ([t] ++ ts).filter s.holds = ts.filter s.holds :=
      hrest.filter_append ht
    exact ih.congr hothers
  | @statement t us ts s body hr hn hrest ih =>
    have hself := hrest.filter_front hr
    have hothers := ih.congr (hrest.filter_append hr.tiles)
    rcases headerFits_or_fault set.dialect t us with hfit | ⟨e, hfault⟩
    · rw [(hfit.reads hd hr).statementsFrom_eq (hrest.last_of_unterminated hn)]
      exact hothers.cons (by rwa [hself])
    · obtain ⟨c, stop, hc, -⟩ := hr.read
      rw [statementsFrom_behind_error ts hr.first (hfault.behind hd hc) hfault.ne_alreadyTerminated]
      exact @Checked.failed _ _ [] body s e (by simp) (by rwa [hself])

end Laid

/-- How the two modes belong together. Non-strict mode takes any script apart, and strict mode,
where it succeeds, comes to the same. Unless the dialect knows clauses it succeeds just if every
statement passes the header check, and it is the first failing one that it reports. -/
structure ChecksHeaders (set : Settings) (script : List Char) (p : Parsed) : Prop where
  lenient : parse { set with strict := false } script = .ok p
  same : ∀ q, parse { set with strict := true } script = .ok q → q = p
  accepts : set.dialect ≠ .mysql → ((∃ q, parse { set with strict := true } script = .ok q) ↔
    ∀ s ∈ p.body, HeaderFits set.dialect (p.tokens.filter s.holds))
  refuses : set.dialect ≠ .mysql → ∀ e, parse { set with strict := true } script = .error e →
    ∃ pre s post, p.body = pre ++ s :: post ∧
      (∀ s' ∈ pre, HeaderFits set.dialect (p.tokens.filter s'.holds)) ∧
      HeaderFault set.dialect (p.tokens.filter s.holds) e

/-- Strict mode is non-strict mode with a header check. -/
theorem exists_checksHeaders (set : Settings) (script : List Char) :
    ∃ p, ChecksHeaders set script p := by
  obtain ⟨body, hbody⟩ : ∃ body, statementsFrom { set with strict := false }
      (lastOffset script) none (tokenize set.dialect script) = .ok body :=
    exists_statementsFrom rfl _ _ none (by simp)
  have hlenient : parse { set with strict := false } script =
      .ok ⟨0, lastOffset script, body, tokenize set.dialect script⟩ := by
    rw [parse_eq, hbody]
    rfl
  have hchecked (hd : set.dialect ≠ .mysql) := (laid_of_parse hlenient).checked hd
  have hstrict := parse_eq { set with strict := true } script
  generalize hr : statementsFrom { set with strict := true } (lastOffset script) none
    (tokenize set.dialect script) = r at hchecked hstrict
  refine ⟨_, ⟨hlenient, fun q hq => ?_, fun hd => ?_, fun hd e he => ?_⟩⟩
  · cases r with
    | error e => simp [hstrict, Except.map] at hq
    | ok body' =>
      obtain rfl := Except.ok.inj ((statementsFrom_lenient hr).symm.trans hbody)
      rw [hstrict] at hq
      exact (Except.ok.inj hq).symm
  · rw [hstrict]
    cases hchecked hd with
    | passed hall => exact iff_of_true ⟨_, rfl⟩ hall
    | @failed pre post s e _ hfault =>
      refine iff_of_false (by simp [Except.map]) fun hall => ?_
      have hmem : s ∈ pre ++ s :: post := by simp
      obtain ⟨t, us, htokens, hread⟩ := (laid_of_parse hlenient).held s hmem
      rw [htokens] at hfault
      have hfit := hall s hmem
      rw [htokens] at hfit
      exact hfault.not_fits hd hread hfit
  · rw [hstrict] at he
    obtain hall | ⟨hpre, hfault⟩ := hchecked hd
    · contradiction
    · obtain rfl := Except.error.inj he
      exact ⟨_, _, _, rfl, hpre, hfault⟩

end SqlScript
