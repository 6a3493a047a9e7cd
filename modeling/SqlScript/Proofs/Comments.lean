import SqlScript.Proofs.Guards
import SqlScript.Proofs.Heads
import SqlScript.Proofs.Shift
import SqlScript.Proofs.Spacing

/-!
Comments count as white space. A statement tells a run of blanks from a single space only where
strictness asks for white space right before the object, and there a space is never worse.
-/

set_option autoImplicit false

namespace SqlScript

def Token.placeless (t : Token) : Token := t.relocate fun _ => 0

def Statement.placeless (s : Statement) : Statement := s.relocate fun _ => 0

def Classifier.placeless (c : Classifier) : Classifier := c.relocate fun _ => 0

theorem Token.placeless_eq {t t' : Token} (hk : t'.kind = t.kind) (ht : t'.text = t.text) :
    t'.placeless = t.placeless := by
  simp [placeless, relocate, hk, ht]

theorem Statement.seal_placeless {s s' : Statement} (i j : Int) (h : s'.placeless = s.placeless) :
    (s'.seal i).placeless = (s.seal j).placeless := by
  simp only [placeless, relocate, Statement.mk.injEq] at h
  obtain ⟨-, -, htype, hexec, hend, hcan, hdef, hopen⟩ := h
  cases ht : s.type <;>
    simp [Statement.seal, placeless, relocate, htype, ht, hexec, hend, hcan, hdef, hopen]

def White (previous : Option Token) : Prop := ∃ u, previous = some u ∧ u.kind = .whitespace

theorem white_placeless {c : Classifier} : White c.placeless.previous ↔ White c.previous := by
  cases h : c.previous <;> simp [White, Classifier.placeless, Classifier.relocate, h]

theorem Opening.hasRequiredBefore_of_white {o : Opening} {i : Nat} {p : Step}
    {previous previous' : Option Token} (hp : o.steps[i]? = some p)
    (hw : White previous → White previous') (h : p.hasRequiredBefore previous = true) :
    p.hasRequiredBefore previous' = true := by
  have hrequired : p.requiredBefore = [] ∨ p.requiredBefore = [.whitespace] := by
    have hmem := List.mem_of_getElem? hp
    cases o <;> simp [steps, Step.keyword, Step.leading, Step.object] at hmem <;> grind
  rcases hrequired with hr | hr
  · simp [Step.hasRequiredBefore, hr]
  · have white (q : Option Token) : p.hasRequiredBefore q = true ↔ White q := by
      cases q <;> simp [Step.hasRequiredBefore, hr, White]
    rw [white] at h ⊢
    exact hw h

namespace Classifier

variable {c c' b : Classifier} {t t' w : Token} {ts : List Token}

/-- The same statement under way at other places; where white space stands before the next token of
the one, it does so in the other. -/
structure Alike (c c' : Classifier) : Prop where
  opening : ∃ o : Opening, c.steps = o.steps
  same : c'.placeless = c.placeless.guarded c.strict c'.placeless.previous
  white : White c.previous → White c'.previous

theorem Alike.statement (h : Alike c c') : c'.statement.placeless = c.statement.placeless :=
  congrArg Classifier.statement h.same

theorem refusal?_of_white {p : Step} {previous : Option Token}
    (ho : ∃ o : Opening, c.steps = o.steps) (hp : c.steps[c.stepIndex]? = some p)
    (hw : White c.previous → White previous) (hr : c.refusal? p t = none) :
    (c.guarded c.strict previous).refusal? p t = none := by
  obtain ⟨o, ho⟩ := ho
  rw [ho] at hp
  have hbefore := Opening.hasRequiredBefore_of_white hp hw
  simp only [refusal?, guarded] at hr ⊢
  grind

theorem feed_placeless (c : Classifier) (t : Token) :
    c.placeless.feed t.placeless = ((c.feed t).1.placeless, (c.feed t).2) :=
  feed_relocate _ c t

/-- A token does the same to both. -/
theorem Alike.feed (h : Alike c c') (hk : t'.kind = t.kind) (htext : t'.text = t.text)
    (hf : c.feed t = (b, none)) : ∃ b', c'.feed t' = (b', none) ∧ Alike b b' := by
  have hplace := feed_placeless c t
  have hplace' := feed_placeless c' t'
  have ho := outcome_of_feed hf
  rw [hf] at hplace
  have hrefusal (p : Step) (hp : c.steps[c.stepIndex]? = some p)
      (hr : c.placeless.refusal? p t.placeless = none) :
      (c.placeless.guarded c.strict c'.placeless.previous).refusal? p t.placeless = none :=
    refusal?_of_white (c := c.placeless) h.opening hp
      (fun hw => white_placeless.2 (h.white (white_placeless.1 hw))) hr
  obtain ⟨previous, hfeed, hremembers⟩ :=
    feed_guarded c.strict c'.placeless.previous hplace hrefusal
  rw [← h.same, ← Token.placeless_eq hk htext, hplace'] at hfeed
  cases hf' : c'.feed t' with
  | mk b' e =>
    rw [hf'] at hfeed
    obtain ⟨hb, rfl⟩ := Prod.mk.inj hfeed
    have hprevious : b'.placeless.previous = previous := congrArg Classifier.previous hb
    refine ⟨b', rfl, ?_, ?_, fun hw => ?_⟩
    · obtain ⟨o, hopening⟩ := h.opening
      exact ⟨o, ho.steps_eq.trans hopening⟩
    · rw [hprevious, ho.strict_eq]
      exact hb
    · rw [← white_placeless] at hw ⊢
      rw [hprevious]
      generalize b.placeless.previous = q at hremembers hw
      cases hremembers with
      | token => exact hw
      | kept => exact white_placeless.2 (h.white (white_placeless.1 hw))

@[simp] theorem afterBlank_afterBlank (c : Classifier) (t u : Token) :
    (c.afterBlank t).afterBlank u = c.afterBlank u := by
  unfold afterBlank
  cases hd : c.statement.definer <;> simp [afterPass, hd]

@[simp] theorem afterBlank_terminated (c : Classifier) (t : Token) :
    (c.afterBlank t).statement.terminated = c.statement.terminated := by
  unfold afterBlank
  cases c.statement.definer <;> rfl

theorem feedAll_blanks (ht : c.statement.terminated = false) (hb : ∀ u ∈ ts, u.isBlank = true)
    (hne : ts ≠ []) : ∃ u ∈ ts, c.feedAll ts = .ok (c.afterBlank u) := by
  induction ts generalizing c with
  | nil => contradiction
  | cons u us ih =>
    have hf := feed_blank ht (hb u List.mem_cons_self)
    cases us with
    | nil => exact ⟨u, List.mem_cons_self, feedAll_cons_ok.2 ⟨_, hf, rfl⟩⟩
    | cons v vs =>
      obtain ⟨z, hz, hr⟩ := ih (c := c.afterBlank u) (by simpa using ht)
        (fun x hx => hb x (List.mem_cons_of_mem u hx)) (by simp)
      rw [afterBlank_afterBlank] at hr
      exact ⟨z, List.mem_cons_of_mem u hz, feedAll_cons_ok.2 ⟨_, hf, hr⟩⟩

theorem Alike.afterBlank (h : Alike c c') (hw : w.kind = .whitespace) (t : Token) :
    Alike (c.afterBlank t) (c'.afterBlank w) := by
  have hdefiner : c'.statement.definer = c.statement.definer := by
    have hd := congrArg Statement.definer h.statement
    exact hd
  unfold Classifier.afterBlank
  rw [hdefiner]
  cases c.statement.definer with
  | inactive | consumingPrincipal =>
    refine ⟨h.opening, ?_, fun _ => ⟨w, rfl, hw⟩⟩
    have hsame := congrArg (fun a : Classifier => a.afterPass w.placeless .inactive) h.same
    exact hsame
  | sawDefiner | sawEquals => exact h

theorem Alike.terminated (h : Alike c c') :
    c'.statement.terminated = c.statement.terminated := by
  have ht := congrArg Statement.terminated h.statement
  exact ht

theorem ofFirst_alike {d : Dialect} {strict : Bool} (hk : t'.kind = t.kind)
    (htext : t'.text = t.text) (h : ofFirst d strict t = .ok c) :
    ∃ c', ofFirst d strict t' = .ok c' ∧ Alike c c' := by
  have hkeyword : t'.keyword? = t.keyword? := by simp [Token.keyword?, Token.word?, hk, htext]
  have fresh (o : Opening) : Alike (fresh d strict o t.start) (fresh d strict o t'.start) :=
    ⟨⟨o, rfl⟩, rfl, fun hw => hw⟩
  unfold ofFirst at h ⊢
  rw [hkeyword]
  split at h
  · rw [← Except.ok.inj h]
    exact ⟨_, rfl, fresh _⟩
  · split at h
    · contradiction
    · rw [← Except.ok.inj h]
      exact ⟨_, by simp [*], fresh _⟩

end Classifier

inductive CurrentAlike : Option Classifier → Option Classifier → Prop where
  | none : CurrentAlike none none
  | some {c c' : Classifier} : c.statement.terminated = false → c.Alike c' →
      CurrentAlike (some c) (some c')

theorem statementsFrom_blanks {set : Settings} {last : Int} {blanks : List Token}
    (ts : List Token) (h : ∀ u ∈ blanks, u.isBlank = true) :
    statementsFrom set last none (blanks ++ ts) = statementsFrom set last none ts := by
  induction blanks with
  | nil => rfl
  | cons u us ih =>
    rw [List.cons_append, statementsFrom_blank _ (h u List.mem_cons_self),
      ih fun v hv => h v (List.mem_cons_of_mem u hv)]

section

variable {set : Settings} {last last' : Int}

/-- A token that is not refused is not refused in the other run, and what it ends is the same. -/
theorem Classifier.Alike.statementsFrom_cons {c c' : Classifier} {t t' : Token}
    {ts ts' : List Token} {body : List Statement} (h : c.Alike c') (hk : t'.kind = t.kind)
    (htext : t'.text = t.text)
    (hr : statementsFrom set last (some c) (t :: ts) = .ok body)
    (ih : ∀ current current' rest, CurrentAlike current current' →
      statementsFrom set last current ts = .ok rest →
      ∃ rest', statementsFrom set last' current' ts' = .ok rest' ∧
        rest'.map Statement.placeless = rest.map Statement.placeless) :
    ∃ body', statementsFrom set last' (some c') (t' :: ts') = .ok body' ∧
      body'.map Statement.placeless = body.map Statement.placeless := by
  obtain ⟨b, hf, hnext⟩ := statementsFrom_cons_ok hr
  obtain ⟨b', hf', hb⟩ := h.feed hk htext hf
  have hread : c'.feedAll [t'] = .ok b' := Classifier.feedAll_cons_ok.2 ⟨b', hf', rfl⟩
  rcases hnext with ⟨hopen, hrest⟩ | ⟨hend, rest, hrest, rfl⟩
  · obtain ⟨rest', hrest', hsame⟩ := ih _ _ _ (.some hopen hb) hrest
    have hrun : statementsFrom set last' (some c') ([t'] ++ ts') =
        statementsFrom set last' (some b') ts' :=
      statementsFrom_underWay ts' hread (hb.terminated.trans hopen)
    exact ⟨rest', hrun.trans hrest', hsame⟩
  · obtain ⟨rest', hrest', hsame⟩ := ih _ _ _ .none hrest
    have hopen' := (Classifier.outcome_of_feed hf').underWay
    have hrun : statementsFrom set last' (some c') ([t'] ++ ts') = _ :=
      statementsFrom_terminated t' ts' hread hopen' (hb.terminated.trans hend)
    rw [hrest'] at hrun
    refine ⟨_, hrun, ?_⟩
    rw [List.map_cons, List.map_cons, hsame,
      Statement.seal_placeless _ (t.stop - 1) hb.statement]

theorem statementsFrom_respaced {ts ts' : List Token} (h : Respaced ts ts') :
    ∀ current current' body, CurrentAlike current current' →
      statementsFrom set last current ts = .ok body →
      ∃ body', statementsFrom set last' current' ts' = .ok body' ∧
        body'.map Statement.placeless = body.map Statement.placeless := by
  -- each token, and each run of blanks as a whole, keeps the statements under way alike
  induction h with
  | nil =>
    rintro _ _ body (_ | ⟨hopen, halike⟩) hr
    · obtain rfl := Except.ok.inj hr
      exact ⟨[], rfl, rfl⟩
    · obtain rfl := Except.ok.inj hr
      refine ⟨_, rfl, ?_⟩
      exact congrArg (fun s => [s]) (Statement.seal_placeless _ _ halike.statement)
  | @token t t' ts ts' hb hk htext _ ih =>
    rintro _ _ body (_ | ⟨hopen, halike⟩) hr
    · have hb' : t'.isBlank = false := by rw [Token.isBlank, hk]; exact hb
      cases ho : Classifier.ofFirst set.dialect set.strict t with
      | error e => simp [statementsFrom, advance, hb, ho, bind, Except.bind] at hr
      | ok c =>
        obtain ⟨c', ho', halike⟩ := Classifier.ofFirst_alike hk htext ho
        rw [statementsFrom_first _ hb ho] at hr
        rw [statementsFrom_first _ hb' ho']
        exact halike.statementsFrom_cons hk htext hr ih
    · exact halike.statementsFrom_cons hk htext hr ih
  | @gap w blanks ts ts' hne hblanks hw _ ih =>
    have hwb : w.isBlank = true := by rw [Token.isBlank, hw]; rfl
    rintro _ _ body (_ | ⟨hopen, halike⟩) hr
    · rw [statementsFrom_blanks ts hblanks] at hr
      rw [statementsFrom_blank ts' hwb]
      exact ih _ _ _ .none hr
    · rename_i c c'
      obtain ⟨u, -, hread⟩ := Classifier.feedAll_blanks hopen hblanks hne
      have hread' : c'.feedAll [w] = .ok (c'.afterBlank w) :=
        Classifier.feedAll_cons_ok.2
          ⟨_, Classifier.feed_blank (halike.terminated.trans hopen) hwb, rfl⟩
      have hopen' : (c.afterBlank u).statement.terminated = false := by simpa using hopen
      have halike' := halike.afterBlank hw u
      have hrun' : statementsFrom set last' (some c') ([w] ++ ts') =
          statementsFrom set last' (some (c'.afterBlank w)) ts' :=
        statementsFrom_underWay ts' hread' (halike'.terminated.trans hopen')
      rw [statementsFrom_underWay ts hread hopen'] at hr
      rw [← List.singleton_append, hrun']
      exact ih _ _ _ (.some hopen' halike') hr

end

def solid (ts : List Token) : List Token := (ts.filter (!·.isBlank)).map Token.placeless

theorem Respaced.solid_eq {ts ts' : List Token} (h : Respaced ts ts') : solid ts' = solid ts := by
  induction h with
  | nil => rfl
  | @token t t' ts ts' hb hk htext _ ih =>
    have hb' : t'.isBlank = false := by rw [Token.isBlank, hk]; exact hb
    have hsolid {u : Token} {us : List Token} (hu : u.isBlank = false) :
        solid (u :: us) = u.placeless :: solid us := by
      simp [solid, hu]
    rw [hsolid hb, hsolid hb', Token.placeless_eq hk htext, ih]
  | @gap w blanks ts ts' _ hblanks hw _ ih =>
    have hwb : w.isBlank = true := by rw [Token.isBlank, hw]; rfl
    have hnone : blanks.filter (!·.isBlank) = [] := by
      rw [List.filter_eq_nil_iff]
      intro u hu
      simp [hblanks u hu]
    rw [solid, List.filter_cons, hwb, solid, List.filter_append, hnone]
    exact ih

/-- What is left of a script if only the places are disregarded, and the blanks. -/
structure SameElsewhere (p q : Parsed) : Prop where
  tokens : solid q.tokens = solid p.tokens
  body : q.body.map Statement.placeless = p.body.map Statement.placeless

/-- Comments count as white space: with a space in the place of each, a script is taken apart in the
same way. -/
theorem sameElsewhere_spaced {set : Settings} {script : List Char} {p : Parsed}
    (h : parse set script = .ok p) :
    ∃ q, parse set (spaced p.tokens) = .ok q ∧ SameElsewhere p q := by
  rw [parse_eq] at h
  cases hr : statementsFrom set (lastOffset script) none (tokenize set.dialect script) with
  | error e => simp [hr, Except.map] at h
  | ok body =>
    rw [hr] at h
    obtain rfl := Except.ok.inj h
    have hrespaced : Respaced (tokenize set.dialect script)
        (tokenize set.dialect (spaced (tokenize set.dialect script))) :=
      (respaces_tokensFrom set.dialect 0 script).front 0
    obtain ⟨body', hr', hbody⟩ := statementsFrom_respaced hrespaced none none body .none hr
    have hparse := parse_eq set (spaced (tokenize set.dialect script))
    rw [hr'] at hparse
    exact ⟨_, hparse, hrespaced.solid_eq, hbody⟩

theorem sameElsewhere_spaced_open :
    let script := "CREATE /*c*/ TABLE t--x\n;SELECT 1/2 /* open".toList
    ∃ p, parse {} script = .ok p ∧
      spaced p.tokens = "CREATE   TABLE t \n;SELECT 1/2  ".toList ∧
      ∃ q, parse {} (spaced p.tokens) = .ok q ∧ SameElsewhere p q := by
  intro script
  have h : (parse {} script).toOption.map (fun p => spaced p.tokens) =
      some "CREATE   TABLE t \n;SELECT 1/2  ".toList := by decide +kernel
  obtain ⟨p, hp, hspaced⟩ := Option.map_eq_some_iff.1 h
  have hp := ok_of_toOption hp
  exact ⟨p, hp, hspaced, sameElsewhere_spaced hp⟩

end SqlScript
