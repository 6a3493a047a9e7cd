import SqlScript.Proofs.Heads

/-!
What holds of a statement whatever it is fed, tokens that it refuses among them. Its fields go
together; and once its type is told, it may end or it has ended, that is not taken back.
-/

set_option autoImplicit false

namespace SqlScript

theorem Opening.marksStart_iff {o : Opening} {i : Nat} {p : Step} (hp : o.steps[i]? = some p) :
    p.effect = .markStart ↔ i + 1 ≠ o.steps.length := by
  cases o <;> rcases i with _ | _ | i <;> simp [steps] at hp <;>
    simp [← hp, steps, Step.keyword, Step.leading, Step.object]

theorem Effect.apply_type_eq_none {e : Effect} (t : Token) {s : Statement} (hs : s.type = none) :
    (e.apply t s).type = none ↔ e = .markStart := by
  cases e <;> simp [apply, hs]

theorem DefinerState.active_or_begins {s : DefinerState} {mayBegin : Bool} {t : Token}
    (h : (s.advance mayBegin t).2 = true) : s ≠ .inactive ∨ mayBegin = true := by
  cases s with
  | inactive =>
    cases mayBegin with
    | true => exact .inr rfl
    | false => simp [advance] at h
  | sawDefiner | sawEquals | consumingPrincipal => exact .inl (by simp)

theorem Dialect.trackWord_canEnd {d : Dialect} {f : Bool} {k : Keyword} {s s' : Statement}
    (h : d.trackWord f k s = some s') (hs : s.canEnd = true) : s'.canEnd = true := by
  unfold trackWord at h
  split at h
  · split at h <;> (cases h; simp [hs])
  · split at h
    · split at h <;> (cases h; exact hs)
    · split at h <;> cases h
      rfl

theorem Dialect.trackWord_counted {d : Dialect} {f : Bool} {k : Keyword} {s s' : Statement}
    (h : d.trackWord f k s = some s') (hs : ∃ n, 0 ≤ n ∧ s.openBlocks = some n) :
    ∃ n, 0 ≤ n ∧ s'.openBlocks = some n := by
  obtain ⟨n, hn, ho⟩ := hs
  unfold trackWord at h
  split at h
  · split at h <;> cases h
    · exact ⟨_, by omega, rfl⟩
    · exact ⟨n, hn, ho⟩
  · split at h
    · split at h <;> cases h
      · exact ⟨n, hn, ho⟩
      · rw [ho]
        exact ⟨n + 1, by omega, rfl⟩
    · split at h <;> cases h
      exact ⟨n, hn, ho⟩

namespace Classifier

/-- The state behind tokens, those that are refused among them. -/
def feedOn (c : Classifier) : List Token → Classifier
  | [] => c
  | t :: ts => (c.feed t).1.feedOn ts

variable {d : Dialect} {c c' : Classifier} {t : Token}

theorem statement_trackBody (c : Classifier) (t : Token) :
    (c.trackBody t).1.statement = c.statement ∨ c.dialect.hasBody c.statement = true ∧
      ∃ f k, c.dialect.trackWord f k c.statement = some (c.trackBody t).1.statement := by
  cases hb : t.isBlank with
  | true => exact .inl (by rw [trackBody_of_blank hb])
  | false =>
    cases hbody : c.dialect.hasBody c.statement with
    | false => exact .inl (by rw [trackBody_of_bodyless t hbody])
    | true =>
      rw [trackBody_of_body hb hbody]
      split
      · rename_i s hs
        obtain ⟨k, _, hk⟩ := Option.bind_eq_some_iff.1 hs
        exact .inr ⟨rfl, _, k, hk⟩
      · exact .inl rfl

/-- Behind a token a clause is under way only if the token tells no type, and if it has been under
way before or may begin there. -/
theorem feedHead_definer (c : Classifier) (t : Token)
    (h : (c.feedHead t).1.statement.definer ≠ .inactive) :
    (c.feedHead t).1.statement.type = c.statement.type ∧
      (c.statement.definer ≠ .inactive ∨
        c.dialect.supportsDefiner = true ∧ c.statement.type = none) := by
  cases hs : c.skipsOption t with
  | true =>
    rw [feedHead_of_option hs] at h ⊢
    exact ⟨rfl, .inl h⟩
  | false =>
    cases hd : c.statement.definer.advance (c.dialect.supportsDefiner && c.inHead) t with
    | mk definer taken =>
      cases taken with
      | true =>
        rw [feedHead_of_clause hs hd]
        refine ⟨rfl, (DefinerState.active_or_begins (by rw [hd])).imp_right fun hbegins => ?_⟩
        obtain ⟨hmay, hhead⟩ := (Bool.and_eq_true _ _).mp hbegins
        exact ⟨hmay, by simpa [untyped] using ((Bool.and_eq_true _ _).mp hhead).2⟩
      | false =>
        -- nothing is left of a clause that is over, whatever the token is then taken for
        have hover := DefinerState.advance_of_left (by rw [hd])
        rw [hd] at hover
        obtain rfl : definer = .inactive := congrArg Prod.fst hover
        refine absurd ?_ h
        cases hb : t.isBlank with
        | true => rw [feedHead_of_blank hs hd hb]; rfl
        | false =>
          cases hu : c.untyped with
          | false => rw [feedHead_of_typed hs hd hb hu]; rfl
          | true =>
            rw [feedHead_of_untyped hs hd hb hu]
            cases hp : c.steps[c.stepIndex]? with
            | none => rw [takeStep_of_none (c := c.afterPass c.previous .inactive) t hp]; rfl
            | some p =>
              rw [takeStep_of_step (c := c.afterPass c.previous .inactive) t hp]
              cases (c.afterPass c.previous .inactive).refusal? p t with
              | some e => rfl
              | none => cases p.effect <;> rfl

theorem feed_definer (c : Classifier) (t : Token)
    (h : (c.feed t).1.statement.definer ≠ .inactive) :
    (c.feed t).1.statement.type = c.statement.type ∧
      (c.statement.definer ≠ .inactive ∨
        c.dialect.supportsDefiner = true ∧ c.statement.type = none) := by
  revert h
  rw [feed]
  split
  · exact fun h => ⟨rfl, .inl h⟩
  · split
    · exact fun h => ⟨rfl, .inl h⟩
    · obtain ⟨w, e, o, hbody⟩ := trackBody_eq c t
      cases htrack : c.trackBody t with
      | mk a taken =>
        rw [htrack] at hbody
        obtain rfl : a = _ := hbody
        cases taken with
        | true => exact fun h => ⟨rfl, .inl h⟩
        | false => exact feedHead_definer _ t

/-- How the fields of a statement go together. -/
structure Coherent (d : Dialect) (c : Classifier) : Prop where
  dialect : c.dialect = d
  opening : ∃ o : Opening, c.steps = o.steps
  stepIndex_le : c.stepIndex ≤ c.steps.length
  told_iff : c.stepIndex = c.steps.length ↔ c.statement.type ≠ none
  counted : d = .psql → ∃ n, 0 ≤ n ∧ c.statement.openBlocks = some n
  uncounted : d ≠ .psql → c.statement.openBlocks = none
  canEnd : c.statement.canEnd = true → ∃ type ∈ d.bodyTypes, c.statement.type = some type
  clause : c.statement.definer ≠ .inactive → d = .mysql ∧ c.statement.type = none
  execution : ∀ type, c.statement.type = some type →
    c.statement.execution = some type.execution
  ended : c.statement.terminated = true → d.suppresses c.statement = false

theorem coherent_fresh (d : Dialect) (strict : Bool) (o : Opening) (i : Int) :
    (fresh d strict o i).Coherent d where
  dialect := rfl
  opening := ⟨o, rfl⟩
  stepIndex_le := Nat.zero_le _
  told_iff := by cases o <;> simp [fresh, Opening.steps]
  counted := by
    rintro rfl
    exact ⟨0, Int.le_refl 0, rfl⟩
  uncounted hd := by cases d <;> first | rfl | contradiction
  canEnd h := by simp [fresh] at h
  clause h := by simp [fresh] at h
  execution _ h := by simp [fresh] at h
  ended h := by simp [fresh] at h

theorem Coherent.trackBody (h : c.Coherent d) (t : Token) :
    (d = .psql → ∃ n, 0 ≤ n ∧ (c.trackBody t).1.statement.openBlocks = some n) ∧
      (d ≠ .psql → (c.trackBody t).1.statement.openBlocks = none) ∧
      ((c.trackBody t).1.statement.canEnd = true →
        ∃ type ∈ d.bodyTypes, c.statement.type = some type) := by
  have htracks (hd : d ≠ .psql) : c.dialect.tracksBlocks = false := by
    rw [h.dialect]
    cases d <;> first | rfl | contradiction
  refine ⟨fun hd => ?_, fun hd => ?_, fun hc => ?_⟩
  · rcases statement_trackBody c t with hs | ⟨-, f, k, hs⟩
    · rw [hs]
      exact h.counted hd
    · exact Dialect.trackWord_counted hs (h.counted hd)
  · rw [trackBody_openBlocks t (htracks hd)]
    exact h.uncounted hd
  · rcases statement_trackBody c t with hs | ⟨hbody, -⟩
    · rw [hs] at hc
      exact h.canEnd hc
    · unfold Dialect.hasBody at hbody
      rw [h.dialect] at hbody
      split at hbody
      · contradiction
      · rename_i type htype
        exact ⟨type, by simpa using hbody, htype⟩

theorem Coherent.outcome {e : Option StatementError} (h : c.Coherent d) (ho : Outcome c t c' e)
    (hclause : c'.statement.definer ≠ .inactive → d = .mysql ∧ c'.statement.type = none) :
    c'.Coherent d := by
  cases ho with
  | terminated => exact h
  | semicolon =>
    refine ⟨h.dialect, h.opening, h.stepIndex_le, h.told_iff, h.counted, h.uncounted, h.canEnd,
      hclause, h.execution, fun hend => ?_⟩
    have hsup : d.suppresses c.feedSemicolon.statement = c.dialect.suppresses c.statement := by
      rw [h.dialect]
      rfl
    rw [hsup]
    simpa [feedSemicolon] using hend
  | passed previous definer hopen =>
    obtain ⟨hcounted, huncounted, hcan⟩ := h.trackBody t
    obtain ⟨w, e, o, hb⟩ := trackBody_eq c t
    have hend : (c.trackBody t).1.statement.terminated = false := by rw [hb]; exact hopen
    have htype : (c.trackBody t).1.statement.type = c.statement.type := by rw [hb]
    refine ⟨?_, ?_, ?_, ?_, hcounted, huncounted, ?_, hclause, ?_, ?_⟩
    · rw [← h.dialect, afterPass, hb]
    · rw [afterPass, hb]; exact h.opening
    · rw [afterPass, hb]; exact h.stepIndex_le
    · rw [afterPass, hb]; exact h.told_iff
    · intro hc
      obtain ⟨type, hmem, hty⟩ := hcan hc
      exact ⟨type, hmem, htype.trans hty⟩
    · rw [afterPass, hb]; exact h.execution
    · intro ht
      have hn : (c.trackBody t).1.statement.terminated = true := ht
      rw [hend] at hn
      contradiction
  | stepped p definer hopen _ _ hu hp =>
    obtain ⟨o, hopening⟩ := h.opening
    have hlt := (List.getElem?_eq_some_iff.1 hp).1
    have hmarks := Opening.marksStart_iff (hopening ▸ hp)
    have htold : (c.afterStep p definer t).statement.type = none ↔ p.effect = .markStart :=
      Effect.apply_type_eq_none t hu
    have hcan : (c.afterStep p definer t).statement.canEnd = c.statement.canEnd := by
      cases he : p.effect <;> simp [afterStep, Effect.apply, he]
    have hcount : (c.afterStep p definer t).statement.openBlocks = c.statement.openBlocks := by
      cases he : p.effect <;> simp [afterStep, Effect.apply, he]
    have hend : (c.afterStep p definer t).statement.terminated = false := by
      cases he : p.effect <;> simp [afterStep, Effect.apply, he, hopen]
    refine ⟨h.dialect, ⟨o, hopening⟩, hlt, ?_, ?_, ?_, ?_, hclause, ?_, ?_⟩
    · have hlen : c.steps.length = o.steps.length := congrArg List.length hopening
      have hindex : (c.afterStep p definer t).stepIndex = c.stepIndex + 1 := rfl
      have hsteps : (c.afterStep p definer t).steps.length = c.steps.length := rfl
      rw [ne_eq, htold, hmarks, hindex, hsteps, hlen, ne_eq, Decidable.not_not]
    · rw [hcount]; exact h.counted
    · rw [hcount]; exact h.uncounted
    · intro hc
      rw [hcan] at hc
      obtain ⟨type, -, hty⟩ := h.canEnd hc
      rw [hu] at hty
      contradiction
    · intro type hty
      simp only [afterStep] at hty ⊢
      rw [hty]
      rfl
    · intro ht
      rw [hend] at ht
      contradiction
  | refused =>
    exact ⟨h.dialect, h.opening, h.stepIndex_le, h.told_iff, h.counted, h.uncounted, h.canEnd,
      hclause, h.execution, h.ended⟩

theorem Coherent.feed (h : c.Coherent d) (t : Token) : (c.feed t).1.Coherent d := by
  refine h.outcome (feed_outcome c t) fun hd => ?_
  obtain ⟨htype, hactive | ⟨hmay, hnone⟩⟩ := feed_definer c t hd
  · rw [htype]
    exact h.clause hactive
  · rw [htype, ← h.dialect]
    exact ⟨Dialect.supportsDefiner_iff.1 hmay, hnone⟩

theorem Coherent.feedOn (h : c.Coherent d) (ts : List Token) : (c.feedOn ts).Coherent d := by
  induction ts generalizing c with
  | nil => exact h
  | cons t ts ih => exact ih (h.feed t)

/-- What lasts from one state of a statement to a later one. -/
structure Lasts (c c' : Classifier) : Prop where
  told : ∀ type, c.statement.type = some type → c'.statement.type = some type ∧
    c'.statement.execution = c.statement.execution ∧ c'.statement.start = c.statement.start
  canEnd : c.statement.canEnd = true → c'.statement.canEnd = true
  ended : c.statement.terminated = true → c' = c

theorem Lasts.refl (c : Classifier) : Lasts c c :=
  ⟨fun _ h => ⟨h, rfl, rfl⟩, fun h => h, fun _ => rfl⟩

theorem Lasts.trans {a b : Classifier} (h : Lasts a b) (h' : Lasts b c) : Lasts a c where
  told type ha := by
    obtain ⟨hb, hexec, hstart⟩ := h.told type ha
    obtain ⟨hc, hexec', hstart'⟩ := h'.told type hb
    exact ⟨hc, hexec'.trans hexec, hstart'.trans hstart⟩
  canEnd ha := h'.canEnd (h.canEnd ha)
  ended ha := by
    obtain rfl := h.ended ha
    exact h'.ended ha

theorem Lasts.feed (c : Classifier) (t : Token) : Lasts c (c.feed t).1 := by
  have ho := feed_outcome c t
  generalize (c.feed t).1 = b at ho
  generalize (c.feed t).2 = e at ho
  cases ho with
  | terminated => exact .refl c
  | semicolon hopen =>
    exact ⟨fun _ h => ⟨h, rfl, rfl⟩, fun h => h, fun h => by simp [hopen] at h⟩
  | passed previous definer hopen =>
    obtain ⟨w, e, o, hb⟩ := trackBody_eq c t
    refine ⟨fun type h => ?_, fun h => ?_, fun h => by simp [hopen] at h⟩
    · rw [afterPass, hb]
      exact ⟨h, rfl, rfl⟩
    · rcases statement_trackBody c t with hs | ⟨-, f, k, hs⟩
      · rw [afterPass, hs]
        exact h
      · have hcan := Dialect.trackWord_canEnd hs h
        exact hcan
  | stepped p definer hopen _ _ hu =>
    refine ⟨fun type h => by simp [hu] at h, fun h => ?_, fun h => by simp [hopen] at h⟩
    cases he : p.effect <;> simpa [afterStep, Effect.apply, he] using h
  | refused p definer e hopen _ _ hu =>
    exact ⟨fun type h => by simp [hu] at h, fun h => h, fun h => by simp [hopen] at h⟩

theorem Lasts.feedOn (c : Classifier) (ts : List Token) : Lasts c (c.feedOn ts) := by
  induction ts generalizing c with
  | nil => exact .refl c
  | cons t ts ih => exact (Lasts.feed c t).trans (ih _)

theorem Coherent.statement_feed (h : c.Coherent d) {type : StatementType}
    (hty : c.statement.type = some type) (hk : t.kind ≠ .semicolon) :
    ∃ canEnd openBlocks, (c.feed t).1.statement =
      { c.statement with canEnd := canEnd, openBlocks := openBlocks } := by
  have idle {b : Classifier} (hb : b.Coherent d) (hty : b.statement.type = some type) :
      b.statement.definer = .inactive := by
    refine Decidable.byContradiction fun hd => ?_
    simp [(hb.clause hd).2] at hty
  have hdefiner := idle h hty
  have hdefiner' := idle (h.feed t) ((Lasts.feed c t).told type hty).1
  have ho := feed_outcome c t
  generalize (c.feed t).1 = b at ho hdefiner'
  generalize (c.feed t).2 = e at ho
  cases ho with
  | terminated => exact ⟨_, _, rfl⟩
  | semicolon _ hsemi => exact absurd hsemi hk
  | passed previous definer =>
    obtain ⟨w, e, o, hb⟩ := trackBody_eq c t
    obtain rfl : definer = .inactive := hdefiner'
    exact ⟨e, o, by rw [afterPass, hb, ← hdefiner]⟩
  | stepped _ _ _ _ _ hu => simp [hty] at hu
  | refused _ _ _ _ _ _ hu => simp [hty] at hu

/-- A statement whose fields go together, and what no later token takes back. -/
structure Steady (d : Dialect) (c : Classifier) : Prop where
  coherent : c.Coherent d
  lasts : ∀ ts, c.Lasts (c.feedOn ts)
  body : ∀ type t, c.statement.type = some type → t.kind ≠ .semicolon →
    ∃ canEnd openBlocks, (c.feed t).1.statement =
      { c.statement with canEnd := canEnd, openBlocks := openBlocks }

/-- A statement is steady from its beginning on, whatever tokens it is fed. -/
theorem steady_feedOn {strict : Bool} {first : Token} (h : ofFirst d strict first = .ok c)
    (ts : List Token) : (c.feedOn ts).Steady d := by
  obtain ⟨o, rfl⟩ := ofFirst_ok h
  have hc := (coherent_fresh d strict o first.start).feedOn ts
  exact ⟨hc, Lasts.feedOn _, fun type t hty hk => hc.statement_feed hty hk⟩

theorem steady_feedOn_refused :
    let create : Token := ⟨.keyword, "CREATE".toList, 0, 6⟩
    let c := fresh .psql true .create 0
    let ts := tokenize .psql "CREATE f FUNCTION g; BEGIN IF x; END IF; CASE".toList
    ofFirst .psql true create = .ok c ∧
      (c.feedAll ts).toOption = none ∧ (c.feedOn ts).statement.openBlocks = some 2 ∧
      (c.feedOn ts).Steady .psql := by
  intro create c ts
  have hfirst : ofFirst .psql true create = .ok c := by
    have hk : create.keyword? = some .create := by decide +kernel
    rw [ofFirst, hk]
    rfl
  exact ⟨hfirst, by decide +kernel, by decide +kernel, steady_feedOn hfirst ts⟩

end Classifier

end SqlScript
