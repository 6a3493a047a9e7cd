import SqlScript.Proofs.Feeding

/-!
How deep a token stands in the blocks of a body, read off the tokens alone. A classifier that
follows a body counts this depth, and lets the body end where the depth is none.
-/

set_option autoImplicit false

namespace SqlScript

/-- A keyword that opens a block, unless it belongs to an `END` right before it. -/
def Token.opensBlock (t : Token) : Bool :=
  t.keyword?.any [Keyword.begin, .case_, .if_, .loop].contains

structure Nesting where
  afterEnd : Bool
  depth : Nat
  deriving DecidableEq, Repr

def Nesting.step (x : Nesting) (t : Token) : Nesting :=
  if t.isBlank then x
  else if t.keyword? = some .end_ then ⟨true, x.depth - 1⟩
  else if t.opensBlock && !x.afterEnd then ⟨false, x.depth + 1⟩
  else ⟨false, x.depth⟩

def Nesting.allowsEnd (x : Nesting) (t : Token) : Bool :=
  (t.keyword? == some .end_ && (x.step t).depth == 0) ||
    (t.keyword? == some .language && x.depth == 0)

def nesting (body : List Token) : Nesting := body.foldl Nesting.step ⟨false, 0⟩

theorem Token.keyword?_of_blank {t : Token} (h : t.isBlank = true) : t.keyword? = none := by
  unfold Token.keyword?
  split
  · rename_i hk
    simp [Token.isBlank, hk, TokenKind.isBlank] at h
  · rfl

theorem Token.keyword?_of_semicolon {t : Token} (h : t.kind = .semicolon) :
    t.keyword? = none := by
  simp [Token.keyword?, h]

theorem Token.isBlank_of_semicolon {t : Token} (h : t.kind = .semicolon) :
    t.isBlank = false := by
  simp [Token.isBlank, h, TokenKind.isBlank]

theorem Token.kind_ne_semicolon_of_blank {t : Token} (h : t.isBlank = true) :
    t.kind ≠ .semicolon := by
  intro hk
  rw [Token.isBlank_of_semicolon hk] at h
  contradiction

theorem Token.isBlank_of_keyword {t : Token} {k : Keyword} (h : t.keyword? = some k) :
    t.isBlank = false := by
  cases hb : t.isBlank with
  | false => rfl
  | true => simp [Token.keyword?_of_blank hb] at h

theorem Token.kind_ne_semicolon {t : Token} {k : Keyword} (h : t.keyword? = some k) :
    t.kind ≠ .semicolon := by
  intro hk
  rw [Token.keyword?_of_semicolon hk] at h
  contradiction

theorem Token.opensBlock_iff {t : Token} : t.opensBlock = true ↔
    ∃ k ∈ [Keyword.begin, .case_, .if_, .loop], t.keyword? = some k := by
  cases hk : t.keyword? with
  | none => simp [opensBlock, hk]
  | some k => simp [opensBlock, hk]

namespace Nesting

variable {x : Nesting} {t : Token}

theorem step_blank (h : t.isBlank = true) : x.step t = x := by simp [step, h]

theorem step_end (h : t.keyword? = some .end_) : x.step t = ⟨true, x.depth - 1⟩ := by
  simp [step, Token.isBlank_of_keyword h, h]

theorem step_opener (h : t.opensBlock = true) :
    x.step t = ⟨false, if x.afterEnd then x.depth else x.depth + 1⟩ := by
  obtain ⟨k, hm, hk⟩ := Token.opensBlock_iff.1 h
  have hne : ¬ t.keyword? = some .end_ := by
    rw [hk]
    rintro he
    obtain rfl := Option.some.inj he
    simp at hm
  cases hx : x.afterEnd <;> simp [step, Token.isBlank_of_keyword hk, hne, h, hx]

theorem step_plain (hb : t.isBlank = false) (he : t.keyword? ≠ some .end_)
    (ho : t.opensBlock = false) : x.step t = ⟨false, x.depth⟩ := by
  simp [step, hb, he, ho]

theorem afterEnd_step (h : t.isBlank = false) :
    (x.step t).afterEnd = (t.keyword? == some .end_) := by
  by_cases he : t.keyword? = some .end_
  · rw [step_end he, he]
    rfl
  · have he' : (t.keyword? == some .end_) = false := beq_eq_false_iff_ne.2 he
    rw [he']
    cases ho : t.opensBlock with
    | true => rw [step_opener ho]
    | false => rw [step_plain h he ho]

end Nesting

theorem Dialect.trackWord_psql {s : Statement} {x : Nesting} {t : Token} {k : Keyword}
    (hs : s.openBlocks = some (x.depth : Int)) (hk : t.keyword? = some k) :
    (psql.trackWord x.afterEnd k s).getD s =
      { s with
        openBlocks := some ((x.step t).depth : Int)
        canEnd := s.canEnd || x.allowsEnd t } := by
  by_cases hend : k = .end_
  · subst hend
    have hleft : max ((x.depth : Int) - 1) 0 = ((x.depth - 1 : Nat) : Int) := by omega
    have hzero : (((x.depth - 1 : Nat) : Int) == 0) = (x.depth - 1 == 0) := by
      rw [Bool.eq_iff_iff]
      simp only [beq_iff_eq]
      omega
    have hlang : (Keyword.end_ == Keyword.language) = false := rfl
    simp [trackWord, blockEnders, tracksBlocks, hs, hleft, hzero, hlang, Nesting.step_end hk,
      Nesting.allowsEnd, hk]
  have hne : t.keyword? ≠ some .end_ := by simpa [hk] using hend
  have hend' : (k == Keyword.end_) = false := beq_eq_false_iff_ne.2 hend
  have hender : ¬ psql.blockEnders.contains k = true := by simpa [blockEnders] using hend
  cases hopens : t.opensBlock with
  | true =>
    obtain ⟨k', hm, hk'⟩ := Token.opensBlock_iff.1 hopens
    obtain rfl := Option.some.inj (hk.symm.trans hk')
    have hopener : (psql.tracksBlocks && psql.blockOpeners.contains k) = true :=
      List.contains_iff_mem.2 hm
    have hlang : (k == Keyword.language) = false := by
      rw [beq_eq_false_iff_ne]
      rintro rfl
      simp at hm
    have hallows : x.allowsEnd t = false := by simp [Nesting.allowsEnd, hk, hend', hlang]
    rw [Nesting.step_opener hopens, hallows, trackWord, if_neg hender, if_pos hopener]
    cases x.afterEnd with
    | true => simp [← hs]
    | false => simp [hs]
  | false =>
    have hopener : ¬ (psql.tracksBlocks && psql.blockOpeners.contains k) = true := by
      rw [Token.opensBlock, hk] at hopens
      exact Bool.eq_false_iff.1 hopens
    have hopen : s.hasOpenBlock = (x.depth != 0) := by
      rw [Bool.eq_iff_iff]
      simp [Statement.hasOpenBlock, hs]
    have hmarker : (psql.bodyEndMarkers.contains k && !s.hasOpenBlock) = x.allowsEnd t := by
      have hmem : psql.bodyEndMarkers.contains k = (k == .language) := by
        rw [Bool.eq_iff_iff]
        simp [bodyEndMarkers]
      rw [hmem, hopen, Nesting.allowsEnd, hk]
      simp [hend', bne]
    rw [Nesting.step_plain (Token.isBlank_of_keyword hk) hne hopens, trackWord, if_neg hender,
      if_neg hopener, hmarker]
    cases x.allowsEnd t <;> simp [← hs]

namespace Classifier

/-- The classifier of a function's body keeps the depth in its own two fields. -/
structure Follows (c : Classifier) (x : Nesting) : Prop where
  dialect : c.dialect = .psql
  type : c.statement.type = some .createFunction
  word : c.lastBodyWord.any c.dialect.blockEnders.contains = x.afterEnd
  blocks : c.statement.openBlocks = some (x.depth : Int)

theorem Unopened.follows {c : Classifier} (h : c.Unopened) (hd : c.dialect = .psql)
    (hty : c.statement.type = some .createFunction) : c.Follows ⟨false, 0⟩ := by
  have hcount : c.dialect.tracksBlocks = true := by rw [hd]; rfl
  exact ⟨hd, hty, by rw [h.lastBodyWord]; rfl, h.openBlocks hcount⟩

theorem Follows.hasBody {c : Classifier} {x : Nesting} (h : c.Follows x) :
    c.dialect.hasBody c.statement = true := by
  simp [Dialect.hasBody, h.type, h.dialect, Dialect.bodyTypes]

/-- A token that is not refused moves both the same way. -/
theorem Follows.outcome {c c' : Classifier} {x : Nesting} {t : Token} (h : c.Follows x)
    (ho : Outcome c t c' none) :
    c'.Follows (x.step t) ∧ c'.statement.canEnd = (c.statement.canEnd || x.allowsEnd t) := by
  have hbody := h.hasBody
  obtain ⟨hd, hty, hw, hb⟩ := h
  cases ho with
  | semicolon ht hk =>
    have hkey := Token.keyword?_of_semicolon hk
    have hopens : t.opensBlock = false := by simp [Token.opensBlock, hkey]
    rw [Nesting.step_plain (Token.isBlank_of_semicolon hk) (by simp [hkey]) hopens]
    exact ⟨⟨hd, hty, rfl, hb⟩, by simp [feedSemicolon, Nesting.allowsEnd, hkey]⟩
  | passed previous definer ht hk =>
    cases hblank : t.isBlank with
    | true =>
      have hkey := Token.keyword?_of_blank hblank
      rw [trackBody_of_blank hblank, Nesting.step_blank hblank]
      exact ⟨⟨hd, hty, hw, hb⟩, by simp [afterPass, Nesting.allowsEnd, hkey]⟩
    | false =>
      rw [trackBody_fst_of_body hblank hbody, hw, hd]
      cases hkey : t.keyword? with
      | none =>
        have hopens : t.opensBlock = false := by simp [Token.opensBlock, hkey]
        rw [Nesting.step_plain hblank (by simp [hkey]) hopens]
        exact ⟨⟨rfl, hty, rfl, hb⟩, by simp [afterPass, Nesting.allowsEnd, hkey]⟩
      | some k =>
        have hword : (some k).any Dialect.psql.blockEnders.contains = (x.step t).afterEnd := by
          rw [Nesting.afterEnd_step hblank, hkey, Bool.eq_iff_iff]
          simp [Dialect.blockEnders]
        rw [Option.bind_some, Dialect.trackWord_psql hb hkey]
        exact ⟨⟨rfl, hty, hword, rfl⟩, rfl⟩
  | stepped p definer _ _ _ hu => simp [hty] at hu

theorem Follows.feedAll {c c' : Classifier} {x : Nesting} {ts : List Token} (h : c.Follows x)
    (hr : c.feedAll ts = .ok c') : c'.Follows (ts.foldl Nesting.step x) := by
  induction ts generalizing c x with
  | nil => exact Except.ok.inj hr ▸ h
  | cons t ts ih =>
    obtain ⟨b, hf, hr⟩ := feedAll_cons_ok.1 hr
    exact ih (h.outcome (outcome_of_feed hf)).1 hr

theorem Follows.canEnd_iff {c c' : Classifier} {x : Nesting} {ts : List Token} (h : c.Follows x)
    (hr : c.feedAll ts = .ok c') : c'.statement.canEnd = true ↔
      c.statement.canEnd = true ∨
        ∃ a u b, ts = a ++ u :: b ∧ (a.foldl Nesting.step x).allowsEnd u = true := by
  induction ts generalizing c x with
  | nil =>
    obtain rfl := Except.ok.inj hr
    simp
  | cons t ts ih =>
    obtain ⟨b, hf, hr⟩ := feedAll_cons_ok.1 hr
    obtain ⟨hb, hcan⟩ := h.outcome (outcome_of_feed hf)
    rw [ih hb hr, hcan, Bool.or_eq_true, or_assoc]
    refine or_congr_right ?_
    constructor
    · rintro (ht | ⟨a, u, d, rfl, hu⟩)
      · exact ⟨[], t, ts, rfl, ht⟩
      · exact ⟨t :: a, u, d, rfl, hu⟩
    · rintro ⟨a, u, d, hsplit, hu⟩
      cases a with
      | nil =>
        obtain ⟨rfl, rfl⟩ := List.cons.inj hsplit
        exact .inl hu
      | cons t' a =>
        obtain ⟨rfl, rfl⟩ := List.cons.inj hsplit
        exact .inr ⟨a, u, d, rfl, hu⟩

theorem Follows.suppresses_eq_false {c : Classifier} {x : Nesting} (h : c.Follows x) :
    c.dialect.suppresses c.statement = false ↔ c.statement.canEnd = true ∧ x.depth = 0 := by
  have hopen : c.statement.hasOpenBlock = false ↔ x.depth = 0 := by
    simp [Statement.hasOpenBlock, h.blocks]
  rw [Dialect.suppresses, h.hasBody, Bool.true_and, Bool.or_eq_false_iff, hopen, Bool.not_eq_false']

end Classifier

end SqlScript
