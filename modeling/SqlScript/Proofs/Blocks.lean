import SqlScript.Proofs.Ending

/-!
Bodies whose blocks are well nested. No semicolon within such a block ends the statement, however
deep the blocks stand in each other.
-/

set_option autoImplicit false

namespace SqlScript

/-- Well nested tokens: each `END` closes a block, and a closer behind it names the block. Whether
the last token before them is an `END`, blanks apart, matters since no block opens right there. -/
inductive Nested : Bool → List Token → Prop where
  | nil {afterEnd : Bool} : Nested afterEnd []
  | blank {afterEnd : Bool} {t : Token} {ts : List Token} : t.isBlank = true →
      Nested afterEnd ts → Nested afterEnd (t :: ts)
  | plain {afterEnd : Bool} {t : Token} {ts : List Token} : t.isBlank = false →
      t.keyword? ≠ some .end_ → t.opensBlock = false → Nested false ts → Nested afterEnd (t :: ts)
  | block {opener ender : Token} {inner ts : List Token} : opener.opensBlock = true →
      Nested false inner → ender.keyword? = some .end_ → Nested true ts →
      Nested false (opener :: inner ++ ender :: ts)
  | named {opener ender closer : Token} {inner blanks ts : List Token} :
      opener.opensBlock = true → Nested false inner → ender.keyword? = some .end_ →
      (∀ t ∈ blanks, t.isBlank = true) →
      (∃ k ∈ [Keyword.case_, .if_, .loop], closer.keyword? = some k) → Nested false ts →
      Nested false (opener :: inner ++ ender :: (blanks ++ closer :: ts))

namespace Nesting

def StaysAbove (d : Nat) : Nesting → List Token → Prop
  | x, [] => d ≤ x.depth
  | x, t :: ts => d ≤ x.depth ∧ StaysAbove d (x.step t) ts

theorem StaysAbove.mono {d d' : Nat} {x : Nesting} {ts : List Token} (h : StaysAbove d x ts)
    (hd : d' ≤ d) : StaysAbove d' x ts := by
  induction ts generalizing x with
  | nil => exact Nat.le_trans hd h
  | cons t ts ih => exact ⟨Nat.le_trans hd h.1, ih h.2⟩

theorem staysAbove_append {d : Nat} {x : Nesting} {a b : List Token} (ha : StaysAbove d x a)
    (hb : StaysAbove d (a.foldl step x) b) : StaysAbove d x (a ++ b) := by
  induction a generalizing x with
  | nil => exact hb
  | cons t a ih => exact ⟨ha.1, ih ha.2 hb⟩

theorem StaysAbove.of_append {d : Nat} {x : Nesting} {a b : List Token}
    (h : StaysAbove d x (a ++ b)) :
    StaysAbove d x a ∧ d ≤ (a.foldl step x).depth := by
  induction a generalizing x with
  | nil =>
    have hd : d ≤ x.depth := by
      cases b with
      | nil => exact h
      | cons t b => exact h.1
    exact ⟨hd, hd⟩
  | cons t a ih =>
    obtain ⟨ha, hd⟩ := ih h.2
    exact ⟨⟨h.1, ha⟩, hd⟩

theorem foldl_blanks {x : Nesting} {ts : List Token} (h : ∀ t ∈ ts, t.isBlank = true) :
    ts.foldl step x = x := by
  induction ts with
  | nil => rfl
  | cons t ts ih =>
    obtain ⟨ht, hts⟩ := List.forall_mem_cons.1 h
    rw [List.foldl_cons, step_blank ht, ih hts]

theorem staysAbove_blanks {x : Nesting} {ts : List Token} (h : ∀ t ∈ ts, t.isBlank = true) :
    StaysAbove x.depth x ts := by
  induction ts with
  | nil => exact Nat.le_refl _
  | cons t ts ih =>
    obtain ⟨ht, hts⟩ := List.forall_mem_cons.1 h
    exact ⟨Nat.le_refl _, by rw [step_blank ht]; exact ih hts⟩

theorem foldl_plain {n : Nat} {ts : List Token}
    (h : ∀ t ∈ ts, t.keyword? ≠ some .end_ ∧ t.opensBlock = false) :
    ts.foldl step ⟨false, n⟩ = ⟨false, n⟩ := by
  induction ts with
  | nil => rfl
  | cons t ts ih =>
    obtain ⟨⟨he, ho⟩, hts⟩ := List.forall_mem_cons.1 h
    rw [List.foldl_cons]
    cases hb : t.isBlank with
    | true => rw [step_blank hb, ih hts]
    | false => rw [step_plain hb he ho, ih hts]

theorem foldl_block {x : Nesting} {opener ender : Token} {inner : List Token}
    (hx : x.afterEnd = false) (ho : opener.opensBlock = true)
    (he : ender.keyword? = some .end_)
    (hdepth : (inner.foldl step ⟨false, x.depth + 1⟩).depth = x.depth + 1)
    (habove : StaysAbove (x.depth + 1) ⟨false, x.depth + 1⟩ inner) :
    (opener :: inner ++ [ender]).foldl step x = ⟨true, x.depth⟩ ∧
      x.StaysAbove x.depth (opener :: inner ++ [ender]) := by
  have hopen : x.step opener = ⟨false, x.depth + 1⟩ := by simp [step_opener ho, hx]
  have hend : (inner.foldl step ⟨false, x.depth + 1⟩).step ender = ⟨true, x.depth⟩ := by
    rw [step_end he, hdepth, Nat.add_sub_cancel]
  constructor
  · rw [List.cons_append, List.foldl_cons, hopen, List.foldl_append, List.foldl_cons, hend]
    rfl
  · refine ⟨Nat.le_refl _, ?_⟩
    rw [hopen]
    refine staysAbove_append (habove.mono (Nat.le_succ _)) ⟨by omega, ?_⟩
    rw [hend]
    exact Nat.le_refl _

end Nesting

/-- Well nested tokens leave as many blocks open as before, and close none of those. -/
theorem Nested.depth {afterEnd : Bool} {ts : List Token} (h : Nested afterEnd ts) {x : Nesting}
    (hx : x.afterEnd = afterEnd) :
    (ts.foldl Nesting.step x).depth = x.depth ∧ x.StaysAbove x.depth ts := by
  -- within a block the depth is one more, so that nothing there can close what is open outside
  induction h generalizing x with
  | nil => exact ⟨rfl, Nat.le_refl _⟩
  | @blank afterEnd t ts ht _ ih =>
    rw [List.foldl_cons, Nesting.StaysAbove, Nesting.step_blank ht]
    obtain ⟨hdepth, habove⟩ := ih hx
    exact ⟨hdepth, Nat.le_refl _, habove⟩
  | @plain afterEnd t ts hb he ho _ ih =>
    rw [List.foldl_cons, Nesting.StaysAbove, Nesting.step_plain hb he ho]
    obtain ⟨hdepth, habove⟩ := ih (x := ⟨false, x.depth⟩) rfl
    exact ⟨hdepth, Nat.le_refl _, habove⟩
  | @block opener ender inner ts ho _ he _ ihInner ihRest =>
    obtain ⟨hinner, hinnerAbove⟩ := ihInner (x := ⟨false, x.depth + 1⟩) rfl
    obtain ⟨hblock, habove⟩ := Nesting.foldl_block hx ho he hinner hinnerAbove
    obtain ⟨hrest, hrestAbove⟩ := ihRest (x := ⟨true, x.depth⟩) rfl
    rw [List.append_cons, List.foldl_append, hblock]
    exact ⟨hrest, Nesting.staysAbove_append habove (by rwa [hblock])⟩
  | @named opener ender closer inner blanks ts ho _ he hblanks hc _ ihInner ihRest =>
    obtain ⟨hinner, hinnerAbove⟩ := ihInner (x := ⟨false, x.depth + 1⟩) rfl
    obtain ⟨hblock, habove⟩ := Nesting.foldl_block hx ho he hinner hinnerAbove
    obtain ⟨hrest, hrestAbove⟩ := ihRest (x := ⟨false, x.depth⟩) rfl
    have hopens : closer.opensBlock = true := by
      obtain ⟨k, hm, hk⟩ := hc
      exact Token.opensBlock_iff.2 ⟨k, List.mem_cons_of_mem _ hm, hk⟩
    have hclose : Nesting.step ⟨true, x.depth⟩ closer = ⟨false, x.depth⟩ :=
      Nesting.step_opener hopens
    rw [List.append_cons, List.foldl_append, hblock, List.foldl_append,
      Nesting.foldl_blanks hblanks, List.foldl_cons, hclose]
    refine ⟨hrest, Nesting.staysAbove_append habove ?_⟩
    have hgap : Nesting.StaysAbove x.depth ⟨true, x.depth⟩ blanks :=
      Nesting.staysAbove_blanks (x := ⟨true, x.depth⟩) hblanks
    rw [hblock]
    refine Nesting.staysAbove_append hgap ?_
    rw [Nesting.foldl_blanks hblanks]
    exact ⟨Nat.le_refl _, by rwa [hclose]⟩

namespace Classifier

def Guarded : Nesting → List Token → Prop
  | _, [] => True
  | x, t :: ts => (t.kind = .semicolon → 1 ≤ x.depth) ∧ Guarded (x.step t) ts

theorem guarded_of_staysAbove {x : Nesting} {ts : List Token} (h : x.StaysAbove 1 ts) :
    Guarded x ts := by
  induction ts generalizing x with
  | nil => trivial
  | cons t ts ih => exact ⟨fun _ => h.1, ih h.2⟩

theorem guarded_of_none {x : Nesting} {ts : List Token}
    (h : ∀ t ∈ ts, t.kind ≠ .semicolon) : Guarded x ts := by
  induction ts generalizing x with
  | nil => trivial
  | cons t ts ih =>
    obtain ⟨ht, hts⟩ := List.forall_mem_cons.1 h
    exact ⟨fun hk => absurd hk ht, ih hts⟩

theorem guarded_append {x : Nesting} {a b : List Token} (ha : Guarded x a)
    (hb : Guarded (a.foldl Nesting.step x) b) : Guarded x (a ++ b) := by
  induction a generalizing x with
  | nil => exact hb
  | cons t a ih => exact ⟨ha.1, ih ha.2 hb⟩

theorem Follows.run {c : Classifier} {x : Nesting} {ts : List Token} (h : c.Follows x)
    (ht : c.statement.terminated = false) (hg : Guarded x ts) :
    ∃ b, c.feedAll ts = .ok b ∧ b.statement.terminated = false ∧
      b.Follows (ts.foldl Nesting.step x) := by
  induction ts generalizing c x with
  | nil => exact ⟨c, rfl, ht, h⟩
  | cons t ts ih =>
    obtain ⟨b, hf⟩ := feed_of_typed t h.type ht
    have ho := outcome_of_feed hf
    have hb : b.statement.terminated = false := by
      rw [Bool.eq_false_iff, ne_eq, ho.terminated_iff, h.suppresses_eq_false]
      rintro ⟨hk, _, hdepth⟩
      have hopen := hg.1 hk
      omega
    obtain ⟨b', hr, hb', hfollows⟩ := ih (h.outcome ho).1 hb hg.2
    exact ⟨b', feedAll_cons_ok.2 ⟨b, hf, hr⟩, hb', hfollows⟩

structure InBlocks (c : Classifier) (d : Int) : Prop where
  dialect : c.dialect = .psql
  type : c.statement.type = some .createFunction
  underWay : c.statement.terminated = false
  openBlocks : c.statement.openBlocks = some d
  pos : 1 ≤ d
  word : c.lastBodyWord ≠ some .end_

/-- Well nested tokens in an open block leave the statement under way and the blocks open. -/
theorem InBlocks.feedAll_nested {c : Classifier} {d : Int} {ts : List Token} (h : c.InBlocks d)
    (hn : Nested false ts) :
    ∃ b, c.feedAll ts = .ok b ∧ b.statement.terminated = false ∧
      b.statement.openBlocks = some d ∧
      ∀ pre, pre <+: ts → ∃ a n, c.feedAll pre = .ok a ∧ a.statement.terminated = false ∧
        a.statement.openBlocks = some n ∧ d ≤ n := by
  obtain ⟨hd, hty, ht, hopen, hpos, hw⟩ := h
  let x : Nesting := ⟨false, d.toNat⟩
  have hx : (x.depth : Int) = d := by simp only [x]; omega
  have hfollows : c.Follows x := by
    refine ⟨hd, hty, ?_, by rw [hopen, hx]⟩
    cases hk : c.lastBodyWord with
    | none => rfl
    | some k =>
      rw [hk] at hw
      simpa [Dialect.blockEnders, x] using hw
  obtain ⟨hdepth, habove⟩ := hn.depth (x := x) rfl
  have hrun (pre : List Token) (hpre : x.StaysAbove x.depth pre) :=
    hfollows.run ht (guarded_of_staysAbove (hpre.mono (by omega)))
  obtain ⟨b, hr, hb, hbx⟩ := hrun ts habove
  refine ⟨b, hr, hb, by rw [hbx.blocks, hdepth, hx], ?_⟩
  rintro pre ⟨post, rfl⟩
  obtain ⟨hpre, hle⟩ := habove.of_append
  obtain ⟨a, hra, ha, hax⟩ := hrun pre hpre
  exact ⟨a, _, hra, ha, hax.blocks, by omega⟩

end Classifier

/-- The tokens of a function, from the first through the semicolon behind its body. The body is one
block; tokens that have no part in blocks may stand before it, and blanks behind it. -/
structure FunctionText (set : Settings) where
  first : Token
  head : List Token
  middle : List Token
  opener : Token
  inner : List Token
  ender : Token
  blanks : List Token
  semicolon : Token
  first_isBlank : first.isBlank = false
  told : toldType set (first :: head) = some .createFunction
  header : IsBody set (first :: head) []
  middle_plain : ∀ t ∈ middle,
    t.kind ≠ .semicolon ∧ t.keyword? ≠ some .end_ ∧ t.opensBlock = false
  opener_begin : opener.keyword? = some .begin
  inner_nested : Nested false inner
  ender_end : ender.keyword? = some .end_
  blanks_blank : ∀ t ∈ blanks, t.isBlank = true
  semicolon_kind : semicolon.kind = .semicolon
  semicolon_stop : semicolon.stop = semicolon.start + 1

namespace FunctionText

variable {set : Settings}

def block (f : FunctionText set) : List Token := f.opener :: f.inner ++ [f.ender]

def rest (f : FunctionText set) : List Token :=
  f.head ++ (f.middle ++ (f.block ++ (f.blanks ++ [f.semicolon])))

/-- The statement that the tokens yield: it ends at the last of them and at none before, whatever
follows. -/
structure Whole (f : FunctionText set) (s : Statement) : Prop where
  start : s.start = f.first.start
  stop : s.stop = f.semicolon.start
  type : s.type = some .createFunction
  terminated : s.terminated = true
  openBlocks : s.openBlocks = some 0
  found (last : Int) (ts : List Token) :
    statementsFrom set last none (f.first :: f.rest ++ ts) =
      (statementsFrom set last none ts).map (s :: ·)
  parsed (script : List Char) (ts : List Token) :
    tokenize set.dialect script = f.first :: f.rest ++ ts →
      parse set script = (statementsFrom set (lastOffset script) none ts).map fun body =>
        ⟨0, lastOffset script, s :: body, f.first :: f.rest ++ ts⟩
  underWay : ∀ us v vs, f.rest = us ++ v :: vs →
    ∃ c, Classifier.behind set f.first us = .ok c ∧ c.statement.terminated = false
  closed : ∃ c, Classifier.behind set f.first (f.head ++ (f.middle ++ f.block)) = .ok c ∧
    c.statement.openBlocks = some 0

theorem block_guarded (f : FunctionText set) : Classifier.Guarded ⟨false, 0⟩ f.block := by
  have hopens : f.opener.opensBlock = true :=
    Token.opensBlock_iff.2 ⟨.begin, List.mem_cons_self, f.opener_begin⟩
  have hstep : Nesting.step ⟨false, 0⟩ f.opener = ⟨false, 1⟩ := Nesting.step_opener hopens
  have hopener := Token.kind_ne_semicolon f.opener_begin
  have hender := Token.kind_ne_semicolon f.ender_end
  obtain ⟨_, habove⟩ := f.inner_nested.depth (x := ⟨false, 1⟩) rfl
  refine ⟨fun hk => absurd hk hopener, ?_⟩
  rw [hstep]
  exact Classifier.guarded_append (Classifier.guarded_of_staysAbove habove)
    ⟨fun hk => absurd hk hender, trivial⟩

theorem foldl_through_block (f : FunctionText set) :
    (f.middle ++ f.block).foldl Nesting.step ⟨false, 0⟩ = ⟨true, 0⟩ := by
  have hopens : f.opener.opensBlock = true :=
    Token.opensBlock_iff.2 ⟨.begin, List.mem_cons_self, f.opener_begin⟩
  obtain ⟨hdepth, habove⟩ := f.inner_nested.depth (x := ⟨false, 1⟩) rfl
  rw [List.foldl_append, Nesting.foldl_plain fun t ht => (f.middle_plain t ht).2]
  exact (Nesting.foldl_block rfl hopens f.ender_end hdepth habove).1

theorem header_run (f : FunctionText set) (hd : set.dialect = .psql) :
    ∃ c, Classifier.behind set f.first f.head = .ok c ∧ c.statement.terminated = false ∧
      c.Follows ⟨false, 0⟩ := by
  have htold := f.told
  rw [toldType] at htold
  cases hc : Classifier.behind set f.first f.head with
  | error e => simp [hc, Except.toOption] at htold
  | ok c =>
    have htype : c.statement.type = some .createFunction := by rwa [hc] at htold
    obtain ⟨b, hopen, hdb, hty, hunder, hr⟩ := f.header.run hc
    obtain rfl := Except.ok.inj hr
    exact ⟨b, rfl, hunder, hopen.follows (hdb.trans hd) htype⟩

theorem block_run (f : FunctionText set) {c : Classifier} (h : c.Follows ⟨false, 0⟩)
    (ht : c.statement.terminated = false) :
    ∃ b, c.feedAll (f.middle ++ f.block) = .ok b ∧ b.statement.terminated = false ∧
      b.Follows ⟨true, 0⟩ ∧ b.statement.canEnd = true := by
  have hguard : Classifier.Guarded ⟨false, 0⟩ (f.middle ++ f.block) := by
    refine Classifier.guarded_append
      (Classifier.guarded_of_none fun t ht => (f.middle_plain t ht).1) ?_
    rw [Nesting.foldl_plain fun t ht => (f.middle_plain t ht).2]
    exact f.block_guarded
  obtain ⟨b, hr, hb, hfollows⟩ := h.run ht hguard
  rw [f.foldl_through_block] at hfollows
  refine ⟨b, hr, hb, hfollows, (h.canEnd_iff hr).2 (.inr ?_)⟩
  refine ⟨f.middle ++ f.opener :: f.inner, f.ender, [], by simp [block], ?_⟩
  have hlast := f.foldl_through_block
  have hsplit : f.middle ++ f.block = (f.middle ++ f.opener :: f.inner) ++ [f.ender] := by
    simp [block]
  rw [hsplit, List.foldl_append, List.foldl_cons, List.foldl_nil] at hlast
  rw [Nesting.allowsEnd, f.ender_end, hlast]
  rfl

theorem tail_run (f : FunctionText set) {c : Classifier} (h : c.Follows ⟨true, 0⟩)
    (ht : c.statement.terminated = false) (hcan : c.statement.canEnd = true) :
    ∃ b, c.feedAll (f.blanks ++ [f.semicolon]) = .ok b ∧ b.statement.terminated = true ∧
      b.Follows ⟨false, 0⟩ := by
  have hguard : Classifier.Guarded ⟨true, 0⟩ f.blanks := by
    refine Classifier.guarded_of_none ?_
    intro t ht hk
    have hb := f.blanks_blank t ht
    simp [Token.isBlank_of_semicolon hk] at hb
  obtain ⟨b, hr, hb, hfollows⟩ := h.run ht hguard
  rw [Nesting.foldl_blanks f.blanks_blank] at hfollows
  obtain ⟨b', hf⟩ := Classifier.feed_of_typed f.semicolon hfollows.type hb
  have ho := Classifier.outcome_of_feed hf
  have hkey := Token.keyword?_of_semicolon f.semicolon_kind
  have hstep : Nesting.step ⟨true, 0⟩ f.semicolon = ⟨false, 0⟩ :=
    Nesting.step_plain (Token.isBlank_of_semicolon f.semicolon_kind) (by simp [hkey])
      (by simp [Token.opensBlock, hkey])
  have hb' := (hfollows.outcome ho).1
  rw [hstep] at hb'
  refine ⟨b', ?_, ?_, hb'⟩
  · exact Classifier.feedAll_append_ok.2 ⟨b, hr, Classifier.feedAll_cons_ok.2 ⟨b', hf, rfl⟩⟩
  · refine ho.terminated_iff.2 ⟨f.semicolon_kind, hfollows.suppresses_eq_false.2 ⟨?_, rfl⟩⟩
    exact (h.canEnd_iff hr).2 (.inl hcan)

theorem exists_whole (f : FunctionText set) (hd : set.dialect = .psql) : ∃ s, f.Whole s := by
  obtain ⟨a, hheader, haUnder, haStart⟩ := f.header_run hd
  obtain ⟨b, hblock, hbUnder, hbFollows, hbCan⟩ := f.block_run haStart haUnder
  obtain ⟨c, htail, hend, hlast⟩ := f.tail_run hbFollows hbUnder hbCan
  have hclosed : Classifier.behind set f.first (f.head ++ (f.middle ++ f.block)) = .ok b :=
    Classifier.behind_append.2 ⟨a, hheader, hblock⟩
  have hrun : Classifier.behind set f.first f.rest = .ok c := by
    have hr := Classifier.behind_append.2 ⟨b, hclosed, htail⟩
    rwa [List.append_assoc, List.append_assoc] at hr
  have hz : (f.rest.getLastD f.first).stop - 1 = f.semicolon.start := by
    have hsemicolon : f.rest.getLastD f.first = f.semicolon := by simp [rest]
    rw [hsemicolon, f.semicolon_stop]
    omega
  have hseal := Statement.seal_of_typed f.semicolon.start hlast.type
  have hfound (last : Int) (ts : List Token) :
      statementsFrom set last none (f.first :: f.rest ++ ts) =
        (statementsFrom set last none ts).map (c.statement.seal f.semicolon.start :: ·) := by
    rw [statementsFrom_ended ts f.first_isBlank hrun hend, hz]
  refine ⟨c.statement.seal f.semicolon.start, ?_⟩
  exact {
    start := by
      rw [Statement.seal_start]
      exact (Classifier.begun_behind f.first_isBlank hrun).start
    stop := Statement.seal_stop _ _
    type := by
      rw [hseal]
      exact hlast.type
    terminated := by rw [Statement.seal_terminated, hend]
    openBlocks := by
      rw [hseal]
      exact hlast.blocks
    found := hfound
    parsed := by
      intro script ts hts
      rw [parse_eq, hts, hfound]
      cases statementsFrom set (lastOffset script) none ts <;> rfl
    underWay := by
      intro us v vs hsplit
      rw [hsplit] at hrun
      exact Classifier.underWay_behind hrun
    closed := ⟨b, hclosed, hbFollows.blocks⟩ }

end FunctionText

/-- Well nested blocks of a function are never split: a body that is one such block belongs to one
statement as a whole, and within open blocks such tokens neither end the statement nor close any of
those blocks. -/
theorem nested_never_split {set : Settings} (hd : set.dialect = .psql) :
    (∀ f : FunctionText set, ∃ s, f.Whole s) ∧
      ∀ (c : Classifier) (d : Int) (ts : List Token), c.InBlocks d → Nested false ts →
        ∃ b, c.feedAll ts = .ok b ∧ b.statement.terminated = false ∧
          b.statement.openBlocks = some d ∧
          ∀ pre, pre <+: ts → ∃ a n, c.feedAll pre = .ok a ∧ a.statement.terminated = false ∧
            a.statement.openBlocks = some n ∧ d ≤ n :=
  ⟨fun f => f.exists_whole hd, fun _ _ _ h hn => h.feedAll_nested hn⟩

/-- A block within a block, with semicolons in both. -/
theorem nested_never_split_if :
    let set : Settings := { dialect := .psql }
    let word (text : String) (i : Int) : Token := ⟨.keyword, text.toList, i, i + text.length⟩
    let gap (i : Int) : Token := ⟨.whitespace, [' '], i, i + 1⟩
    let semicolon (i : Int) : Token := ⟨.semicolon, [';'], i, i + 1⟩
    let inner := [gap 21, word "IF" 22, semicolon 24, gap 25, word "END" 26, gap 29, word "IF" 30,
      semicolon 32, gap 33]
    (∃ f : FunctionText set,
      f.first :: f.rest = tokenize .psql "CREATE FUNCTION BEGIN IF; END IF; END ;".toList ∧
        f.inner = inner ∧ ∃ s, f.Whole s) ∧
      ∃ c : Classifier, c.InBlocks 1 ∧ Nested false inner ∧ ∃ b, c.feedAll inner = .ok b ∧
        b.statement.openBlocks = some 1 := by
  intro set word gap semicolon inner
  have hnested : Nested false inner := by
    refine .blank rfl ?_
    refine @Nested.named (word "IF" 22) (word "END" 26) (word "IF" 30) [semicolon 24, gap 25]
      [gap 29] [semicolon 32, gap 33] (by decide +kernel) ?_ (by decide +kernel)
      (by decide +kernel) (by decide +kernel) ?_
    · exact .plain rfl (by decide +kernel) rfl (.blank rfl .nil)
    · exact .plain rfl (by decide +kernel) rfl (.blank rfl .nil)
  have htokens : [word "CREATE" 0, gap 6, word "FUNCTION" 7, gap 15, word "BEGIN" 16] ++ inner ++
      [word "END" 34, gap 37, semicolon 38] =
        tokenize .psql "CREATE FUNCTION BEGIN IF; END IF; END ;".toList := by decide +kernel
  have hblocks : Classifier.InBlocks { dialect := .psql, strict := true, steps := [], statement :=
      { type := some .createFunction, openBlocks := some 1 } } 1 :=
    ⟨rfl, rfl, rfl, rfl, by decide, by decide⟩
  obtain ⟨hwhole, hfed⟩ := nested_never_split (show set.dialect = .psql from rfl)
  obtain ⟨b, hr, _, hopen, _⟩ := hfed _ 1 inner hblocks hnested
  let f : FunctionText set := {
    first := word "CREATE" 0
    head := [gap 6, word "FUNCTION" 7]
    middle := [gap 15]
    opener := word "BEGIN" 16
    inner := inner
    ender := word "END" 34
    blanks := [gap 37]
    semicolon := semicolon 38
    first_isBlank := rfl
    told := by decide +kernel
    header := ⟨[word "CREATE" 0, gap 6], word "FUNCTION" 7, rfl, by decide +kernel,
      by decide +kernel⟩
    middle_plain := by decide +kernel
    opener_begin := by decide +kernel
    inner_nested := hnested
    ender_end := by decide +kernel
    blanks_blank := by decide +kernel
    semicolon_kind := rfl
    semicolon_stop := rfl }
  exact ⟨⟨f, htokens, rfl, hwhole f⟩, _, hblocks, hnested, b, hr, hopen⟩

end SqlScript
