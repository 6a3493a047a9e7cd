import SqlScript.Proofs.Strictness

/-!
Clauses between `CREATE` and its object. With the blank behind it a clause leaves the classifier in
the state in which that blank alone would have left it, so nothing that follows can tell whether the
clause was there.
-/

set_option autoImplicit false

namespace SqlScript

inductive Clauses (d : Dialect) : List Token → Prop where
  | definer {before afterWord afterSign principal : List Token} {word sign : Token} :
      d = .mysql → (∀ u ∈ before, u.isBlank = true) → word.keyword? = some .definer →
      (∀ u ∈ afterWord, u.isBlank = true) → sign.kind = .other → sign.text = ['='] →
      (∀ u ∈ afterSign, u.isBlank = true) → principal ≠ [] →
      (∀ u ∈ principal, u.isBlank = false ∧ u.kind ≠ .semicolon) →
      Clauses d (before ++ (word :: afterWord ++ sign :: afterSign ++ principal))
  | options {m : List Token} : d = .psql → (∀ u ∈ m, u.isBlank = true ∨
      u.keyword? = some .or ∨ u.keyword? = some .replace) → Clauses d m

namespace ClausePart

variable {state : DefinerState} {ts us : List Token}

theorem append_blanks (h : ClausePart state ts) (hs : state = .sawDefiner ∨ state = .sawEquals)
    (hb : ∀ u ∈ us, u.isBlank = true) : ClausePart state (ts ++ us) := by
  induction us generalizing ts with
  | nil => rwa [List.append_nil]
  | cons u us ih =>
    have hu := hb u List.mem_cons_self
    rw [List.append_cons]
    refine ih ?_ fun v hv => hb v (List.mem_cons_of_mem u hv)
    rcases hs with rfl | rfl
    · exact h.afterDefiner hu
    · exact h.afterEquals hu

theorem append_principal (h : ClausePart .consumingPrincipal ts)
    (hu : ∀ u ∈ us, u.isBlank = false ∧ u.kind ≠ .semicolon) :
    ClausePart .consumingPrincipal (ts ++ us) := by
  induction us generalizing ts with
  | nil => rwa [List.append_nil]
  | cons u us ih =>
    obtain ⟨hb, hk⟩ := hu u List.mem_cons_self
    rw [List.append_cons]
    exact ih (h.more hb hk) fun v hv => hu v (List.mem_cons_of_mem u hv)

end ClausePart

theorem headGap_of_blanks (d : Dialect) {ts : List Token} (h : ∀ u ∈ ts, u.isBlank = true) :
    HeadGap d ts :=
  headGap_of_precede fun u hu =>
    ⟨Token.precedesObject_iff.2 (.inl (h u hu)), Token.kind_ne_semicolon_of_blank (h u hu)⟩

theorem Clauses.headGap {d : Dialect} {m : List Token} {b : Token} (h : Clauses d m)
    (hb : b.isBlank = true) : HeadGap d (m ++ [b]) := by
  cases h with
  | @definer before afterWord afterSign principal word sign hd hbefore hword hafterWord hkind
      hsign hafterSign hne hprincipal =>
    obtain ⟨first, rest, rfl⟩ := List.exists_cons_of_ne_nil hne
    obtain ⟨hfirst, hrest⟩ := List.forall_mem_cons.1 hprincipal
    have hsignBlank : sign.isBlank = false := by
      rw [Token.isBlank, hkind]
      rfl
    have hpart : ClausePart .sawEquals (word :: afterWord ++ sign :: afterSign) := by
      rw [List.append_cons]
      have hword := (ClausePart.definer hword).append_blanks (.inl rfl) hafterWord
      exact (hword.equals hsignBlank (by simp [hkind]) hsign).append_blanks (.inr rfl) hafterSign
    have hclause : ClausePart .consumingPrincipal
        (word :: afterWord ++ sign :: afterSign ++ first :: rest) := by
      rw [List.append_cons]
      exact (hpart.principal hfirst.1 hfirst.2).append_principal hrest
    exact .clause (headGap_of_blanks d hbefore) hd hclause hb
  | options hd hall =>
    refine .blank (headGap_of_precede fun u hu => ?_) hb
    rcases hall u hu with hblank | hoption
    · exact ⟨Token.precedesObject_iff.2 (.inl hblank), Token.kind_ne_semicolon_of_blank hblank⟩
    · refine ⟨Token.precedesObject_iff.2 (.inr (.inr ⟨hd, hoption⟩)), ?_⟩
      rcases hoption with ho | ho <;> exact Token.kind_ne_semicolon ho

namespace Classifier

/-- The statement behind each token, and the reason why the token is refused if it is. Behind a
refused token the next one is fed nevertheless. -/
def trail (c : Classifier) : List Token → List (Statement × Option StatementError)
  | [] => []
  | t :: ts => ((c.feed t).1.statement, (c.feed t).2) :: (c.feed t).1.trail ts

theorem drop_trail {c b : Classifier} {ts : List Token} (us : List Token)
    (h : c.feedAll ts = .ok b) : (c.trail (ts ++ us)).drop ts.length = b.trail us := by
  induction ts generalizing c with
  | nil =>
    obtain rfl := Except.ok.inj h
    rfl
  | cons t ts ih =>
    obtain ⟨a, hf, hr⟩ := feedAll_cons_ok.1 h
    rw [List.cons_append, trail, hf]
    exact ih hr

theorem BehindLeading.feedAll_gap {set : Settings} {t b : Token} {k : Keyword} {c : Classifier}
    {gap : List Token} (h : BehindLeading set t k c) (hg : HeadGap set.dialect (gap ++ [b])) :
    c.feedAll (gap ++ [b]) = .ok (c.afterPass (some b) .inactive) := by
  rw [← h.dialect] at hg
  have hr := h.awaits.feedAll_gap h.definer h.previous hg
  rwa [List.getLastD_concat] at hr

end Classifier

/-- Two beginnings of a statement that nothing behind them tells apart. -/
structure SameBehind (set : Settings) (c : Classifier) (head head' : List Token) : Prop where
  state : ∃ b, c.feedAll head = .ok b ∧ c.feedAll head' = .ok b
  trail : ∀ rest, (c.trail (head ++ rest)).drop head.length =
    (c.trail (head' ++ rest)).drop head'.length
  statements : ∀ last rest, statementsFrom set last none (head ++ rest) =
    statementsFrom set last none (head' ++ rest)

theorem sameBehind_of_feedAll {set : Settings} {t : Token} {us vs : List Token}
    {c b : Classifier} (hb : t.isBlank = false)
    (hc : Classifier.ofFirst set.dialect set.strict t = .ok c)
    (hu : c.feedAll (t :: us) = .ok b) (hv : c.feedAll (t :: vs) = .ok b)
    (hopen : b.statement.terminated = false) : SameBehind set c (t :: us) (t :: vs) where
  state := ⟨b, hu, hv⟩
  trail rest := by rw [Classifier.drop_trail rest hu, Classifier.drop_trail rest hv]
  statements last rest := by
    have run {ts : List Token} (h : c.feedAll (t :: ts) = .ok b) :
        statementsFrom set last none (t :: ts ++ rest) =
          statementsFrom set last (some b) rest := by
      rw [List.cons_append, statementsFrom_first _ hb hc, ← List.cons_append,
        statementsFrom_underWay rest h hopen]
    rw [run hu, run hv]

/-- A clause behind `CREATE` changes nothing of what follows the blank behind it. -/
theorem clauses_transparent {set : Settings} {create b : Token} {m : List Token}
    (hk : create.keyword? = some .create) (hm : Clauses set.dialect m) (hb : b.isBlank = true) :
    ∃ c, Classifier.ofFirst set.dialect set.strict create = .ok c ∧
      SameBehind set c (create :: (m ++ [b])) [create, b] := by
  obtain ⟨a, ha, hlead⟩ := Classifier.exists_behindLeading set hk (.inl rfl)
  obtain ⟨c, hc, hf⟩ := Classifier.behind_nil.1 ha
  have hwith := hlead.feedAll_gap (hm.headGap hb)
  have hnoClause : HeadGap set.dialect ([] ++ [b]) := .blank .nil hb
  have hwithout := hlead.feedAll_gap hnoClause
  refine ⟨c, hc, ?_⟩
  exact sameBehind_of_feedAll (Token.isBlank_of_keyword hk) hc
    (Classifier.feedAll_cons_ok.2 ⟨a, hf, hwith⟩) (Classifier.feedAll_cons_ok.2 ⟨a, hf, hwithout⟩)
    hlead.awaits.underWay

/-- A principal of several tokens, with a blank, a keyword and another sign of equality among its
characters. -/
theorem clauses_transparent_principal :
    let set : Settings := { dialect := .mysql }
    let create : Token := ⟨.keyword, "CREATE".toList, 0, 6⟩
    let principal : List Token := [⟨.string, "'a b'".toList, 18, 23⟩, ⟨.other, ['@'], 23, 24⟩,
      ⟨.keyword, "TABLE".toList, 24, 29⟩, ⟨.other, ['='], 29, 30⟩]
    let word : Token := ⟨.keyword, "definer".toList, 8, 15⟩
    let sign : Token := ⟨.other, ['='], 16, 17⟩
    let m := [⟨.whitespace, "  ".toList, 6, 8⟩] ++
      (word :: [⟨.whitespace, [' '], 15, 16⟩] ++ sign :: [⟨.whitespace, [' '], 17, 18⟩] ++
        principal)
    let b : Token := ⟨.lineComment, "#".toList, 30, 31⟩
    (tokenize .mysql "CREATE  definer = 'a b'@TABLE=#\n FUNCTION f;".toList).take 11 =
        create :: (m ++ [b]) ∧
      create.keyword? = some .create ∧ Clauses .mysql m ∧ b.isBlank = true ∧
      ∃ c, Classifier.ofFirst .mysql set.strict create = .ok c ∧
        SameBehind set c (create :: (m ++ [b])) [create, b] := by
  intro set create principal word sign m b
  have hk : create.keyword? = some .create := by decide +kernel
  have hm : Clauses .mysql m :=
    .definer rfl (by decide) (by decide +kernel) (by decide) rfl rfl (by decide) (by decide)
      (by decide)
  exact ⟨by decide +kernel, hk, hm, rfl, @clauses_transparent set create b m hk hm rfl⟩

end SqlScript
