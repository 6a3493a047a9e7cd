import SqlScript.Proofs.Objects

/-!
The heads that strict mode accepts. It reads a statement as one that creates or drops an object just
if the head names the object, with white space where strict mode looks for it; whether what stands
between belongs there, and is whole, it asks only in part.
-/

set_option autoImplicit false

namespace SqlScript

def StatementType.hasObject : StatementType → Bool
  | .createTable | .createDatabase | .createTrigger | .createFunction | .dropTable
  | .dropDatabase => true
  | .select | .insert | .update | .delete | .truncate | .unknown => false

/-- The tokens of a statement begin with the keyword `k`, name the object `w` and have `us` between
the two. -/
inductive NamesObject (d : Dialect) (k : Keyword) (us : List Token) (w : Keyword) :
    List Token → Prop where
  | named {t x seen : Token} {rest : List Token} : t.keyword? = some k →
      k = .create ∨ k = .drop → LooksAt d t us seen → seen.kind = .whitespace →
      x.keyword? = some w → w ∈ k.objects → NamesObject d k us w (t :: us ++ x :: rest)

/-- Nothing but blanks stands before the object, or options and clauses do where the dialect has
them, and each clause is whole. -/
def WholeClauses (d : Dialect) (k : Keyword) (us : List Token) : Prop :=
  (∀ u ∈ us, u.isBlank = true) ∨ (k = .create ∧ HeadGap d us)

theorem Keyword.hasObject_of_plainType? {k : Keyword} {type : StatementType}
    (h : k.plainType? = some type) : type.hasObject = false := by
  cases k <;> cases h <;> rfl

namespace Classifier

variable {set : Settings} {t : Token} {us : List Token} {a b c : Classifier} {k : Keyword}
  {type : StatementType}

theorem BehindLeading.type_of_object {w : Keyword} {x seen : Token} {rest : List Token}
    (h : BehindLeading set t k a) (hs : set.strict = true) (hk : k = .create ∨ k = .drop)
    (hl : LooksAt set.dialect t us seen) (hwhite : seen.kind = .whitespace)
    (hx : x.keyword? = some w) (hw : w ∈ k.objects) (hr : a.feedAll (us ++ x :: rest) = .ok c) :
    c.statement.type = k.objectTypes.lookup w := by
  obtain ⟨b, hb, hreaches⟩ := h.reachesStep_object hl hx hw
  obtain ⟨b', hb', hr⟩ := feedAll_append_ok.1 hr
  obtain rfl := Except.ok.inj (hb.symm.trans hb')
  obtain ⟨c', hf, hr⟩ := feedAll_cons_ok.1 hr
  have hseen := h.feed_seen hs hk hb hreaches hl
  rw [objectRefusal?_eq_none.2 ⟨hwhite, w, hw, hx⟩] at hseen
  obtain rfl := (Prod.mk.inj (hseen.symm.trans hf)).1
  obtain ⟨type, htype, -⟩ := Keyword.lookup_objectTypes hw
  have htold : (b.afterStep (.object k.objectTypes) .inactive x).statement.type = some type := by
    simp [afterStep, Step.object, Effect.apply, Token.word?_of_keyword hx, htype]
  rw [feedAll_type hr htold, htype]

theorem BehindLeading.exists_namesObject (h : BehindLeading set t k a) (hs : set.strict = true)
    (ht : t.keyword? = some k) (hk : k = .create ∨ k = .drop) (hr : a.feedAll us = .ok c)
    (htype : c.statement.type = some type) :
    ∃ vs w, NamesObject set.dialect k vs w (t :: us) ∧ k.objectTypes.lookup w = some type := by
  obtain ⟨head, x, rest, b, b', rfl, hb, hnone, hb', htold⟩ :=
    exists_told hr h.awaits.type (by simp [htype])
  obtain ⟨b'', hb'', hx⟩ := feedAll_append_ok.1 hb'
  obtain rfl := Except.ok.inj (hb.symm.trans hb'')
  obtain ⟨c', hf, hc'⟩ := feedAll_cons_ok.1 hx
  obtain rfl := Except.ok.inj hc'
  have hreaches := reachesStep_of_told hf hnone htold
  obtain ⟨seen, hl⟩ := h.exists_looksAt hb hreaches
  have hseen := h.feed_seen hs hk hb hreaches hl
  cases he : objectRefusal? k seen x with
  | some e =>
    rw [he] at hseen
    have hrefused := (Prod.mk.inj (hf.symm.trans hseen)).2
    contradiction
  | none =>
    obtain ⟨hwhite, w, hw, hxw⟩ := objectRefusal?_eq_none.1 he
    refine ⟨head, w, .named ht hk hl hwhite hxw hw, ?_⟩
    rw [← h.type_of_object hs hk hl hwhite hxw hw hr, htype]

/-- In strict mode a statement is told the type of an object just if its head names the object. -/
theorem type_eq_object_iff (hs : set.strict = true) (hc : behind set t us = .ok c)
    (hobject : type.hasObject = true) :
    c.statement.type = some type ↔ ∃ k vs w, NamesObject set.dialect k vs w (t :: us) ∧
      k.objectTypes.lookup w = some type := by
  obtain ⟨first, hfirst, hr⟩ := behind_eq_ok.1 hc
  constructor
  · intro htype
    obtain ⟨k, o, ht, ho⟩ := exists_opening hs hc
    rcases plain_or_leading ho with ⟨plain, hplain⟩ | hk
    · obtain ⟨c', hc', hty⟩ := exists_behindPlain set ht hplain
      obtain rfl := Except.ok.inj (hfirst.symm.trans hc')
      obtain rfl := Option.some.inj ((feedAll_type hr hty).symm.trans htype)
      simp [Keyword.hasObject_of_plainType? hplain] at hobject
    · obtain ⟨a, ha, hlead⟩ := exists_behindLeading set ht hk
      obtain rfl := Except.ok.inj (hfirst.symm.trans ha)
      exact ⟨k, hlead.exists_namesObject hs ht hk hr htype⟩
  · rintro ⟨k, vs, w, hnames, hlookup⟩
    generalize hts : t :: us = ts at hnames
    obtain ⟨ht, hk, hl, hwhite, hx, hw⟩ := hnames
    obtain ⟨rfl, rfl⟩ := List.cons.inj hts
    obtain ⟨a, ha, hlead⟩ := exists_behindLeading set ht hk
    obtain rfl := Except.ok.inj (hfirst.symm.trans ha)
    rw [hlead.type_of_object hs hk hl hwhite hx hw hr, hlookup]

end Classifier

/-- What strict mode lets stand before an object although it does not belong there: anything that is
not blank behind `DROP`, and a clause that is given up. -/
inductive LaxGap (d : Dialect) (k : Keyword) (us : List Token) : Prop where
  | behindDrop {u : Token} : k = .drop → u ∈ us → u.isBlank = false → LaxGap d k us
  | givenUp {gap clause : List Token} : GivesUp d us gap clause → LaxGap d k us

theorem GivesUp.exists_solid {d : Dialect} {us gap clause : List Token}
    (h : GivesUp d us gap clause) : ∃ u ∈ us, u.isBlank = false := by
  have solid {state : DefinerState} {part : List Token} (hp : ClausePart state part) :
      ∃ u ∈ part, u.isBlank = false := by
    induction hp with
    | definer ht => exact ⟨_, List.mem_singleton_self _, Token.isBlank_of_keyword ht⟩
    | _ =>
      rename_i ih
      obtain ⟨u, hu, hb⟩ := ih
      exact ⟨u, List.mem_append_left _ hu, hb⟩
  obtain ⟨u, hu, hb⟩ := solid h.clause
  exact ⟨u, by simp [h.split, hu], hb⟩

theorem NamesObject.wholeClauses_iff {d : Dialect} {k w : Keyword} {us ts : List Token}
    (h : NamesObject d k us w ts) : WholeClauses d k us ↔ ¬ LaxGap d k us := by
  obtain ⟨ht, hk, hl, -, -, -⟩ := h
  obtain ⟨c, -, hlead⟩ := Classifier.exists_behindLeading { dialect := d } ht hk
  constructor
  · rintro hwhole (⟨rfl, hu, hb⟩ | hg)
    · rcases hwhole with hblank | ⟨hcreate, -⟩
      · simp [hblank _ hu] at hb
      · contradiction
    · rcases hwhole with hblank | ⟨-, hgap⟩
      · obtain ⟨u, hu, hb⟩ := hg.exists_solid
        simp [hblank u hu] at hb
      · exact hlead.not_headGap hg hgap
  · intro hstrict
    cases hl with
    | beforeClause hg => exact absurd (.givenUp hg) hstrict
    | neighbour hgap =>
      rcases hk with rfl | rfl
      · exact .inr ⟨rfl, hgap⟩
      · refine .inl fun u hu => ?_
        cases hb : u.isBlank with
        | true => rfl
        | false => exact absurd (.behindDrop rfl hu hb) hstrict

/-- How the statements that create or drop an object read in strict mode, and which of them have
clauses that do not belong there or are not whole. -/
theorem type_iff_namesObject {set : Settings} {script : List Char} {p : Parsed}
    (hs : set.strict = true) (h : parse set script = .ok p) : ∀ s ∈ p.body,
      (∀ type, type.hasObject = true → (s.type = some type ↔ ∃ k us w,
        NamesObject set.dialect k us w (p.tokens.filter s.holds) ∧
          k.objectTypes.lookup w = some type)) ∧
      ∀ k us w, NamesObject set.dialect k us w (p.tokens.filter s.holds) →
        (WholeClauses set.dialect k us ↔ ¬ LaxGap set.dialect k us) := by
  intro s hmem
  obtain ⟨t, us, htokens, hread⟩ := (laid_of_parse h).held s hmem
  obtain ⟨c, stop, hc, rfl⟩ := hread.read
  refine ⟨fun type hobject => ?_, fun k us w hnames => hnames.wholeClauses_iff⟩
  rw [htokens, ← Classifier.type_eq_object_iff hs hc hobject]
  cases hty : c.statement.type with
  | some told => rw [Statement.seal_of_typed stop hty, hty]
  | none =>
    have hunknown : type ≠ .unknown := by
      rintro rfl
      contradiction
    simp [Statement.seal, hty, Ne.symm hunknown]

theorem type_iff_namesObject_definer :
    let set : Settings := { dialect := .mysql }
    let script := "CREATE DEFINER = 'a'@b TABLE t; DROP definer\n DATABASE d".toList
    ∃ p, parse set script = .ok p ∧
      p.body.map (·.type) = [some .createTable, some .dropDatabase] ∧ ∀ s ∈ p.body,
        (∀ type, type.hasObject = true → (s.type = some type ↔ ∃ k us w,
          NamesObject set.dialect k us w (p.tokens.filter s.holds) ∧
            k.objectTypes.lookup w = some type)) ∧
        ∀ k us w, NamesObject set.dialect k us w (p.tokens.filter s.holds) →
          (WholeClauses set.dialect k us ↔ ¬ LaxGap set.dialect k us) := by
  intro set script
  have h : (parse set script).toOption.map (fun p => p.body.map (·.type)) =
      some [some .createTable, some .dropDatabase] := by decide +kernel
  obtain ⟨p, hp, hbody⟩ := Option.map_eq_some_iff.1 h
  have hp := ok_of_toOption hp
  exact ⟨p, hp, hbody, type_iff_namesObject rfl hp⟩

/-- Clauses do stand where the dialect has none, and `DROP OR TABLE t` is read as `DROP TABLE t`. -/
theorem strict_passes_over_or :
    ¬ ∀ (set : Settings) (script : List Char) (p : Parsed), set.strict = true →
      parse set script = .ok p → ∀ s ∈ p.body, ∀ type, type.hasObject = true →
      s.type = some type → ∃ k us w t x rest,
        p.tokens.filter s.holds = t :: us ++ x :: rest ∧ t.keyword? = some k ∧
          x.keyword? = some w ∧ w ∈ k.objects ∧ WholeClauses set.dialect k us := by
  intro hall
  have h : (parse { dialect := .psql } "DROP OR TABLE t".toList).toOption.map (fun p =>
      p.body.map fun s => (s.type, (p.tokens.filter s.holds).map (·.keyword?))) =
      some [(some .dropTable,
        [some .drop, none, some .or, none, some .table, none, none])] := by decide +kernel
  obtain ⟨p, hp, hbody⟩ := Option.map_eq_some_iff.1 h
  obtain ⟨s, hs, hread⟩ := List.map_eq_singleton_iff.1 hbody
  obtain ⟨htype, hwords⟩ := Prod.mk.inj hread
  have hmem : s ∈ p.body := by simp [hs]
  obtain ⟨k, us, w, t, x, rest, hts, ht, hx, hw, hwhole⟩ :=
    hall _ _ p rfl (ok_of_toOption hp) s hmem _ rfl htype
  rw [hts, List.cons_append, List.map_cons, List.map_append, List.map_cons] at hwords
  obtain ⟨hdrop, hwords⟩ := List.cons.inj hwords
  obtain rfl := Option.some.inj (ht.symm.trans hdrop)
  have hblank : ∀ u ∈ us, u.keyword? = none := fun u hu =>
    Token.keyword?_of_blank (hwhole.resolve_right (by simp) u hu)
  -- the object would have to stand before `OR`, be it, or have it among the blanks before
  match us, hblank, hwords with
  | [], _, hwords => simp [hx] at hwords
  | [u], _, hwords =>
    have hor := (List.cons.inj (List.cons.inj hwords).2).1
    obtain rfl := Option.some.inj (hx.symm.trans hor)
    contradiction
  | u :: v :: us, hblank, hwords =>
    have hor := (List.cons.inj (List.cons.inj hwords).2).1
    simp [hblank v (by simp)] at hor

end SqlScript
