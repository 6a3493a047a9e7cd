import SqlScript.Proofs.Exclusion

/-!
Quoted texts. A content that is written as its quoting style asks is scanned as one string token,
no more and no less, wherever it stands; and each string token is such a text, unless it is never
closed and runs to the end of the script.
-/

set_option autoImplicit false

namespace SqlScript

/-- How a content is written between the two marks of a style. -/
inductive Quoting.Writes (q : Quoting) : List Char → List Char → Prop where
  | nil : Writes q [] []
  | plain {a : Char} {c w : List Char} : a ≠ q.closing → (q.backslash = true → a ≠ '\\') →
      Writes q c w → Writes q (a :: c) (a :: w)
  | doubled {c w : List Char} : q.doubles = true → Writes q c w →
      Writes q (q.closing :: c) (q.closing :: q.closing :: w)
  | escaped {a : Char} {c w : List Char} : q.backslash = true → Writes q c w →
      Writes q (a :: c) ('\\' :: a :: w)

namespace Quoting

variable {q : Quoting} {c w r : List Char}

theorem bodyLength_cons (a : Char) {r : List Char} (hr : r ≠ []) :
    q.bodyLength (a :: r) =
      if q.backslash && a == '\\' then 2 + q.bodyLength r.tail
      else if a == q.closing then
        if q.doubles && r.head? == some q.closing then 2 + q.bodyLength r.tail else 1
      else 1 + q.bodyLength r := by
  obtain ⟨d, r, rfl⟩ := List.exists_cons_of_ne_nil hr
  rw [bodyLength]
  simp

theorem bodyLength_closing (hq : q.backslash = true → q.closing ≠ '\\')
    (hr : q.doubles = true → r.head? ≠ some q.closing) : q.bodyLength (q.closing :: r) = 1 := by
  cases r with
  | nil => rfl
  | cons d r =>
    have hb : ¬ (q.backslash && q.closing == '\\') = true := by simpa using hq
    have hd : ¬ (q.doubles && d == q.closing) = true := by simpa using hr
    rw [bodyLength, if_neg hb, if_pos (beq_self_eq_true _), if_neg hd]

/-- A written content is read up to its closing mark. -/
theorem Writes.bodyLength (h : q.Writes c w) (hq : q.backslash = true → q.closing ≠ '\\')
    (hr : q.doubles = true → r.head? ≠ some q.closing) :
    q.bodyLength (w ++ q.closing :: r) = w.length + 1 := by
  induction h with
  | nil => exact bodyLength_closing hq hr
  | @plain a c w ha hb _ ih =>
    have hback : ¬ (q.backslash && a == '\\') = true := by simpa using hb
    rw [List.cons_append, bodyLength_cons a (by simp), if_neg hback, if_neg (by simpa using ha), ih,
      List.length_cons]
    omega
  | @doubled c w hd _ ih =>
    have hback : ¬ (q.backslash && q.closing == '\\') = true := by simpa using hq
    rw [List.cons_append, List.cons_append, bodyLength_cons _ (by simp), if_neg hback,
      if_pos (beq_self_eq_true _), if_pos (by simp [hd]), List.tail_cons, ih]
    simp only [List.length_cons]
    omega
  | @escaped a c w hb _ ih =>
    rw [List.cons_append, List.cons_append, bodyLength_cons _ (by simp), if_pos (by simp [hb]),
      List.tail_cons, ih]
    simp only [List.length_cons]
    omega

theorem writes_of_bodyLength {s : List Char} (h : q.bodyLength s < s.length) :
    ∃ c w r, s = w ++ q.closing :: r ∧ q.Writes c w ∧ q.bodyLength s = w.length + 1 ∧
      (q.doubles = true → r.head? ≠ some q.closing) := by
  fun_induction q.bodyLength s with
  | case1 => simp at h
  | case2 a => simp at h
  | case3 a d r hback ih =>
    simp only [Bool.and_eq_true, beq_iff_eq] at hback
    obtain ⟨hb, rfl⟩ := hback
    obtain ⟨c, w, r, rfl, hw, hlen, hr⟩ := ih (by simp only [List.length_cons] at h; omega)
    refine ⟨d :: c, '\\' :: d :: w, r, rfl, .escaped hb hw, ?_, hr⟩
    simp only [List.length_cons]
    omega
  | case4 a d r _ ha hd ih =>
    simp only [Bool.and_eq_true, beq_iff_eq] at ha hd
    obtain ⟨hd, rfl⟩ := hd
    subst ha
    obtain ⟨c, w, r, rfl, hw, hlen, hr⟩ := ih (by simp only [List.length_cons] at h; omega)
    refine ⟨q.closing :: c, q.closing :: q.closing :: w, r, rfl, .doubled hd hw, ?_, hr⟩
    simp only [List.length_cons]
    omega
  | case5 a d r _ ha hd =>
    obtain rfl := beq_iff_eq.1 ha
    exact ⟨[], [], d :: r, rfl, .nil, rfl, by simpa using hd⟩
  | case6 a d r hback ha ih =>
    obtain ⟨c, w, r', hs, hw, hlen, hr⟩ := ih (by simp only [List.length_cons] at h ⊢; omega)
    refine ⟨a :: c, a :: w, r', by rw [hs]; rfl,
      .plain (by simpa using ha) (by simpa using hback) hw, ?_, hr⟩
    rw [hlen, List.length_cons]
    omega

end Quoting

def doubling (q : Char) (c : List Char) : List Char :=
  c.flatMap fun a => if a = q then [q, q] else [a]

theorem writes_doubling (o q : Char) (c : List Char) :
    Quoting.Writes ⟨o, q, true, false⟩ c (doubling q c) := by
  induction c with
  | nil => exact .nil
  | cons a c ih =>
    by_cases ha : a = q
    · subst ha
      simpa [doubling] using Quoting.Writes.doubled (q := ⟨o, a, true, false⟩) rfl ih
    · have h : Quoting.Writes ⟨o, q, true, false⟩ (a :: c) (a :: doubling q c) :=
        .plain ha (by simp) ih
      simpa [doubling, ha] using h

theorem eq_doubling_of_writes {o q : Char} {c w : List Char}
    (h : Quoting.Writes ⟨o, q, true, false⟩ c w) : w = doubling q c := by
  induction h with
  | nil => rfl
  | plain ha _ _ ih => simp_all [doubling]
  | doubled _ _ ih => simp [doubling, ih]
  | escaped hb => contradiction

theorem writes_bare {o q : Char} {c w : List Char} :
    Quoting.Writes ⟨o, q, false, false⟩ c w ↔ w = c ∧ q ∉ c := by
  constructor
  · intro h
    induction h with
    | nil => simp
    | plain ha _ _ ih =>
      obtain ⟨rfl, hc⟩ := ih
      exact ⟨rfl, by simpa [hc] using Ne.symm ha⟩
    | doubled hd => contradiction
    | escaped hb => contradiction
  · rintro ⟨rfl, hq⟩
    induction w with
    | nil => exact .nil
    | cons a c ih =>
      obtain ⟨ha, hc⟩ := not_or.1 (mt List.mem_cons.2 hq)
      exact .plain (fun h => ha h.symm) (by simp) (ih hc)

def IsTagName (name : List Char) : Prop :=
  (∀ a ∈ name, a.isAlphanum = true ∨ a = '_') ∧ ∀ a, name.head? = some a → a.isDigit = false

def dollarMark (name : List Char) : List Char := '$' :: name ++ ['$']

theorem dollarMark_ne_nil (name : List Char) : dollarMark name ≠ [] := List.cons_ne_nil _ _

theorem dollarTag?_dollarMark {name : List Char} (h : IsTagName name) (r : List Char) :
    dollarTag? (dollarMark name ++ r) = some (dollarMark name) := by
  obtain ⟨hall, hhead⟩ := h
  have hname : ∀ a ∈ name, isTagChar a = true := by simpa [isTagChar] using hall
  have hdollar : isTagChar '$' = false := by decide
  have htake : (name ++ '$' :: r).takeWhile isTagChar = name := by
    rw [List.takeWhile_append_of_pos hname, List.takeWhile_cons_of_neg (by simp [hdollar]),
      List.append_nil]
  have hdrop : (name ++ '$' :: r).dropWhile isTagChar = '$' :: r := by
    rw [List.dropWhile_append_of_pos hname, List.dropWhile_cons_of_neg (by simp [hdollar])]
  simp only [dollarMark, List.cons_append, List.append_assoc, List.nil_append, dollarTag?, htake,
    hdrop]
  cases name with
  | nil => rfl
  | cons a name => simp [hhead a rfl]

theorem isTagName_of_dollarTag? {s tag : List Char} (h : dollarTag? s = some tag) :
    ∃ name, tag = dollarMark name ∧ IsTagName name := by
  unfold dollarTag? at h
  split at h
  · rename_i r
    dsimp only at h
    have hall : ∀ a ∈ r.takeWhile isTagChar, a.isAlphanum = true ∨ a = '_' := by
      intro a ha
      simpa [isTagChar] using List.all_eq_true.1 List.all_takeWhile a ha
    split at h
    · rename_i hn _
      obtain rfl := Option.some.inj h
      exact ⟨[], rfl, by simp [IsTagName]⟩
    · rename_i a _ hn _
      split at h
      · contradiction
      · rename_i hd
        obtain rfl := Option.some.inj h
        refine ⟨_, rfl, hall, ?_⟩
        intro a' ha'
        rw [hn] at ha'
        obtain rfl := Option.some.inj ha'
        exact Bool.eq_false_iff.2 hd
    · contradiction
  · contradiction

def ClosesFirst (mark c : List Char) : Prop := ∀ i < c.length, ¬ mark <+: (c ++ mark).drop i

theorem closesFirst_cons {mark c : List Char} {a : Char} :
    ClosesFirst mark (a :: c) ↔ ¬ mark <+: a :: c ++ mark ∧ ClosesFirst mark c := by
  constructor
  · intro h
    exact ⟨h 0 (by simp), fun i hi => h (i + 1) (by simpa using hi)⟩
  · rintro ⟨h0, h⟩ i hi
    cases i with
    | zero => exact h0
    | succ i => exact h i (by simpa using hi)

theorem lengthThrough_closing {mark c : List Char} (hm : mark ≠ []) (h : ClosesFirst mark c)
    (r : List Char) : lengthThrough mark (c ++ mark ++ r) = c.length + mark.length := by
  induction c with
  | nil =>
    obtain ⟨m, ms, rfl⟩ := List.exists_cons_of_ne_nil hm
    have hp : (m :: ms).isPrefixOf (m :: (ms ++ r)) = true := by simp [List.isPrefixOf_iff_prefix]
    simp [lengthThrough, hp]
  | cons a c ih =>
    obtain ⟨h0, h⟩ := closesFirst_cons.1 h
    have hn : ¬ mark.isPrefixOf (a :: (c ++ mark ++ r)) = true := by
      rw [List.isPrefixOf_iff_prefix]
      intro hp
      refine h0 (List.prefix_of_prefix_length_le hp ⟨r, by simp⟩ ?_)
      simp
      omega
    rw [List.cons_append, List.cons_append, lengthThrough, if_neg hn, ih h, List.length_cons]
    omega

theorem closing_of_lengthThrough {mark s : List Char} (h : lengthThrough mark s < s.length) :
    ∃ c r, s = c ++ mark ++ r ∧ ClosesFirst mark c ∧
      lengthThrough mark s = c.length + mark.length := by
  induction s with
  | nil => simp at h
  | cons a s ih =>
    rw [lengthThrough] at h ⊢
    split
    · rename_i hp
      obtain ⟨r, hr⟩ := List.isPrefixOf_iff_prefix.1 hp
      exact ⟨[], r, hr.symm, by simp [ClosesFirst], by simp⟩
    · rename_i hp
      rw [if_neg hp, List.length_cons] at h
      obtain ⟨c, r, rfl, hc, hlen⟩ := ih (by omega)
      refine ⟨a :: c, r, rfl, closesFirst_cons.2 ⟨?_, hc⟩, by rw [hlen, List.length_cons]; omega⟩
      intro h0
      exact hp (List.isPrefixOf_iff_prefix.2 (h0.trans ⟨r, by simp⟩))

/-- The written forms of a content in a dialect, each with a text that may follow it. -/
inductive Literal : Dialect → List Char → List Char → List Char → Prop where
  | quoted {d : Dialect} {q : Char} {c r : List Char} : d ≠ .mysql → q = '\'' ∨ q = '"' →
      r.head? ≠ some q → Literal d c (q :: doubling q c ++ [q]) r
  | escaped {q : Char} {c w r : List Char} : q = '\'' ∨ q = '"' →
      Quoting.Writes ⟨q, q, true, true⟩ c w → r.head? ≠ some q →
      Literal .mysql c (q :: w ++ [q]) r
  | backticked {d : Dialect} {c r : List Char} : d = .mysql ∨ d = .sqlite →
      r.head? ≠ some '\x60' → Literal d c ('\x60' :: doubling '\x60' c ++ ['\x60']) r
  | bracketed {c r : List Char} : r.head? ≠ some ']' →
      Literal .mssql c ('[' :: doubling ']' c ++ [']']) r
  | bare {c r : List Char} : ']' ∉ c → Literal .sqlite c ('[' :: c ++ [']']) r
  | dollarQuoted {name c r : List Char} : IsTagName name →
      ClosesFirst (dollarMark name) c →
      Literal .psql c (dollarMark name ++ c ++ dollarMark name) r

theorem Dialect.quoted_mem_iff {d : Dialect} {q : Quoting} :
    .quoted q ∈ d.quotations ↔
      (d ≠ .mysql ∧ (q = ⟨'\'', '\'', true, false⟩ ∨ q = ⟨'"', '"', true, false⟩)) ∨
      (d = .mysql ∧ (q = ⟨'\'', '\'', true, true⟩ ∨ q = ⟨'"', '"', true, true⟩)) ∨
      ((d = .mysql ∨ d = .sqlite) ∧ q = ⟨'\x60', '\x60', true, false⟩) ∨
      (d = .mssql ∧ q = ⟨'[', ']', true, false⟩) ∨
      (d = .sqlite ∧ q = ⟨'[', ']', false, false⟩) := by
  cases d <;> simp [quotations, doubled, backslashed, or_assoc]

theorem Literal.style {d : Dialect} {c w r : List Char} (h : Literal d c w r) :
    (∃ q v, .quoted q ∈ d.quotations ∧ w = q.opening :: v ++ [q.closing] ∧ q.Writes c v ∧
      (q.doubles = true → r.head? ≠ some q.closing)) ∨
    (d = .psql ∧ ∃ name, IsTagName name ∧ ClosesFirst (dollarMark name) c ∧
      w = dollarMark name ++ c ++ dollarMark name) := by
  cases h with
  | @quoted _ q _ _ hd hq hr =>
    refine .inl ⟨⟨q, q, true, false⟩, _, ?_, rfl, writes_doubling q q c, fun _ => hr⟩
    rcases hq with rfl | rfl <;> simp [Dialect.quoted_mem_iff, hd]
  | @escaped q _ v _ hq hv hr =>
    refine .inl ⟨⟨q, q, true, true⟩, v, ?_, rfl, hv, fun _ => hr⟩
    rcases hq with rfl | rfl <;> simp [Dialect.quoted_mem_iff]
  | backticked hd hr =>
    exact .inl ⟨⟨'\x60', '\x60', true, false⟩, _, by simp [Dialect.quoted_mem_iff, hd], rfl,
      writes_doubling _ _ c, fun _ => hr⟩
  | bracketed hr =>
    exact .inl ⟨⟨'[', ']', true, false⟩, _, by simp [Dialect.quoted_mem_iff], rfl,
      writes_doubling _ _ c, fun _ => hr⟩
  | bare hc =>
    exact .inl ⟨⟨'[', ']', false, false⟩, c, by simp [Dialect.quoted_mem_iff], rfl,
      writes_bare.2 ⟨rfl, hc⟩, by simp⟩
  | dollarQuoted hname hc => exact .inr ⟨rfl, _, hname, hc, rfl⟩

theorem literal_of_writes {d : Dialect} {q : Quoting} {c v r : List Char}
    (hq : .quoted q ∈ d.quotations) (hv : q.Writes c v)
    (hr : q.doubles = true → r.head? ≠ some q.closing) :
    Literal d c (q.opening :: v ++ [q.closing]) r := by
  rcases Dialect.quoted_mem_iff.1 hq with
    ⟨hd, rfl | rfl⟩ | ⟨rfl, rfl | rfl⟩ | ⟨hd, rfl⟩ | ⟨rfl, rfl⟩ | ⟨rfl, rfl⟩
  · exact eq_doubling_of_writes hv ▸ .quoted hd (.inl rfl) (hr rfl)
  · exact eq_doubling_of_writes hv ▸ .quoted hd (.inr rfl) (hr rfl)
  · exact .escaped (.inl rfl) hv (hr rfl)
  · exact .escaped (.inr rfl) hv (hr rfl)
  · exact eq_doubling_of_writes hv ▸ .backticked hd (hr rfl)
  · exact eq_doubling_of_writes hv ▸ .bracketed (hr rfl)
  · obtain ⟨rfl, hc⟩ := writes_bare.1 hv
    exact .bare hc

/-- A quotation is the only form that begins with the mark that opens it. -/
theorem lexeme_quoted {d : Dialect} {q : Quoting} (hq : .quoted q ∈ d.quotations)
    (r : List Char) : lexeme d.patterns (q.opening :: r) = (.string, 1 + q.bodyLength r) := by
  have hform : .quoted q ∈ d.properForms := by simp [d.properForms_eq, hq]
  have hext : (Pattern.quoted q).extent (q.opening :: r) = 1 + q.bodyLength r := by
    rw [Pattern.extent, if_pos (beq_self_eq_true _)]
  rw [lexeme_of_extent hform (by omega), hext]
  rfl

theorem lexeme_dollarQuoted {s tag : List Char} (h : dollarTag? s = some tag) :
    lexeme Dialect.psql.patterns s =
      (.string, tag.length + lengthThrough tag (s.drop tag.length)) := by
  have hform : .dollarQuoted ∈ Dialect.psql.properForms := by decide
  have hext : Pattern.dollarQuoted.extent s =
      tag.length + lengthThrough tag (s.drop tag.length) := by
    rw [Pattern.extent, h]
  obtain ⟨name, rfl, _⟩ := isTagName_of_dollarTag? h
  have hpos := List.length_pos_iff.2 (dollarMark_ne_nil name)
  rw [lexeme_of_extent hform (by omega), hext]
  rfl

theorem Literal.lexeme {d : Dialect} {c w r : List Char} (h : Literal d c w r) :
    SqlScript.lexeme d.patterns (w ++ r) = (.string, w.length) := by
  rcases h.style with ⟨q, v, hq, rfl, hv, hr⟩ | ⟨rfl, name, hname, hc, rfl⟩
  · have hback : q.backslash = true → q.closing ≠ '\\' := by
      rcases Dialect.quoted_mem_iff.1 hq with
        ⟨_, rfl | rfl⟩ | ⟨_, rfl | rfl⟩ | ⟨_, rfl⟩ | ⟨_, rfl⟩ | ⟨_, rfl⟩ <;> simp
    rw [List.cons_append, List.cons_append, List.append_assoc, List.singleton_append,
      lexeme_quoted hq, hv.bodyLength hback hr]
    simp only [List.length_cons, List.length_append, List.length_nil]
    congr 1
    omega
  · have htag := dollarTag?_dollarMark hname (c ++ dollarMark name ++ r)
    have hlen := lengthThrough_closing (dollarMark_ne_nil name) hc r
    rw [List.append_assoc, List.append_assoc, ← List.append_assoc c, lexeme_dollarQuoted htag,
      List.drop_left, hlen]
    simp only [List.length_append]
    congr 1
    omega

/-- A string token is a literal, or it takes all of the text. -/
theorem literal_of_lexeme {d : Dialect} {s : List Char} (hk : (lexeme d.patterns s).1 = .string) :
    (lexeme d.patterns s).2 = s.length ∨
      ∃ c w r, s = w ++ r ∧ w.length = (lexeme d.patterns s).2 ∧ Literal d c w r := by
  obtain ⟨p, hp, hkind, hpos, hlen⟩ := exists_form_of_kind hk (by simp)
  rw [hlen]
  cases p with
  | quoted q =>
    have hq : .quoted q ∈ d.quotations := by
      cases d <;> simpa [Dialect.patterns, Dialect.lineComments] using hp
    cases s with
    | nil => simp [Pattern.extent] at hpos
    | cons a s =>
      rw [Pattern.extent] at hpos ⊢
      split at hpos
      · rename_i ha
        rw [if_pos ha, beq_iff_eq.1 ha]
        by_cases hend : q.bodyLength s = s.length
        · exact .inl (by rw [hend, List.length_cons]; omega)
        · have hle := q.bodyLength_le s
          obtain ⟨c, v, r, rfl, hv, hlen, hr⟩ := Quoting.writes_of_bodyLength (q := q) (s := s)
            (by omega)
          refine .inr ⟨c, _, r, ?_, ?_, literal_of_writes hq hv hr⟩
          · simp
          · rw [hlen]
            simp
            omega
      · omega
  | dollarQuoted =>
    have hd : d = .psql := by
      cases d <;> first | rfl | simp [Dialect.patterns, Dialect.lineComments, Dialect.quotations,
        Dialect.doubled, Dialect.backslashed] at hp
    subst hd
    rw [Pattern.extent] at hpos ⊢
    split at hpos
    · rename_i tag htag
      obtain ⟨name, rfl, hname⟩ := isTagName_of_dollarTag? htag
      obtain ⟨s, rfl⟩ := isPrefix_dollarTag? htag
      rw [List.drop_left]
      by_cases hend : lengthThrough (dollarMark name) s = s.length
      · exact .inl (by rw [hend, List.length_append])
      · have hle := lengthThrough_le (dollarMark name) s
        have hlt : lengthThrough (dollarMark name) s < s.length := by omega
        obtain ⟨c, r, rfl, hc, hlen⟩ := closing_of_lengthThrough hlt
        refine .inr ⟨c, _, r, ?_, ?_, .dollarQuoted hname hc⟩
        · simp
        · rw [hlen]
          simp
    · omega
  | _ => simp [Pattern.kind] at hkind

theorem tokenAt_front (d : Dialect) (before : List Char) {s : List Char} (hs : s ≠ []) :
    tokenAt d (before ++ s) before.length = .ok (frontToken d.patterns before.length s) := by
  have hlen := List.length_pos_iff.2 hs
  have hin : ¬ ((before.length : Int) < 0 ∨ ((before ++ s).length : Int) ≤ before.length) := by
    rw [List.length_append]
    omega
  rw [tokenAt, if_neg hin, Int.toNat_natCast, List.drop_left]

/-- Quoting and scanning are inverse to each other. -/
structure ScansLiterals (d : Dialect) : Prop where
  scanned (before : List Char) {c w r : List Char} : Literal d c w r →
    tokenAt d (before ++ (w ++ r)) before.length =
      .ok ⟨.string, w, before.length, before.length + w.length⟩
  closed {script : List Char} : ∀ t ∈ tokenize d script, t.kind = .string →
    t.stop = script.length ∨ ∃ c, Literal d c t.text (script.drop t.stop.toNat)

theorem scansLiterals (d : Dialect) : ScansLiterals d := by
  constructor
  · intro before c w r h
    have hlex := h.lexeme
    have hpos := lexeme_pos d.patterns (w ++ r)
    rw [hlex] at hpos
    have hne : w ++ r ≠ [] := List.append_ne_nil_of_left_ne_nil (List.length_pos_iff.1 hpos) r
    rw [tokenAt_front d before hne, frontToken, hlex]
    simp
  · intro script t ht hk
    obtain ⟨k, hk', rfl⟩ := mem_tokensFrom ht
    rw [Nat.zero_add] at hk ⊢
    have hstop : (frontToken d.patterns k (script.drop k)).stop =
        ((k + (lexeme d.patterns (script.drop k)).2 : Nat) : Int) := by
      simp [frontToken]
    rw [hstop]
    rcases literal_of_lexeme hk with hend | ⟨c, w, r, hs, hlen, hlit⟩
    · left
      rw [hend, List.length_drop]
      omega
    · right
      have htext : (frontToken d.patterns k (script.drop k)).text = w := by
        change (script.drop k).take (lexeme d.patterns (script.drop k)).2 = w
        rw [← hlen, hs, List.take_left]
      have hrest : script.drop (k + w.length) = r := by
        rw [← List.drop_drop, hs, List.drop_left]
      rw [htext, Int.toNat_natCast, ← hlen, hrest]
      exact ⟨c, hlit⟩

theorem scansLiterals_escaped :
    let literal := "''';\\\\'".toList
    let script := "SELECT ".toList ++ (literal ++ " x".toList)
    Literal .mysql "';\\".toList literal " x".toList ∧
      tokenAt .mysql script 7 = .ok ⟨.string, literal, 7, 14⟩ ∧
      ∃ t ∈ tokenize .mysql script, t.kind = .string ∧
        (t.stop = script.length ∨ ∃ c, Literal .mysql c t.text (script.drop t.stop.toNat)) := by
  intro literal script
  have hliteral : Literal .mysql "';\\".toList literal " x".toList := by
    refine @Literal.escaped '\'' _ "'';\\\\".toList _ (.inl rfl) ?_ (by decide)
    exact .doubled rfl (.plain (by decide) (by decide) (.escaped rfl .nil))
  have hmem : (⟨.string, literal, 7, 14⟩ : Token) ∈ tokenize .mysql script := by decide +kernel
  exact ⟨hliteral, (scansLiterals .mysql).scanned "SELECT ".toList hliteral, _, hmem, rfl,
    (scansLiterals .mysql).closed _ hmem rfl⟩

end SqlScript
