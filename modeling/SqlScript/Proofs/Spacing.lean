import SqlScript.Proofs.Lookahead

/-!
Comments in the text. A space in the place of a comment leaves the tokens around it as they are: no
token but a blank goes on at a space, and none ends because of what a comment begins with.
-/

set_option autoImplicit false

namespace SqlScript

def Token.isComment (t : Token) : Bool := t.kind == .lineComment || t.kind == .blockComment

def spaced (ts : List Token) : List Char :=
  ts.flatMap fun t => if t.isComment then [' '] else t.text

/-- The same tokens at other places, with a single token of white space for each run of blanks. -/
inductive Respaced : List Token → List Token → Prop where
  | nil : Respaced [] []
  | token {t t' : Token} {ts ts' : List Token} : t.isBlank = false → t'.kind = t.kind →
      t'.text = t.text → Respaced ts ts' → Respaced (t :: ts) (t' :: ts')
  | gap {w : Token} {blanks ts ts' : List Token} : blanks ≠ [] →
      (∀ u ∈ blanks, u.isBlank = true) → w.kind = .whitespace → Respaced ts ts' →
      Respaced (blanks ++ ts) (w :: ts')

theorem spaced_cons (t : Token) (ts : List Token) :
    spaced (t :: ts) = (if t.isComment then [' '] else t.text) ++ spaced ts := by
  simp [spaced]

theorem takeWhile_front {P : Char → Bool} {w x : List Char} (hw : ∀ a ∈ w, P a = true)
    (hx : ∀ a, x.head? = some a → P a = false) : (w ++ x).takeWhile P = w := by
  rw [List.takeWhile_append_of_pos hw]
  cases x with
  | nil => simp
  | cons a x => simp [hx a rfl]

theorem tokensFrom_front {forms : List Pattern} {w x : List Char} {k : TokenKind} (j : Nat)
    (hw : w ≠ []) (h : lexeme forms (w ++ x) = (k, w.length)) :
    tokensFrom forms j (w ++ x) =
      ⟨k, w, j, j + w.length⟩ :: tokensFrom forms (j + w.length) x := by
  rw [tokensFrom_of_ne_nil _ _ (by simp [hw]), frontToken, h]
  simp

theorem Dialect.patterns_eq (d : Dialect) : d.patterns = .blanks :: d.patterns.tail := rfl

theorem lexeme_blanks (d : Dialect) {w x : List Char} (hne : w ≠ [])
    (hw : ∀ a ∈ w, Text.isBlank a = true) (hx : ∀ a, x.head? = some a → Text.isBlank a = false) :
    lexeme d.patterns (w ++ x) = (.whitespace, w.length) := by
  have hext : Pattern.blanks.extent (w ++ x) = w.length := by
    rw [Pattern.extent, takeWhile_front hw hx]
  have hpos := List.length_pos_iff.2 hne
  rw [d.patterns_eq, lexeme_cons, hext, if_pos hpos]
  rfl

theorem isBlank_of_lexeme {d : Dialect} {a : Char} {r : List Char}
    (h : (lexeme d.patterns (a :: r)).1 ≠ .whitespace) : Text.isBlank a = false := by
  cases ha : Text.isBlank a with
  | false => rfl
  | true =>
    have hpos : 0 < Pattern.blanks.extent (a :: r) := by simp [Pattern.extent, ha]
    rw [d.patterns_eq, lexeme_cons, if_pos hpos] at h
    exact absurd rfl h

theorem isBlank_of_whitespace {d : Dialect} {s : List Char}
    (h : (lexeme d.patterns s).1 = .whitespace) :
    ∀ a ∈ s.take (lexeme d.patterns s).2, Text.isBlank a = true := by
  obtain ⟨p, _, hkind, _, hlen⟩ := exists_form_of_kind h (by simp)
  rw [hlen]
  cases p <;> simp [Pattern.kind] at hkind
  rw [Pattern.extent, ← List.prefix_iff_eq_take.1 (List.takeWhile_prefix _)]
  exact fun a ha => List.all_eq_true.1 List.all_takeWhile a ha

def commentStarts : List Char := ['-', '#', '/']

theorem commentStart_of_lexeme {d : Dialect} {a : Char} {r : List Char}
    (h : (lexeme d.patterns (a :: r)).1 = .lineComment ∨
      (lexeme d.patterns (a :: r)).1 = .blockComment) : a ∈ commentStarts := by
  have begins {k : TokenKind} (hk : k = .lineComment ∨ k = .blockComment)
      (h : (lexeme d.patterns (a :: r)).1 = k) : a ∈ commentStarts := by
    obtain ⟨p, hp, hkind, hpos, -⟩ := exists_form_of_kind h (by rcases hk with rfl | rfl <;> simp)
    have hbegin := Pattern.mayBegin_of_extent hpos
    rw [← hkind] at hk
    cases p <;> simp [Pattern.kind] at hk
    · cases d <;>
        simp [Dialect.patterns, Dialect.lineComments, Dialect.quotations, Dialect.doubled,
          Dialect.backslashed] at hp <;>
        grind [Pattern.mayBegin, commentStarts]
    · simp [Pattern.mayBegin] at hbegin
      simp [commentStarts, hbegin]
  rcases h with h | h
  · exact begins (.inl rfl) h
  · exact begins (.inr rfl) h

theorem stopsAlso_space {d : Dialect} {p : Pattern} {c : Char} (hp : p ∈ d.patterns.tail)
    (hc : c ∈ commentStarts) : p.StopsAlso c ' ' := by
  have hstarts : c = '-' ∨ c = '#' ∨ c = '/' := by simpa [commentStarts] using hc
  cases p with
  | blanks => cases d <;> simp [Dialect.patterns, Dialect.lineComments, Dialect.quotations,
      Dialect.doubled, Dialect.backslashed] at hp
  | lineComment mark =>
    have hmark : ' ' ∉ mark := by
      cases d <;> simp [Dialect.patterns, Dialect.lineComments, Dialect.quotations,
        Dialect.doubled, Dialect.backslashed] at hp <;> grind
    exact ⟨fun h => absurd h hmark, by rcases hstarts with rfl | rfl | rfl <;> decide⟩
  | quoted q =>
    have hclosing : q.closing ≠ ' ' := by
      cases d <;> simp [Dialect.patterns, Dialect.lineComments, Dialect.quotations,
        Dialect.doubled, Dialect.backslashed] at hp <;> grind
    exact fun h => absurd h.symm hclosing
  | _ => rcases hstarts with rfl | rfl | rfl <;> simp [Pattern.StopsAlso] <;> decide

theorem lexeme_space {d : Dialect} {w v : List Char} {c : Char} (x : List Char)
    (hw : w ≠ []) (hblank : ∀ a, w.head? = some a → Text.isBlank a = false)
    (hc : c ∈ commentStarts) (h : (lexeme d.patterns (w ++ c :: v)).2 ≤ w.length) :
    lexeme d.patterns (w ++ ' ' :: x) = lexeme d.patterns (w ++ c :: v) := by
  have hskip (y : List Char) : lexeme d.patterns (w ++ y) = lexeme d.patterns.tail (w ++ y) := by
    obtain ⟨a, w, rfl⟩ := List.exists_cons_of_ne_nil hw
    have hzero : Pattern.blanks.extent (a :: (w ++ y)) = 0 :=
      Pattern.extent_eq_zero _ (hblank a rfl)
    rw [d.patterns_eq, List.cons_append, lexeme_cons, hzero, if_neg (Nat.lt_irrefl 0)]
    rfl
  rw [hskip] at h ⊢
  rw [hskip]
  refine lexeme_lookahead x hw (fun p hp => stopsAlso_space hp hc) ?_ ?_ h
  · exact fun mark hm => Dialect.mark_length_le (List.mem_of_mem_tail hm)
  · have hstarts : c = '-' ∨ c = '#' ∨ c = '/' := by simpa [commentStarts] using hc
    rcases hstarts with rfl | rfl | rfl <;> exact fun _ _ => by decide

/-- Spaced text departs from the text itself where the first comment begins. -/
theorem spaced_cases {ts : List Token}
    (h : ∀ t ∈ ts, t.isComment = true → ∃ c v, t.text = c :: v ∧ c ∈ commentStarts) :
    spaced ts = textOf ts ∨ ∃ w c v x, textOf ts = w ++ c :: v ∧ spaced ts = w ++ ' ' :: x ∧
      c ∈ commentStarts := by
  induction ts with
  | nil => exact .inl rfl
  | cons t ts ih =>
    rw [spaced_cons, textOf_cons]
    cases ht : t.isComment with
    | true =>
      obtain ⟨c, v, htext, hc⟩ := h t List.mem_cons_self ht
      exact .inr ⟨[], c, v ++ textOf ts, spaced ts, by simp [htext], by simp, hc⟩
    | false =>
      rcases ih fun u hu => h u (List.mem_cons_of_mem t hu) with heq | ⟨w, c, v, x, htext, hx, hc⟩
      · exact .inl (by simp [heq])
      · exact .inr ⟨t.text ++ w, c, v, x, by simp [htext], by simp [hx], hc⟩

theorem commentStart_of_mem {d : Dialect} {i : Nat} {s : List Char} {t : Token}
    (ht : t ∈ tokensFrom d.patterns i s) (h : t.isComment = true) :
    ∃ c v, t.text = c :: v ∧ c ∈ commentStarts := by
  obtain ⟨k, hk, rfl⟩ := mem_tokensFrom ht
  generalize hrest : s.drop k = rest at h
  have hne : rest ≠ [] := by
    rintro rfl
    have hlen := congrArg List.length hrest
    rw [List.length_drop, List.length_nil] at hlen
    omega
  obtain ⟨a, r, rfl⟩ := List.exists_cons_of_ne_nil hne
  have hkind : (lexeme d.patterns (a :: r)).1 = .lineComment ∨
      (lexeme d.patterns (a :: r)).1 = .blockComment := by
    simpa [Token.isComment, frontToken] using h
  obtain ⟨n, hn⟩ := Nat.exists_eq_add_one_of_ne_zero
    (Nat.pos_iff_ne_zero.1 (lexeme_pos d.patterns (a :: r)))
  exact ⟨a, r.take n, by simp [frontToken, hn], commentStart_of_lexeme hkind⟩

/-- A token that is not blank is not changed by spaces in the place of the comments behind it. -/
theorem lexeme_spaced {d : Dialect} {i : Nat} {a : Char} {r : List Char} {ts : List Token}
    (hts : ts = tokensFrom d.patterns (i + (lexeme d.patterns (a :: r)).2)
      ((a :: r).drop (lexeme d.patterns (a :: r)).2))
    (hk : (lexeme d.patterns (a :: r)).1.isBlank = false) :
    lexeme d.patterns ((a :: r).take (lexeme d.patterns (a :: r)).2 ++ spaced ts) =
      lexeme d.patterns (a :: r) := by
  have htext : textOf ts = (a :: r).drop (lexeme d.patterns (a :: r)).2 := by
    rw [hts, textOf_tokensFrom]
  have hall := List.take_append_drop (lexeme d.patterns (a :: r)).2 (a :: r)
  rw [← htext] at hall
  have hle := lexeme_le d.patterns (List.cons_ne_nil a r)
  have hpos := lexeme_pos d.patterns (a :: r)
  generalize hn : (lexeme d.patterns (a :: r)).2 = n at hall hle hpos ⊢
  have hcomments : ∀ t ∈ ts, t.isComment = true →
      ∃ c v, t.text = c :: v ∧ c ∈ commentStarts := by
    rw [hts]
    exact fun t => commentStart_of_mem
  rcases spaced_cases hcomments with heq | ⟨w, c, v, x, hw, hx, hc⟩
  · rw [heq, hall]
  · rw [hx, ← List.append_assoc]
    rw [hw, ← List.append_assoc] at hall
    have hne : (a :: r).take n ++ w ≠ [] := by
      have hlen : 0 < ((a :: r).take n ++ w).length := by
        rw [List.length_append, List.length_take]
        omega
      exact List.length_pos_iff.1 hlen
    have hblank : ∀ b, ((a :: r).take n ++ w).head? = some b → Text.isBlank b = false := by
      intro b hb
      obtain ⟨m, rfl⟩ := Nat.exists_eq_add_one_of_ne_zero (Nat.pos_iff_ne_zero.1 hpos)
      obtain rfl : a = b := by simpa using hb
      refine isBlank_of_lexeme (d := d) (r := r) fun hwhite => ?_
      simp [hwhite, TokenKind.isBlank] at hk
    have hread := lexeme_space (d := d) (v := v) x hne hblank hc (by
      rw [hall, hn, List.length_append, List.length_take]
      omega)
    rw [hread, hall]

/-- Tokens that stay as they are in a text in which a space stands for each comment, also where
blanks stand before them. -/
structure Respaces (d : Dialect) (ts : List Token) : Prop where
  front : ∀ j, Respaced ts (tokensFrom d.patterns j (spaced ts))
  behind : ∀ j blanks w, blanks ≠ [] → (∀ u ∈ blanks, u.isBlank = true) → w ≠ [] →
    (∀ a ∈ w, Text.isBlank a = true) →
    Respaced (blanks ++ ts) (tokensFrom d.patterns j (w ++ spaced ts))

theorem Token.isComment_of_solid {t : Token} (h : t.isBlank = false) : t.isComment = false := by
  simp only [isBlank, isComment] at h ⊢
  cases hk : t.kind <;> simp [hk, TokenKind.isBlank] at h ⊢

namespace Respaces

variable {d : Dialect} {t : Token} {ts : List Token}

theorem nil : Respaces d [] := by
  constructor
  · exact fun j => by simpa [spaced] using Respaced.nil
  · intro j blanks w hne hall hw hblank
    rw [tokensFrom_front j hw (lexeme_blanks d (x := spaced []) hw hblank (by simp [spaced]))]
    exact .gap hne hall rfl (by simpa [spaced] using Respaced.nil)

theorem blank (h : Respaces d ts) (hb : t.isBlank = true) (hne : t.text ≠ [])
    (htext : t.kind = .whitespace → ∀ a ∈ t.text, Text.isBlank a = true) :
    Respaces d (t :: ts) := by
  have hspace : (if t.isComment then [' '] else t.text) ≠ [] ∧
      ∀ a ∈ if t.isComment then [' '] else t.text, Text.isBlank a = true := by
    cases hc : t.isComment with
    | true => exact ⟨by simp, by simp; decide⟩
    | false =>
      have hwhite : t.kind = .whitespace := by
        simp only [Token.isBlank, Token.isComment] at hb hc
        cases hk : t.kind <;> simp [hk, TokenKind.isBlank] at hb hc ⊢
      exact ⟨hne, htext hwhite⟩
  obtain ⟨hw, hblank⟩ := hspace
  constructor
  · intro j
    rw [spaced_cons]
    exact h.behind j [t] _ (by simp) (by simpa using hb) hw hblank
  · intro j blanks w _ hall _ hwblank
    rw [spaced_cons, ← List.append_assoc, List.append_cons]
    refine h.behind j _ _ (by simp) ?_ (by simp [hw]) ?_
    · intro u hu
      rcases List.mem_append.1 hu with hu | hu
      · exact hall u hu
      · rwa [List.mem_singleton.1 hu]
    · intro a ha
      rcases List.mem_append.1 ha with ha | ha
      · exact hwblank a ha
      · exact hblank a ha

theorem token (h : Respaces d ts) (hb : t.isBlank = false) (hne : t.text ≠ [])
    (hlex : lexeme d.patterns (t.text ++ spaced ts) = (t.kind, t.text.length)) :
    Respaces d (t :: ts) := by
  have hspaced : spaced (t :: ts) = t.text ++ spaced ts := by
    rw [spaced_cons, Token.isComment_of_solid hb]
    rfl
  have hfront (j : Nat) : Respaced (t :: ts) (tokensFrom d.patterns j (spaced (t :: ts))) := by
    rw [hspaced, tokensFrom_front j hne hlex]
    exact .token hb rfl rfl (h.front _)
  refine ⟨hfront, fun j blanks w hblanks hall hw hblank => ?_⟩
  have hstop : ∀ a, (spaced (t :: ts)).head? = some a → Text.isBlank a = false := by
    intro a ha
    rw [hspaced] at ha
    obtain ⟨b, r, hr⟩ := List.exists_cons_of_ne_nil hne
    rw [hr] at ha hlex
    obtain rfl : b = a := by simpa using ha
    refine isBlank_of_lexeme (d := d) (r := r ++ spaced ts) ?_
    rw [← List.cons_append, hlex]
    intro hwhite
    simp only [Token.isBlank] at hb
    rw [show t.kind = .whitespace from hwhite] at hb
    contradiction
  rw [tokensFrom_front j hw (lexeme_blanks d hw hblank hstop)]
  exact .gap hblanks hall rfl (hfront _)

end Respaces

theorem respaces_tokensFrom (d : Dialect) (i : Nat) (s : List Char) :
    Respaces d (tokensFrom d.patterns i s) := by
  fun_induction tokensFrom d.patterns i s with
  | case1 i => exact .nil
  | case2 i a r n ih =>
    have hlen := frontToken_text_length d.patterns i (List.cons_ne_nil a r)
    have hne : (frontToken d.patterns i (a :: r)).text ≠ [] := by
      have hpos := lexeme_pos d.patterns (a :: r)
      exact List.length_pos_iff.1 (by omega)
    cases hb : (frontToken d.patterns i (a :: r)).isBlank with
    | true => exact ih.blank hb hne isBlank_of_whitespace
    | false =>
      refine ih.token hb hne ?_
      rw [hlen]
      exact lexeme_spaced (i := i) rfl hb

end SqlScript
