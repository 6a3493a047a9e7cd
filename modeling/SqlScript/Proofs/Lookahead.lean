import SqlScript.Proofs.Tiling

/-!
How far the scanner looks ahead. One character behind a token settles it, except that the name of a
dollar tag is read to its end; so no token is changed by what follows a later semicolon. A character
that continues no more forms than another one may also stand in its place.
-/

set_option autoImplicit false

namespace SqlScript

theorem takeWhile_lookahead {P : Char → Bool} {w v : List Char} {c c' : Char} (x : List Char)
    (hc : P c' = true → P c = true) (h : ((w ++ c :: v).takeWhile P).length ≤ w.length) :
    (w ++ c' :: x).takeWhile P = (w ++ c :: v).takeWhile P := by
  induction w with
  | nil =>
    have hstop : P c = false := by
      cases hp : P c with
      | false => rfl
      | true => simp [hp] at h
    have hstop' : P c' = false := by
      rw [Bool.eq_false_iff]
      intro hp
      simp [hc hp] at hstop
    simp [hstop, hstop']
  | cons a w ih =>
    cases ha : P a with
    | false => simp [ha]
    | true =>
      simp only [List.cons_append, List.takeWhile_cons, ha, if_true, List.length_cons] at h ⊢
      rw [ih (by omega)]

theorem isPrefixOf_lookahead {m w : List Char} (v x : List Char) (h : m.length ≤ w.length) :
    m.isPrefixOf (w ++ x) = m.isPrefixOf (w ++ v) := by
  rw [Bool.eq_iff_iff, List.isPrefixOf_iff_prefix, List.isPrefixOf_iff_prefix]
  have hp (y : List Char) : m <+: w ++ y ↔ m <+: w :=
    ⟨fun hm => List.prefix_of_prefix_length_le hm (List.prefix_append w y) h,
      fun hm => hm.trans (List.prefix_append w y)⟩
  rw [hp, hp]

theorem le_lengthThrough (mark s : List Char) :
    lengthThrough mark s = s.length ∨ mark.length ≤ lengthThrough mark s := by
  induction s with
  | nil => exact .inl rfl
  | cons c r ih =>
    rw [lengthThrough]
    split
    · exact .inr (Nat.le_refl _)
    · simp only [List.length_cons]
      omega

theorem lengthThrough_lookahead {mark w v : List Char} {c c' : Char} (x : List Char)
    (h : lengthThrough mark (w ++ c :: v) ≤ w.length) :
    lengthThrough mark (w ++ c' :: x) = lengthThrough mark (w ++ c :: v) := by
  induction w with
  | nil =>
    have hm : mark = [] := by
      simp only [List.nil_append, lengthThrough, List.length_nil] at h
      split at h
      · exact List.length_eq_zero_iff.1 (by omega)
      · omega
    simp [hm, lengthThrough]
  | cons a w ih =>
    have hlen : mark.length ≤ (a :: w).length := by
      have hle := le_lengthThrough mark (a :: w ++ c :: v)
      simp only [List.length_append, List.length_cons] at hle h ⊢
      omega
    simp only [List.cons_append, lengthThrough] at h ⊢
    have hp := isPrefixOf_lookahead (c :: v) (c' :: x) hlen
    simp only [List.cons_append] at hp
    rw [hp]
    split
    · rfl
    · rename_i hn
      rw [if_neg hn, List.length_cons] at h
      rw [ih (by omega)]

theorem Quoting.bodyLength_pos (q : Quoting) (c : Char) (r : List Char) :
    0 < q.bodyLength (c :: r) := by
  cases r with
  | nil => exact Nat.one_pos
  | cons d r =>
    rw [bodyLength]
    split
    · omega
    · split
      · split <;> omega
      · omega

theorem Quoting.bodyLength_lookahead (q : Quoting) {v : List Char} {c c' : Char}
    (hc : c' = q.closing → c = q.closing) (x : List Char) :
    (w : List Char) → q.bodyLength (w ++ c :: v) ≤ w.length →
      q.bodyLength (w ++ c' :: x) = q.bodyLength (w ++ c :: v)
  | [], h => by
    have hpos := q.bodyLength_pos c v
    simp only [List.nil_append, List.length_nil] at h
    omega
  | [a], h => by
    have hpos := q.bodyLength_pos c v
    simp only [List.cons_append, List.nil_append, List.length_singleton, bodyLength] at h ⊢
    split
    · rename_i hs
      rw [if_pos hs] at h
      omega
    · rename_i hs
      rw [if_neg hs] at h
      split
      · rename_i ha
        rw [if_pos ha] at h
        have hd : ¬ (q.doubles && c == q.closing) = true := by
          intro hd
          rw [if_pos hd] at h
          omega
        have hd' : ¬ (q.doubles && c' == q.closing) = true := by
          simp only [Bool.and_eq_true, beq_iff_eq] at hd ⊢
          exact fun hd' => hd ⟨hd'.1, hc hd'.2⟩
        rw [if_neg hd, if_neg hd']
      · rename_i ha
        rw [if_neg ha] at h
        omega
  | a :: b :: w, h => by
    have hskip := bodyLength_lookahead q (v := v) hc x w
    have hnext := bodyLength_lookahead q (v := v) hc x (b :: w)
    simp only [List.cons_append, List.length_cons] at h hnext ⊢
    rw [bodyLength] at h ⊢
    rw [bodyLength]
    split
    · rename_i hs
      rw [if_pos hs] at h
      rw [hskip (by omega)]
    · rename_i hs
      rw [if_neg hs] at h
      split
      · rename_i ha
        rw [if_pos ha] at h
        split
        · rename_i hd
          rw [if_pos hd] at h
          rw [hskip (by omega)]
        · rfl
      · rename_i ha
        rw [if_neg ha] at h
        rw [hnext (by omega)]

theorem dropWhile_lookahead {P : Char → Bool} {c : Char} (w x : List Char) (h : P c = false) :
    (w ++ c :: x).dropWhile P = w.dropWhile P ++ c :: x := by
  rw [List.dropWhile_append]
  split
  · rename_i he
    rw [List.isEmpty_iff.1 he]
    simp [h]
  · rfl

theorem takeWhile_stop {P : Char → Bool} {c : Char} (w x : List Char) (h : P c = false) :
    (w ++ c :: x).takeWhile P = w.takeWhile P := by
  induction w with
  | nil => simp [h]
  | cons a w ih => simp [List.takeWhile_cons, ih]

theorem dollarTag?_lookahead {w : List Char} {c c' : Char} (v x : List Char) (hw : w ≠ [])
    (hc : c' = '$' ↔ c = '$')
    (h : w.head? = some '$' → isTagChar c = false ∧ isTagChar c' = false) :
    dollarTag? (w ++ c' :: x) = dollarTag? (w ++ c :: v) := by
  obtain ⟨a, w, rfl⟩ := List.exists_cons_of_ne_nil hw
  by_cases ha : a = '$'
  · subst ha
    obtain ⟨hn, hn'⟩ := h rfl
    simp only [List.cons_append, dollarTag?, takeWhile_stop _ _ hn, takeWhile_stop _ _ hn',
      dropWhile_lookahead _ _ hn, dropWhile_lookahead _ _ hn']
    cases w.dropWhile isTagChar with
    | nil =>
      by_cases hd : c = '$'
      · rw [hc.2 hd, hd]
        cases (w.takeWhile isTagChar).head? <;> rfl
      · have hd' : c' ≠ '$' := mt hc.1 hd
        cases (w.takeWhile isTagChar).head? <;> simp [hd, hd']
    | cons d r => cases (w.takeWhile isTagChar).head? <;> by_cases hd : d = '$' <;> simp [hd]
  · have hn (y : List Char) : dollarTag? (a :: w ++ y) = none := by
      unfold dollarTag?
      split
      · rename_i he
        exact absurd (List.cons.inj he).1 ha
      · rfl
    rw [hn, hn]

theorem Pattern.extent_blockComment (a b : Char) (r : List Char) :
    blockComment.extent (a :: b :: r) =
      if a = '/' ∧ b = '*' then 2 + lengthThrough ['*', '/'] r else 0 := by
  split
  · rename_i h
    obtain ⟨rfl, rfl⟩ := h
    rfl
  · rename_i h
    unfold extent
    split <;> simp_all

theorem Pattern.extent_semicolon (a : Char) (r : List Char) :
    semicolon.extent (a :: r) = if a = ';' then 1 else 0 := by
  split
  · rename_i h
    subst h
    rfl
  · unfold extent
    split <;> simp_all

theorem lexeme_cons (p : Pattern) (forms : List Pattern) (s : List Char) :
    lexeme (p :: forms) s =
      if 0 < p.extent s then (p.kindOf (s.take (p.extent s)), p.extent s) else lexeme forms s := by
  simp only [lexeme, List.find?_cons]
  by_cases h : 0 < p.extent s <;> simp [h]

def Pattern.mayBegin (a : Char) : Pattern → Bool
  | .blanks => Text.isBlank a
  | .lineComment mark => mark.head?.all (· == a)
  | .blockComment => a == '/'
  | .quoted q => a == q.opening
  | .dollarQuoted => a == '$'
  | .semicolon => a == ';'
  | .word => Text.isWordChar a
  | .anyChar => true

theorem Pattern.extent_eq_zero {p : Pattern} {a : Char} (r : List Char)
    (h : p.mayBegin a = false) : p.extent (a :: r) = 0 := by
  cases p with
  | blanks =>
    have hb : Text.isBlank a = false := h
    simp [extent, hb]
  | lineComment mark =>
    cases mark with
    | nil => simp [mayBegin] at h
    | cons m ms =>
      have hm : ¬ m = a := by
        rintro rfl
        simp [mayBegin] at h
      simp [extent, hm]
  | blockComment =>
    have ha : a ≠ '/' := by simpa [mayBegin] using h
    cases r with
    | nil => simp [extent]
    | cons b r => rw [extent_blockComment, if_neg (fun hm => ha hm.1)]
  | quoted q =>
    have ha : ¬ (a == q.opening) = true := Bool.eq_false_iff.1 h
    rw [extent, if_neg ha]
  | dollarQuoted =>
    have ha : a ≠ '$' := by simpa [mayBegin] using h
    simp [extent, dollarTag?, ha]
  | semicolon =>
    have ha : a ≠ ';' := by simpa [mayBegin] using h
    rw [extent_semicolon, if_neg ha]
  | word =>
    have ha : ¬ Text.isWordChar a = true := Bool.eq_false_iff.1 h
    rw [extent, if_neg ha]
  | anyChar => contradiction

theorem Pattern.mayBegin_of_extent {p : Pattern} {a : Char} {r : List Char}
    (h : 0 < p.extent (a :: r)) : p.mayBegin a = true := by
  cases hb : p.mayBegin a with
  | true => rfl
  | false =>
    rw [extent_eq_zero r hb] at h
    contradiction

def Pattern.mark? : Pattern → Option Char
  | .lineComment mark => mark.head?
  | .blockComment => some '/'
  | .quoted q => some q.opening
  | .dollarQuoted => some '$'
  | .semicolon => some ';'
  | .blanks | .word | .anyChar => none

theorem Pattern.eq_mark {p : Pattern} {a c : Char} (hp : p.mark? = some a)
    (hc : p.mayBegin c = true) : c = a := by
  cases p <;> grind [mark?, mayBegin]

/-- Only the forms that may begin with its first character matter for a text. -/
theorem lexeme_filter (forms : List Pattern) (a : Char) (r : List Char) :
    lexeme forms (a :: r) = lexeme (forms.filter (·.mayBegin a)) (a :: r) := by
  induction forms with
  | nil => rfl
  | cons p forms ih =>
    rw [lexeme_cons, List.filter_cons]
    cases hp : p.mayBegin a with
    | false => simp [Pattern.extent_eq_zero r hp, ih]
    | true => simp [lexeme_cons, ih]

/-- A token of the form that ends before `c` would end before `c'` as well. -/
def Pattern.StopsAlso (c c' : Char) : Pattern → Prop
  | .blanks => Text.isBlank c' = true → Text.isBlank c = true
  | .lineComment mark => (c' ∈ mark → c' = c) ∧ (c = '\n' → c' = '\n')
  | .blockComment => c' = '*' → c = '*'
  | .quoted q => c' = q.closing → c = q.closing
  | .dollarQuoted => (c' = '$' ↔ c = '$') ∧ (isTagChar c' = true → isTagChar c = true)
  | .word => (Text.isWordChar c' || c' == '$') = true → (Text.isWordChar c || c == '$') = true
  | .semicolon | .anyChar => True

namespace Pattern

theorem stopsAlso_self (c : Char) (p : Pattern) : p.StopsAlso c c := by
  cases p <;> simp [StopsAlso]

variable {w v : List Char} {c c' : Char}

theorem extent_lineComment_lookahead {mark : List Char} (x : List Char) (hw : w ≠ [])
    (hlen : mark.length ≤ 2) (hc : (lineComment mark).StopsAlso c c')
    (h : (lineComment mark).extent (w ++ c :: v) ≤ w.length) :
    (lineComment mark).extent (w ++ c' :: x) = (lineComment mark).extent (w ++ c :: v) := by
  have hpos := List.length_pos_iff.2 hw
  obtain ⟨hmark, hline⟩ := hc
  by_cases hm : mark.length ≤ w.length
  · have hp := isPrefixOf_lookahead (c :: v) (c' :: x) hm
    simp only [extent, hp] at h ⊢
    split
    · rename_i hin
      rw [if_pos hin] at h
      have hd (y : List Char) : (w ++ y).drop mark.length = w.drop mark.length ++ y :=
        List.drop_append_of_le_length hm
      rw [hd] at h
      have ht := takeWhile_lookahead (P := (· != '\n')) (w := w.drop mark.length) (v := v) x
        (by simpa using mt hline) (by rw [List.length_drop]; exact Nat.le_sub_of_add_le' h)
      rw [hd, hd, ht]
    · rfl
  · -- the mark would have to end with the character looked at
    have hn : ¬ mark <+: w ++ c :: v := by
      intro hp
      simp only [extent, List.isPrefixOf_iff_prefix.2 hp, if_true] at h
      omega
    have hn' : ¬ mark <+: w ++ c' :: x := by
      intro hp
      have hle : mark <+: w ++ [c'] := by
        refine List.prefix_of_prefix_length_le hp ?_ (by simp; omega)
        simp
      have heq : mark = w ++ [c'] := hle.eq_of_length (by simp; omega)
      have hsame : c' = c := hmark (by simp [heq])
      exact hn (by simp [heq, hsame])
    simp [extent, List.isPrefixOf_iff_prefix, hn, hn']

theorem extent_blockComment_lookahead (x : List Char) (hw : w ≠ [])
    (hc : blockComment.StopsAlso c c') (h : blockComment.extent (w ++ c :: v) ≤ w.length) :
    blockComment.extent (w ++ c' :: x) = blockComment.extent (w ++ c :: v) := by
  obtain ⟨a, w, rfl⟩ := List.exists_cons_of_ne_nil hw
  cases w with
  | nil =>
    simp only [List.cons_append, List.nil_append, extent_blockComment] at h ⊢
    have hn : ¬ (a = '/' ∧ c = '*') := by
      intro hm
      rw [if_pos hm, List.length_singleton] at h
      omega
    have hn' : ¬ (a = '/' ∧ c' = '*') := fun hm => hn ⟨hm.1, hc hm.2⟩
    rw [if_neg hn, if_neg hn']
  | cons b w =>
    simp only [List.cons_append, List.length_cons, extent_blockComment] at h ⊢
    split
    · rename_i hm
      rw [if_pos hm] at h
      rw [lengthThrough_lookahead (c := c) (v := v) x (by omega)]
    · rfl

theorem extent_dollarQuoted_lookahead (x : List Char) (hw : w ≠ [])
    (hc : dollarQuoted.StopsAlso c c') (htag : w.head? = some '$' → isTagChar c = false)
    (h : dollarQuoted.extent (w ++ c :: v) ≤ w.length) :
    dollarQuoted.extent (w ++ c' :: x) = dollarQuoted.extent (w ++ c :: v) := by
  have ht := dollarTag?_lookahead v x hw hc.1 fun hd =>
    ⟨htag hd, Bool.eq_false_iff.2 fun hn => Bool.eq_false_iff.1 (htag hd) (hc.2 hn)⟩
  simp only [extent, ht] at h ⊢
  cases hd : dollarTag? (w ++ c :: v) with
  | none => rfl
  | some tag =>
    simp only [hd] at h
    have hdrop (y : List Char) : (w ++ y).drop tag.length = w.drop tag.length ++ y :=
      List.drop_append_of_le_length (by omega)
    rw [hdrop] at h
    have hl : lengthThrough tag (w.drop tag.length ++ c' :: x) =
        lengthThrough tag (w.drop tag.length ++ c :: v) :=
      lengthThrough_lookahead x (by rw [List.length_drop]; exact Nat.le_sub_of_add_le' h)
    simp only [hdrop, hl]

theorem extent_lookahead {p : Pattern} (x : List Char)
    (hw : w ≠ []) (hc : p.StopsAlso c c')
    (hmark : ∀ mark, p = .lineComment mark → mark.length ≤ 2)
    (htag : p = .dollarQuoted → w.head? = some '$' → isTagChar c = false)
    (h : p.extent (w ++ c :: v) ≤ w.length) :
    p.extent (w ++ c' :: x) = p.extent (w ++ c :: v) := by
  cases p with
  | blanks =>
    simp only [extent] at h ⊢
    rw [takeWhile_lookahead x hc h]
  | lineComment mark => exact extent_lineComment_lookahead x hw (hmark mark rfl) hc h
  | blockComment => exact extent_blockComment_lookahead x hw hc h
  | quoted q =>
    obtain ⟨a, w, rfl⟩ := List.exists_cons_of_ne_nil hw
    simp only [List.cons_append, List.length_cons, extent] at h ⊢
    split
    · rename_i ho
      rw [if_pos ho] at h
      rw [q.bodyLength_lookahead (v := v) hc x w (by omega)]
    · rfl
  | dollarQuoted => exact extent_dollarQuoted_lookahead x hw hc (htag rfl) h
  | semicolon =>
    obtain ⟨a, w, rfl⟩ := List.exists_cons_of_ne_nil hw
    simp only [List.cons_append, extent_semicolon]
  | word =>
    obtain ⟨a, w, rfl⟩ := List.exists_cons_of_ne_nil hw
    simp only [List.cons_append, List.length_cons, extent] at h ⊢
    split
    · rename_i ha
      rw [if_pos ha] at h
      have ht := takeWhile_lookahead (P := fun d => Text.isWordChar d || d == '$') (w := w)
        (v := v) x hc (by omega)
      rw [ht]
    · rfl
  | anyChar =>
    obtain ⟨a, w, rfl⟩ := List.exists_cons_of_ne_nil hw
    rfl

end Pattern

/-- A token that ends before the character `c` is settled by it, and by any other that stops as much
as `c` does. -/
theorem lexeme_lookahead {forms : List Pattern} {w v : List Char} {c c' : Char} (x : List Char)
    (hw : w ≠ []) (hc : ∀ p ∈ forms, p.StopsAlso c c')
    (hmark : ∀ mark, .lineComment mark ∈ forms → mark.length ≤ 2)
    (htag : .dollarQuoted ∈ forms → w.head? = some '$' → isTagChar c = false)
    (h : (lexeme forms (w ++ c :: v)).2 ≤ w.length) :
    lexeme forms (w ++ c' :: x) = lexeme forms (w ++ c :: v) := by
  induction forms with
  | nil => rfl
  | cons p forms ih =>
    have hext : p.extent (w ++ c :: v) ≤ w.length := by
      rw [lexeme_cons] at h
      split at h
      · exact h
      · omega
    have he := p.extent_lookahead x hw (hc p List.mem_cons_self)
      (fun mark hm => hmark mark (by simp [hm])) (fun hd => htag (by simp [hd])) hext
    rw [lexeme_cons, lexeme_cons, he]
    split
    · rw [List.take_append_of_le_length hext, List.take_append_of_le_length hext]
    · rename_i hn
      rw [lexeme_cons, if_neg hn] at h
      exact ih (fun p hp => hc p (List.mem_cons_of_mem _ hp))
        (fun mark hm => hmark mark (List.mem_cons_of_mem p hm))
        (fun hd => htag (List.mem_cons_of_mem p hd)) h

theorem Dialect.mark_length_le {d : Dialect} {mark : List Char}
    (h : .lineComment mark ∈ d.patterns) : mark.length ≤ 2 := by
  cases d <;> simp [patterns, lineComments, quotations, doubled, backslashed] at h <;> grind

theorem lexeme_semicolon (d : Dialect) (x : List Char) :
    lexeme d.patterns (';' :: x) = (.semicolon, 1) := by
  have hforms : d.patterns.filter (·.mayBegin ';') = [.semicolon, .anyChar] := by
    cases d <;> decide
  rw [lexeme_filter, hforms]
  rfl

theorem exists_form_of_kind {forms : List Pattern} {s : List Char} {k : TokenKind}
    (h : (lexeme forms s).1 = k) (hk : k ≠ .other) :
    ∃ p ∈ forms, p.kind = k ∧ 0 < p.extent s ∧ (lexeme forms s).2 = p.extent s := by
  unfold lexeme at h ⊢
  split at h
  · rename_i p hp
    refine ⟨p, List.mem_of_find?_eq_some hp, ?_, by simpa using List.find?_some hp, rfl⟩
    dsimp only at h
    unfold Pattern.kindOf at h
    split at h
    · exact absurd h.symm hk
    · exact h
  · exact absurd h.symm hk

theorem lexeme_kind_semicolon {forms : List Pattern} {s : List Char}
    (h : (lexeme forms s).1 = .semicolon) : (∃ r, s = ';' :: r) ∧ (lexeme forms s).2 = 1 := by
  obtain ⟨p, _, hkind, hpos, hlen⟩ := exists_form_of_kind h (by simp)
  rw [hlen]
  cases p <;> simp [Pattern.kind] at hkind
  cases s with
  | nil => contradiction
  | cons a r =>
    rw [Pattern.extent_semicolon] at hpos ⊢
    split at hpos
    · rename_i ha
      exact ⟨⟨r, by rw [ha]⟩, if_pos ha⟩
    · omega

theorem mem_tokensFrom {forms : List Pattern} {i : Nat} {s : List Char} {t : Token}
    (h : t ∈ tokensFrom forms i s) :
    ∃ k, k < s.length ∧ t = frontToken forms (i + k) (s.drop k) := by
  fun_induction tokensFrom forms i s with
  | case1 => contradiction
  | case2 i c r n ih =>
    rcases List.mem_cons.1 h with h | h
    · exact ⟨0, by simp, h⟩
    · obtain ⟨k, hk, rfl⟩ := ih h
      rw [List.length_drop] at hk
      exact ⟨n + k, by omega, by rw [List.drop_drop, Nat.add_assoc]⟩

theorem semicolon_token {forms : List Pattern} {i : Nat} {s : List Char} {t : Token}
    (h : t ∈ tokensFrom forms i s) (hk : t.kind = .semicolon) :
    t.text = [';'] ∧ t.stop = t.start + 1 := by
  obtain ⟨k, _, rfl⟩ := mem_tokensFrom h
  obtain ⟨⟨r, hr⟩, hn⟩ := lexeme_kind_semicolon (s := s.drop k) hk
  constructor
  · change (s.drop k).take (lexeme forms (s.drop k)).2 = _
    rw [hn, hr]
    rfl
  · change ((i + k : Nat) : Int) + (lexeme forms (s.drop k)).2 = (i + k : Nat) + 1
    rw [hn]
    rfl

/-- What stands behind a semicolon has no part in the tokens before it, and is itself read as if
nothing stood before. -/
theorem tokensFrom_semicolon {d : Dialect} {z : Token} {b : List Token} (x : List Char)
    (hz : z.kind = .semicolon) (a : List Token) (i : Nat) (s : List Char)
    (h : tokensFrom d.patterns i s = a ++ z :: b) :
    tokensFrom d.patterns i (textOf (a ++ [z]) ++ x) =
      a ++ z :: tokensFrom d.patterns (i + (textOf (a ++ [z])).length) x := by
  have hzt : z.text = [';'] := by
    have hm : z ∈ tokensFrom d.patterns i s := by simp [h]
    exact (semicolon_token hm hz).1
  have htext : textOf (a ++ [z]) ++ textOf b = s := by
    rw [← textOf_tokensFrom d.patterns i s, h]
    simp
  subst htext
  -- each token before the semicolon ends by it, so its first character settles them all
  induction a generalizing i with
  | nil =>
    simp only [List.nil_append, textOf_cons, textOf_nil, hzt, List.cons_append] at h ⊢
    rw [tokensFrom_cons, lexeme_semicolon] at h ⊢
    rw [← (List.cons.inj h).1]
    simp [frontToken, lexeme_semicolon]
  | cons t a ih =>
    have htile := tiles_tokensFrom d.patterns i (textOf (t :: a ++ [z]) ++ textOf b)
    rw [h] at htile
    have hne : t.text ≠ [] := htile.2.1
    have hw : t.text ++ textOf a ≠ [] := by simp [hne]
    have hs (y : List Char) : textOf (t :: a ++ [z]) ++ y = t.text ++ textOf a ++ ';' :: y := by
      simp [hzt]
    have hs' (y : List Char) : textOf a ++ ';' :: y = textOf (a ++ [z]) ++ y := by simp [hzt]
    rw [hs, tokensFrom_of_ne_nil _ _ (by simp)] at h
    rw [hs, tokensFrom_of_ne_nil _ _ (by simp)]
    obtain ⟨ht, hrest⟩ := List.cons.inj h
    have hlen := frontToken_text_length d.patterns i
      (s := t.text ++ textOf a ++ ';' :: textOf b) (by simp)
    rw [ht] at hlen
    have hlex : lexeme d.patterns (t.text ++ textOf a ++ ';' :: x) =
        lexeme d.patterns (t.text ++ textOf a ++ ';' :: textOf b) :=
      lexeme_lookahead x hw (fun p _ => p.stopsAlso_self ';')
        (fun _ hm => Dialect.mark_length_le hm) (fun _ _ => by decide)
        (by rw [← hlen, List.length_append]; omega)
    have hdrop (y : List Char) :
        (t.text ++ textOf a ++ ';' :: y).drop t.text.length = textOf (a ++ [z]) ++ y := by
      rw [List.append_assoc, List.drop_left, hs']
    have htake (y : List Char) : (t.text ++ textOf a ++ ';' :: y).take t.text.length = t.text := by
      rw [List.append_assoc, List.take_left]
    rw [← hlen, hdrop] at hrest
    have hfront : frontToken d.patterns i (t.text ++ textOf a ++ ';' :: x) = t := by
      refine Eq.trans ?_ ht
      simp only [frontToken]
      rw [hlex, ← hlen, htake, htake]
    have hi : i + t.text.length + (textOf (a ++ [z])).length =
        i + (textOf (t :: a ++ [z])).length := by
      simp only [List.cons_append, textOf_cons, List.length_append]
      omega
    rw [hfront, hlex, ← hlen, hdrop, ih _ hrest, hi]
    rfl

end SqlScript
