import SqlScript.Proofs.Quotations
import SqlScript.Proofs.Returns
import SqlScript.Proofs.Spacing

/-!
Words are scanned as a whole. A word is the longest run of its characters, no other token is a
keyword, and no seam between two tokens parts a word: each token that is no word ends with a
character of no word, or before one. White space is scanned as a whole as well.
-/

set_option autoImplicit false

namespace SqlScript

namespace Text

def inWord (c : Char) : Bool := isWordChar c || c == '$'

end Text

theorem stop_of_takeWhile {P : Char → Bool} {s : List Char} {y : Char}
    (hy : (s.drop (s.takeWhile P).length).head? = some y) : P y = false := by
  have hrest : s.drop (s.takeWhile P).length = s.dropWhile P := by
    have hs := List.takeWhile_append_dropWhile (p := P) (l := s)
    have hdrop : (s.takeWhile P ++ s.dropWhile P).drop (s.takeWhile P).length = s.dropWhile P :=
      List.drop_left
    rwa [hs] at hdrop
  have hstop := List.head?_dropWhile_not P s
  rw [hrest] at hy
  rwa [hy] at hstop

theorem lexeme_word (d : Dialect) {a : Char} (r : List Char) (ha : Text.isWordChar a = true) :
    lexeme d.patterns (a :: r) =
      (Pattern.word.kindOf ((a :: r).takeWhile Text.inWord),
        ((a :: r).takeWhile Text.inWord).length) := by
  have hrun : (a :: r).takeWhile Text.inWord = a :: r.takeWhile Text.inWord :=
    List.takeWhile_cons_of_pos (by simp [Text.inWord, ha])
  have hextent : Pattern.word.extent (a :: r) = ((a :: r).takeWhile Text.inWord).length := by
    rw [Pattern.extent, if_pos ha, hrun, List.length_cons, Nat.add_comm]
    rfl
  have hpos : 0 < Pattern.word.extent (a :: r) := by
    rw [hextent, hrun]
    exact Nat.succ_pos _
  have hform : .word ∈ d.properForms := by simp [d.properForms_eq]
  rw [lexeme_of_extent hform hpos, hextent, ← List.prefix_iff_eq_take.1 (List.takeWhile_prefix _)]

theorem isWordChar_of_keyword {d : Dialect} {a : Char} {r : List Char}
    (h : (lexeme d.patterns (a :: r)).1 = .keyword) : Text.isWordChar a = true := by
  obtain ⟨p, -, hkind, hpos, -⟩ := exists_form_of_kind h (by simp)
  cases p <;> simp [Pattern.kind] at hkind
  exact Pattern.mayBegin_of_extent hpos

theorem length_of_other {d : Dialect} {a : Char} {r : List Char}
    (ha : Text.isWordChar a = false) (h : (lexeme d.patterns (a :: r)).1 = .other) :
    (lexeme d.patterns (a :: r)).2 = 1 := by
  unfold lexeme at h ⊢
  split at h
  · rename_i p hp
    have hpos : 0 < p.extent (a :: r) := by simpa using List.find?_some hp
    have hword : p ≠ .word := by
      rintro rfl
      have hbegin : Text.isWordChar a = true := Pattern.mayBegin_of_extent hpos
      simp [ha] at hbegin
    simp only [Pattern.kindOf, hword, false_and, if_false] at h
    cases p <;> simp [Pattern.kind] at h hword
    rfl
  · rfl

def quoteMarks : List Char := ['\'', '"', '\x60', ']', '$']

theorem isWordChar_of_quoteMark {a : Char} (h : a ∈ quoteMarks) : Text.isWordChar a = false := by
  have all : (quoteMarks.all fun m => !Text.isWordChar m) = true := by decide
  simpa using List.all_eq_true.1 all a h

theorem Literal.getLast?_mem {d : Dialect} {c w r : List Char} (h : Literal d c w r) :
    ∃ a ∈ quoteMarks, w.getLast? = some a := by
  cases h with
  | @quoted _ q _ _ _ hq | @escaped q _ _ _ hq =>
    exact ⟨q, by rcases hq with rfl | rfl <;> decide, List.getLast?_concat⟩
  | backticked => exact ⟨'\x60', by decide, List.getLast?_concat⟩
  | bracketed | bare => exact ⟨']', by decide, List.getLast?_concat⟩
  | @dollarQuoted name =>
    refine ⟨'$', by decide, ?_⟩
    rw [dollarMark, ← List.append_assoc]
    exact List.getLast?_concat

theorem newline_behind_lineComment {mark s : List Char} {y : Char}
    (hpos : 0 < (Pattern.lineComment mark).extent s)
    (hy : (s.drop ((Pattern.lineComment mark).extent s)).head? = some y) : y = '\n' := by
  rw [Pattern.extent] at hpos hy
  split at hpos
  · rename_i hmark
    rw [if_pos hmark, ← List.drop_drop] at hy
    simpa using stop_of_takeWhile hy
  · contradiction

theorem slash_of_blockComment {a b x y : Char} {r : List Char}
    (hpos : 0 < Pattern.blockComment.extent (a :: b :: r))
    (hx : ((a :: b :: r).take (Pattern.blockComment.extent (a :: b :: r))).getLast? = some x)
    (hy : ((a :: b :: r).drop (Pattern.blockComment.extent (a :: b :: r))).head? = some y) :
    x = '/' := by
  rw [Pattern.extent_blockComment] at hpos hx hy
  split at hpos
  · rename_i hmark
    rw [if_pos hmark] at hx hy
    have hopen : lengthThrough ['*', '/'] r < r.length := by
      have hle := lengthThrough_le ['*', '/'] r
      have hne : (a :: b :: r).drop (2 + lengthThrough ['*', '/'] r) ≠ [] := by
        rintro h
        simp [h] at hy
      rw [ne_eq, List.drop_eq_nil_iff] at hne
      simp only [List.length_cons] at hne
      omega
    obtain ⟨c, rest, hr, -, hlen⟩ := closing_of_lengthThrough hopen
    have hall : a :: b :: r = a :: b :: c ++ ['*', '/'] ++ rest := by
      rw [hr]
      simp
    have hwidth : 2 + lengthThrough ['*', '/'] r = (a :: b :: c ++ ['*', '/']).length := by
      rw [hlen]
      simp
      omega
    rw [hwidth, hall, List.take_left, List.getLast?_append] at hx
    exact (Option.some.inj hx).symm
  · contradiction

/-- No token ends between two characters of words. -/
theorem seam_of_lexeme {d : Dialect} {s : List Char} {x y : Char}
    (hx : (s.take (lexeme d.patterns s).2).getLast? = some x)
    (hy : (s.drop (lexeme d.patterns s).2).head? = some y)
    (hword : Text.isWordChar x = true) : Text.isWordChar y = false := by
  obtain ⟨a, r, rfl⟩ : ∃ a r, s = a :: r := by
    refine List.exists_cons_of_ne_nil ?_
    rintro rfl
    simp at hy
  have hwordless {m : Char} (hm : Text.isWordChar m = false) (hxm : x = m) :
      Text.isWordChar y = false := by
    rw [hxm, hm] at hword
    contradiction
  cases ha : Text.isWordChar a with
  | true =>
    rw [lexeme_word d r ha] at hy
    have hstop := stop_of_takeWhile hy
    exact (Bool.or_eq_false_iff.1 hstop).1
  | false =>
    -- A token that is no word ends with a character of no word, but for a comment on a line, behind
    -- which the line ends.
    cases hk : (lexeme d.patterns (a :: r)).1 with
    | whitespace =>
      have hblank := isBlank_of_whitespace hk x (List.mem_of_getLast? hx)
      exact hwordless (Text.isWordChar_of_isBlank hblank) rfl
    | lineComment =>
      obtain ⟨p, -, hkind, hpos, hlen⟩ := exists_form_of_kind hk (by simp)
      cases p <;> simp [Pattern.kind] at hkind
      rw [hlen] at hy
      rw [newline_behind_lineComment hpos hy]
      decide
    | blockComment =>
      obtain ⟨p, -, hkind, hpos, hlen⟩ := exists_form_of_kind hk (by simp)
      cases p <;> simp [Pattern.kind] at hkind
      rw [hlen] at hx hy
      cases r with
      | nil => simp [Pattern.extent] at hpos
      | cons b r => exact hwordless (by decide) (slash_of_blockComment hpos hx hy)
    | string =>
      rcases literal_of_lexeme hk with hend | ⟨c, w, rest, hs, hlen, hlit⟩
      · rw [hend, List.drop_length] at hy
        contradiction
      · obtain ⟨m, hm, hlast⟩ := hlit.getLast?_mem
        rw [← hlen, hs, List.take_left, hlast] at hx
        exact hwordless (isWordChar_of_quoteMark hm) (Option.some.inj hx).symm
    | semicolon =>
      obtain ⟨⟨rest, hs⟩, hlen⟩ := lexeme_kind_semicolon hk
      rw [hlen, hs] at hx
      exact hwordless (m := ';') (by decide) (Option.some.inj hx).symm
    | keyword =>
      rw [isWordChar_of_keyword hk] at ha
      contradiction
    | other =>
      rw [length_of_other ha hk] at hx
      exact hwordless ha (Option.some.inj hx).symm

def Keyword.spellings : List (List Char) := Keyword.all.map (·.spelling.toList)

theorem Keyword.ofWord?_eq_none_iff {w : List Char} :
    ofWord? w = none ↔ Text.upper w ∉ spellings := by
  simp [ofWord?, spellings, List.find?_eq_none]

theorem tokensFrom_eq_cons {forms : List Pattern} {i : Nat} {s : List Char} {t : Token}
    {ts : List Token} (h : tokensFrom forms i s = t :: ts) :
    t = frontToken forms i s ∧
      tokensFrom forms (i + (lexeme forms s).2) (s.drop (lexeme forms s).2) = ts := by
  have hs : s ≠ [] := by
    rintro rfl
    simp at h
  rw [tokensFrom_of_ne_nil _ _ hs] at h
  exact ⟨(List.cons.inj h).1.symm, (List.cons.inj h).2⟩

theorem adjacent_of_tokensFrom {forms : List Pattern} {i : Nat} {s : List Char}
    {pre post : List Token} {t u : Token} (h : tokensFrom forms i s = pre ++ t :: u :: post) :
    ∃ j k, k = j + (lexeme forms (s.drop j)).2 ∧ t = frontToken forms (i + j) (s.drop j) ∧
      u = frontToken forms (i + k) (s.drop k) := by
  induction pre generalizing i s with
  | nil =>
    obtain ⟨ht, hrest⟩ := tokensFrom_eq_cons h
    exact ⟨0, _, (Nat.zero_add _).symm, ht, (tokensFrom_eq_cons hrest).1⟩
  | cons v pre ih =>
    obtain ⟨j, k, hk, ht, hu⟩ := ih (tokensFrom_eq_cons h).2
    rw [List.drop_drop] at hk ht hu
    rw [Nat.add_assoc] at ht hu
    exact ⟨_, _, by rw [hk, Nat.add_assoc], ht, hu⟩

@[simp] theorem frontToken_head? (forms : List Pattern) (i : Nat) (s : List Char) :
    (frontToken forms i s).text.head? = s.head? := by
  have hpos := lexeme_pos forms s
  simp only [frontToken]
  rw [List.head?_take, if_neg (by omega)]

section

variable {d : Dialect} {script : List Char} {t u : Token} {c : Char}

theorem isWordChar_before (ht : t ∈ tokenize d script) {a : Char} (ha : t.text.head? = some a)
    (hword : Text.isWordChar a = true) (hc : (script.take t.start.toNat).getLast? = some c) :
    Text.isWordChar c = false := by
  obtain ⟨pre, post, hsplit⟩ := List.append_of_mem ht
  rcases List.eq_nil_or_concat pre with rfl | ⟨front, u, rfl⟩
  · have htiles := tiles_tokenize d script
    rw [hsplit] at htiles
    have hfirst : t.start = 0 := htiles.1
    simp [hfirst] at hc
  · rw [List.concat_eq_append, List.append_assoc, List.singleton_append] at hsplit
    obtain ⟨j, k, hk, -, rfl⟩ := adjacent_of_tokensFrom hsplit
    have hstart : (frontToken d.patterns (0 + k) (script.drop k)).start.toNat = k := by
      simp [frontToken]
    rw [frontToken_head?, hk, ← List.drop_drop] at ha
    have hne : (script.drop j).take (lexeme d.patterns (script.drop j)).2 ≠ [] := by
      have hpos := lexeme_pos d.patterns (script.drop j)
      rw [ne_eq, List.take_eq_nil_iff]
      rintro (hzero | hnil)
      · omega
      · simp [hnil] at ha
    rw [hstart, hk, List.take_add, List.getLast?_append, List.getLast?_eq_some_getLast hne,
      Option.some_or, ← List.getLast?_eq_some_getLast hne] at hc
    exact Bool.eq_false_iff.2 fun hw => by simp [seam_of_lexeme hc ha hw] at hword

/-- A token that begins like a word is the word, and the script goes on with no character of it. -/
theorem word_of_head (ht : t ∈ tokenize d script) {a : Char} (ha : t.text.head? = some a)
    (hword : Text.isWordChar a = true) :
    t.text = (script.drop t.start.toNat).takeWhile Text.inWord ∧
      t.kind = (if Text.upper t.text ∈ Keyword.spellings then .keyword else .other) ∧
      ∀ c, (script.drop t.stop.toNat).head? = some c → Text.inWord c = false := by
  obtain ⟨k, -, rfl⟩ := mem_tokensFrom ht
  rw [frontToken_head?] at ha
  obtain ⟨r, hr⟩ := List.head?_eq_some_iff.1 ha
  have hlex := lexeme_word d r hword
  rw [← hr] at hlex
  have htext : (frontToken d.patterns (0 + k) (script.drop k)).text =
      (script.drop k).takeWhile Text.inWord := by
    rw [frontToken, hlex]
    exact (List.prefix_iff_eq_take.1 (List.takeWhile_prefix _)).symm
  have hstop : (frontToken d.patterns (0 + k) (script.drop k)).stop.toNat =
      k + ((script.drop k).takeWhile Text.inWord).length := by
    rw [frontToken, hlex]
    simp only
    omega
  refine ⟨?_, ?_, fun c hc => ?_⟩
  · rw [htext]
    simp [frontToken]
  · rw [htext]
    rw [frontToken, hlex]
    simp only [Pattern.kindOf, Pattern.kind, true_and, Keyword.ofWord?_eq_none_iff]
    split <;> simp_all
  · rw [hstop, ← List.drop_drop] at hc
    exact stop_of_takeWhile hc

theorem head_of_keyword (ht : t ∈ tokenize d script) (hk : t.kind = .keyword) :
    ∃ a, t.text.head? = some a ∧ Text.isWordChar a = true := by
  obtain ⟨k, hlt, rfl⟩ := mem_tokensFrom ht
  have hne : script.drop k ≠ [] := by
    rw [ne_eq, List.drop_eq_nil_iff]
    omega
  obtain ⟨a, r, hr⟩ := List.exists_cons_of_ne_nil hne
  rw [frontToken_head?, hr]
  have hkind : (lexeme d.patterns (script.drop k)).1 = .keyword := hk
  rw [hr] at hkind
  exact ⟨a, rfl, isWordChar_of_keyword hkind⟩

theorem extent_of_whitespace {s : List Char} (h : (lexeme d.patterns s).1 = .whitespace) :
    (lexeme d.patterns s).2 = (s.takeWhile Text.isBlank).length := by
  obtain ⟨p, -, hkind, -, hlen⟩ := exists_form_of_kind h (by simp)
  rw [hlen]
  cases p <;> simp [Pattern.kind] at hkind
  rfl

theorem blanks_apart {pre post : List Token} (h : tokenize d script = pre ++ t :: u :: post)
    (ht : t.kind = .whitespace) : u.kind ≠ .whitespace := by
  obtain ⟨j, k, hk, rfl, rfl⟩ := adjacent_of_tokensFrom h
  have ht : (lexeme d.patterns (script.drop j)).1 = .whitespace := ht
  intro hu
  have hu : (lexeme d.patterns (script.drop k)).1 = .whitespace := hu
  have hpos := lexeme_pos d.patterns (script.drop k)
  rw [extent_of_whitespace hu] at hpos
  rw [extent_of_whitespace ht] at hk
  cases hrest : script.drop k with
  | nil => simp [hrest] at hpos
  | cons b r =>
    have hb : Text.isBlank b = false := by
      refine stop_of_takeWhile (s := script.drop j) ?_
      rw [List.drop_drop, ← hk, hrest]
      rfl
    simp [hrest, hb] at hpos

/-- How words and white space stand in a script. -/
structure WholeWords (d : Dialect) (script : List Char) : Prop where
  before : ∀ t ∈ tokenize d script, t.kind = .keyword →
    ∀ c, (script.take t.start.toNat).getLast? = some c → Text.isWordChar c = false
  behind : ∀ t ∈ tokenize d script, t.kind = .keyword →
    ∀ c, (script.drop t.stop.toNat).head? = some c → Text.isWordChar c = false ∧ c ≠ '$'
  word : ∀ t ∈ tokenize d script, ∀ a, t.text.head? = some a → Text.isWordChar a = true →
    t.text = (script.drop t.start.toNat).takeWhile Text.inWord ∧
      t.kind = if Text.upper t.text ∈ Keyword.spellings then .keyword else .other
  keyword : ∀ t ∈ tokenize d script, t.kind = .keyword →
    ∃ a, t.text.head? = some a ∧ Text.isWordChar a = true
  blanks : ∀ pre t u post, tokenize d script = pre ++ t :: u :: post →
    ¬ (t.kind = .whitespace ∧ u.kind = .whitespace)

/-- No script has a keyword in the midst of a word, or white space next to white space. -/
theorem wholeWords (d : Dialect) (script : List Char) : WholeWords d script where
  before t ht hk c hc := by
    obtain ⟨a, ha, hword⟩ := head_of_keyword ht hk
    exact isWordChar_before ht ha hword hc
  behind t ht hk c hc := by
    obtain ⟨a, ha, hword⟩ := head_of_keyword ht hk
    have hstop := (word_of_head ht ha hword).2.2 c hc
    simpa [Text.inWord] using hstop
  word t ht a ha hword := by
    obtain ⟨htext, hkind, -⟩ := word_of_head ht ha hword
    exact ⟨htext, hkind⟩
  keyword t ht hk := head_of_keyword ht hk
  blanks pre t u post h hkinds := blanks_apart h hkinds.1 hkinds.2

example : (tokenize .psql "$$x$$SELECT/**/preSELECT SELECT$".toList).map (·.kind) =
    [.string, .keyword, .blockComment, .other, .whitespace, .other] := by decide +kernel

end

end SqlScript
