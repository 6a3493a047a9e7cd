import SqlScript.Scan

/-!
The tokens of a text tile it: each begins where the one before it ends, none is empty, and their
texts, one behind the other, are the text.
-/

set_option autoImplicit false

namespace SqlScript

theorem isPrefix_dollarTag? {s tag : List Char} (h : dollarTag? s = some tag) : tag <+: s := by
  unfold dollarTag? at h
  split at h
  · rename_i r
    dsimp only at h
    have hr := List.takeWhile_append_dropWhile (p := isTagChar) (l := r)
    split at h
    · rename_i hn hd
      obtain rfl := Option.some.inj h
      rw [List.head?_eq_none_iff] at hn
      rw [hn, hd] at hr
      exact ⟨_, by rw [← hr]; rfl⟩
    · rename_i c rest hn hd
      split at h
      · contradiction
      · obtain rfl := Option.some.inj h
        rw [hd] at hr
        exact ⟨rest, by simp [hr]⟩
    · contradiction
  · contradiction

theorem Pattern.extent_le (p : Pattern) (s : List Char) : p.extent s ≤ s.length := by
  cases p with
  | blanks => exact (List.takeWhile_prefix _).length_le
  | lineComment mark =>
    simp only [extent]
    split
    · rename_i h
      have hm := (List.isPrefixOf_iff_prefix.1 h).length_le
      have ht := (List.takeWhile_prefix (l := s.drop mark.length) (· != '\n')).length_le
      rw [List.length_drop] at ht
      omega
    · exact Nat.zero_le _
  | blockComment =>
    unfold extent
    split <;> try contradiction
    · rename_i r _
      have h := lengthThrough_le ['*', '/'] r
      simp only [List.length_cons]; omega
    · exact Nat.zero_le _
  | quoted q =>
    cases s with
    | nil => exact Nat.zero_le _
    | cons c r =>
      have h := q.bodyLength_le r
      simp only [extent, List.length_cons]
      split <;> omega
  | dollarQuoted =>
    simp only [extent]
    split
    · rename_i tag h
      have hp := (isPrefix_dollarTag? h).length_le
      have ht := lengthThrough_le tag (s.drop tag.length)
      rw [List.length_drop] at ht
      omega
    · exact Nat.zero_le _
  | semicolon =>
    unfold extent
    split <;> simp_all
  | word =>
    cases s with
    | nil => exact Nat.zero_le _
    | cons c r =>
      have h := (List.takeWhile_prefix (l := r) fun d => Text.isWordChar d || d == '$').length_le
      simp only [extent, List.length_cons]
      split <;> omega
  | anyChar => cases s <;> simp [extent]

theorem lexeme_le (forms : List Pattern) {s : List Char} (hs : s ≠ []) :
    (lexeme forms s).2 ≤ s.length := by
  unfold lexeme
  split
  · rename_i p _
    exact p.extent_le s
  · exact List.length_pos_iff.2 hs

def textOf (ts : List Token) : List Char := ts.flatMap Token.text

@[simp] theorem textOf_nil : textOf [] = [] := rfl

@[simp] theorem textOf_cons (t : Token) (ts : List Token) :
    textOf (t :: ts) = t.text ++ textOf ts := rfl

@[simp] theorem textOf_append (a b : List Token) : textOf (a ++ b) = textOf a ++ textOf b := by
  simp [textOf]

/-- Tokens that stand one behind the other, from the first offset to the second. -/
def Tiles : Int → List Token → Int → Prop
  | i, [], j => i = j
  | i, t :: ts, j => t.start = i ∧ t.text ≠ [] ∧ t.stop = i + t.text.length ∧ Tiles t.stop ts j

theorem Tiles.stop_eq {i j : Int} {ts : List Token} (h : Tiles i ts j) :
    j = i + (textOf ts).length := by
  induction ts generalizing i with
  | nil =>
    simp only [Tiles] at h
    simp [h]
  | cons t ts ih =>
    obtain ⟨_, _, hstop, hrest⟩ := h
    have hj := ih hrest
    simp only [textOf_cons, List.length_append]
    omega

theorem Tiles.le {i j : Int} {ts : List Token} (h : Tiles i ts j) : i ≤ j := by
  have := h.stop_eq
  omega

theorem tiles_append {i j : Int} {a b : List Token} :
    Tiles i (a ++ b) j ↔ ∃ m, Tiles i a m ∧ Tiles m b j := by
  induction a generalizing i with
  | nil => simp [Tiles]
  | cons t a ih =>
    simp only [List.cons_append, Tiles, ih]
    constructor
    · rintro ⟨hs, hn, he, m, ha, hb⟩
      exact ⟨m, ⟨hs, hn, he, ha⟩, hb⟩
    · rintro ⟨m, ⟨hs, hn, he, ha⟩, hb⟩
      exact ⟨hs, hn, he, m, ha, hb⟩

theorem Tiles.bounds {i j : Int} {ts : List Token} (h : Tiles i ts j) {t : Token} (ht : t ∈ ts) :
    i ≤ t.start ∧ t.start < t.stop ∧ t.stop ≤ j := by
  obtain ⟨a, b, rfl⟩ := List.append_of_mem ht
  obtain ⟨m, ha, hs, hn, he, hb⟩ := tiles_append.1 h
  have hpos := List.length_pos_iff.2 hn
  have hi := ha.le
  have hj := hb.le
  omega

theorem Tiles.lt {i j : Int} {t : Token} {ts : List Token} (h : Tiles i (t :: ts) j) : i < j := by
  have ht := h.bounds List.mem_cons_self
  omega

theorem Tiles.stop_last {i j : Int} {a : List Token} {z : Token} (h : Tiles i (a ++ [z]) j) :
    z.stop = j := by
  obtain ⟨m, _, _, _, _, hz⟩ := tiles_append.1 h
  exact hz

/-- The tokens that end by the seam between two tilings are those of the first. -/
theorem Tiles.filter_stop_le {i m j : Int} {a b : List Token} (ha : Tiles i a m)
    (hb : Tiles m b j) : (a ++ b).filter (fun t => t.stop ≤ m) = a := by
  have hin : a.filter (fun t => t.stop ≤ m) = a := by
    rw [List.filter_eq_self]
    intro t ht
    simpa using (ha.bounds ht).2.2
  have hout : b.filter (fun t => t.stop ≤ m) = [] := by
    rw [List.filter_eq_nil_iff]
    intro t ht
    have h := hb.bounds ht
    simp only [decide_eq_true_eq]
    omega
  rw [List.filter_append, hin, hout, List.append_nil]

theorem Tiles.filter_between {i m n j : Int} {a mid b : List Token} (ha : Tiles i a m)
    (hmid : Tiles m mid n) (hb : Tiles n b j) :
    (a ++ (mid ++ b)).filter (fun t => decide (m ≤ t.start) && decide (t.stop ≤ n)) = mid := by
  have hbefore : a.filter (fun t => decide (m ≤ t.start) && decide (t.stop ≤ n)) = [] := by
    rw [List.filter_eq_nil_iff]
    intro t ht
    have h := ha.bounds ht
    simp only [Bool.and_eq_true, decide_eq_true_eq]
    omega
  have hin : mid.filter (fun t => decide (m ≤ t.start) && decide (t.stop ≤ n)) = mid := by
    rw [List.filter_eq_self]
    intro t ht
    have h := hmid.bounds ht
    simp only [Bool.and_eq_true, decide_eq_true_eq]
    omega
  have hbehind : b.filter (fun t => decide (m ≤ t.start) && decide (t.stop ≤ n)) = [] := by
    rw [List.filter_eq_nil_iff]
    intro t ht
    have h := hb.bounds ht
    simp only [Bool.and_eq_true, decide_eq_true_eq]
    omega
  rw [List.filter_append, List.filter_append, hbefore, hin, hbehind, List.nil_append,
    List.append_nil]

theorem tokensFrom_of_ne_nil (forms : List Pattern) (i : Nat) {s : List Char} (hs : s ≠ []) :
    tokensFrom forms i s = frontToken forms i s ::
      tokensFrom forms (i + (lexeme forms s).2) (s.drop (lexeme forms s).2) := by
  obtain ⟨c, r, rfl⟩ := List.exists_cons_of_ne_nil hs
  exact tokensFrom_cons forms i c r

theorem frontToken_text_length (forms : List Pattern) (i : Nat) {s : List Char} (hs : s ≠ []) :
    (frontToken forms i s).text.length = (lexeme forms s).2 := by
  change (s.take (lexeme forms s).2).length = _
  rw [List.length_take, Nat.min_eq_left (lexeme_le forms hs)]

theorem tiles_tokensFrom (forms : List Pattern) (i : Nat) (s : List Char) :
    Tiles i (tokensFrom forms i s) (i + s.length) := by
  fun_induction tokensFrom forms i s with
  | case1 i => simp [Tiles]
  | case2 i c r n ih =>
    have hpos := lexeme_pos forms (c :: r)
    have hle := lexeme_le forms (List.cons_ne_nil c r)
    have hlen := frontToken_text_length forms i (List.cons_ne_nil c r)
    refine ⟨rfl, ?_, ?_, ?_⟩
    · intro h
      rw [h, List.length_nil] at hlen
      omega
    · rw [hlen]
      rfl
    · have hend : ((i + n : Nat) : Int) + (((c :: r).drop n).length : Int) =
          i + (c :: r).length := by
        rw [List.length_drop]
        omega
      rw [hend] at ih
      exact ih

theorem textOf_tokensFrom (forms : List Pattern) (i : Nat) (s : List Char) :
    textOf (tokensFrom forms i s) = s := by
  fun_induction tokensFrom forms i s with
  | case1 i => rfl
  | case2 i c r n ih =>
    rw [textOf_cons, ih]
    exact List.take_append_drop n (c :: r)

theorem tiles_tokenize (d : Dialect) (script : List Char) :
    Tiles 0 (tokenize d script) script.length := by
  have h := tiles_tokensFrom d.patterns 0 script
  simpa [tokenize] using h

theorem textOf_tokenize (d : Dialect) (script : List Char) : textOf (tokenize d script) = script :=
  textOf_tokensFrom d.patterns 0 script

end SqlScript
