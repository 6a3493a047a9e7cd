import SqlScript.Proofs.Quotations
import SqlScript.Proofs.Recasting
import SqlScript.Proofs.Spacing
import SqlScript.Text.Words

/-!
Text without its carriage returns. Where each of them stands before a line feed, none is the end of
a form that the line feed would not end as well, so the tokens are the same without them: they lose
their carriage returns and nothing else.
-/

set_option autoImplicit false

namespace SqlScript

namespace Text

def withoutReturns (s : List Char) : List Char := s.filter (· != '\r')

inductive Paired : List Char → Prop where
  | nil : Paired []
  | char {c : Char} {s : List Char} : c ≠ '\r' → Paired s → Paired (c :: s)
  | pair {s : List Char} : Paired s → Paired ('\r' :: '\n' :: s)

@[simp] theorem withoutReturns_nil : withoutReturns [] = [] := rfl

@[simp] theorem withoutReturns_return (s : List Char) :
    withoutReturns ('\r' :: s) = withoutReturns s := rfl

@[simp] theorem withoutReturns_feed (s : List Char) :
    withoutReturns ('\n' :: s) = '\n' :: withoutReturns s := rfl

theorem withoutReturns_cons {c : Char} (hc : c ≠ '\r') (s : List Char) :
    withoutReturns (c :: s) = c :: withoutReturns s :=
  List.filter_cons_of_pos (by simpa using hc)

@[simp] theorem withoutReturns_append (s t : List Char) :
    withoutReturns (s ++ t) = withoutReturns s ++ withoutReturns t :=
  List.filter_append s t

theorem withoutReturns_of_notMem {s : List Char} (hs : '\r' ∉ s) : withoutReturns s = s := by
  refine List.filter_eq_self.2 fun a ha => ?_
  rw [bne_iff_ne]
  rintro rfl
  exact hs ha

theorem mem_withoutReturns {a : Char} {s : List Char} (ha : a ≠ '\r') :
    a ∈ withoutReturns s ↔ a ∈ s := by
  simp [withoutReturns, ha]

theorem Paired.tail {c : Char} {s : List Char} (h : Paired (c :: s)) : Paired s := by
  cases h with
  | char _ h => exact h
  | pair h => exact .char (by decide) h

theorem paired_cons {c : Char} {s : List Char} :
    Paired (c :: s) ↔ (c = '\r' → s.head? = some '\n') ∧ Paired s := by
  constructor
  · intro h
    refine ⟨?_, h.tail⟩
    rintro rfl
    cases h with
    | char hc => exact absurd rfl hc
    | pair => rfl
  · rintro ⟨hc, h⟩
    by_cases hr : c = '\r'
    · obtain ⟨r, rfl⟩ := List.head?_eq_some_iff.1 (hc hr)
      rw [hr]
      exact .pair h.tail
    · exact .char hr h

instance Paired.decidable : (s : List Char) → Decidable (Paired s)
  | [] => .isTrue .nil
  | _ :: s =>
    have := Paired.decidable s
    decidable_of_iff _ paired_cons.symm

namespace Paired

variable {s : List Char}

theorem drop (h : Paired s) (n : Nat) : Paired (s.drop n) := by
  induction n generalizing s with
  | zero => exact h
  | succ n ih =>
    cases s with
    | nil => exact h
    | cons c s => exact ih h.tail

theorem behind {w : List Char} (h : Paired (w ++ s)) : Paired s := by
  have hd := h.drop w.length
  rwa [List.drop_left] at hd

theorem iff_forall : Paired s ↔ ∀ a b, s = a ++ '\r' :: b → b.head? = some '\n' := by
  constructor
  · rintro h a b rfl
    exact (paired_cons.1 h.behind).1 rfl
  · intro h
    induction s with
    | nil => exact .nil
    | cons c s ih =>
      refine paired_cons.2 ⟨?_, ih fun a b hab => h (c :: a) b (by rw [hab, List.cons_append])⟩
      rintro rfl
      exact h [] s rfl

theorem getLast?_ne (h : Paired s) : s.getLast? ≠ some '\r' := by
  induction h with
  | nil => simp
  | @char c s hc _ ih => cases hs : s.getLast? <;> simp_all [List.getLast?_cons]
  | @pair s _ ih => cases hs : s.getLast? <;> simp_all [List.getLast?_cons]

theorem unifyNewlines_eq (h : Paired s) : unifyNewlines s = withoutReturns s := by
  induction h with
  | nil => rfl
  | @char c s hc _ ih =>
    have hcons : unifyNewlines (c :: s) = c :: unifyNewlines s := by
      rw [unifyNewlines] <;> simp [hc]
    rw [withoutReturns_cons hc, hcons, ih]
  | @pair s _ ih =>
    have hcons : unifyNewlines ('\r' :: '\n' :: s) = '\n' :: unifyNewlines s := rfl
    rw [withoutReturns_return, withoutReturns_feed, hcons, ih]

theorem withoutReturns_takeWhile (h : Paired s) {P : Char → Bool}
    (hP : P '\n' = true → P '\r' = true) :
    withoutReturns (s.takeWhile P) = (withoutReturns s).takeWhile P := by
  induction h with
  | nil => rfl
  | @char c s hc _ ih =>
    rw [withoutReturns_cons hc, List.takeWhile_cons, List.takeWhile_cons]
    split
    · rw [withoutReturns_cons hc, ih]
    · rfl
  | @pair s _ ih =>
    rw [withoutReturns_return, withoutReturns_feed, List.takeWhile_cons, List.takeWhile_cons,
      List.takeWhile_cons]
    cases hn : P '\n' with
    | true => simp [hP hn, ih]
    | false => cases P '\r' <;> simp

theorem withoutReturns_dropWhile (h : Paired s) {P : Char → Bool} (hr : P '\r' = false)
    (hn : P '\n' = false) :
    withoutReturns (s.dropWhile P) = (withoutReturns s).dropWhile P := by
  induction h with
  | nil => rfl
  | @char c s hc _ ih =>
    rw [withoutReturns_cons hc, List.dropWhile_cons, List.dropWhile_cons]
    split
    · exact ih
    · rw [withoutReturns_cons hc]
  | pair _ _ => simp [hr, hn]

theorem isPrefixOf_withoutReturns (h : Paired s) {mark : List Char} (hr : '\r' ∉ mark)
    (hn : '\n' ∉ mark) : mark.isPrefixOf (withoutReturns s) = mark.isPrefixOf s := by
  induction mark generalizing s with
  | nil => simp
  | cons q mark ih =>
    obtain ⟨hqr, hr⟩ := not_or.1 (mt List.mem_cons.2 hr)
    obtain ⟨hqn, hn⟩ := not_or.1 (mt List.mem_cons.2 hn)
    cases h with
    | nil => rfl
    | char hc h => rw [withoutReturns_cons hc, List.isPrefixOf, List.isPrefixOf, ih h hr hn]
    | pair =>
      have hr' : (q == '\r') = false := beq_false_of_ne (Ne.symm hqr)
      have hn' : (q == '\n') = false := beq_false_of_ne (Ne.symm hqn)
      simp [List.isPrefixOf, hr', hn']

theorem feed_mem_takeWhile (h : Paired s) {P : Char → Bool} (hP : P '\r' = true → P '\n' = true)
    (hm : '\r' ∈ s.takeWhile P) : '\n' ∈ s.takeWhile P := by
  induction h with
  | nil => contradiction
  | @char c s hc _ ih =>
    rw [List.takeWhile_cons] at hm ⊢
    split
    · rename_i hp
      rw [if_pos hp] at hm
      exact List.mem_cons_of_mem c (ih ((List.mem_cons.1 hm).resolve_left (Ne.symm hc)))
    · rename_i hp
      simp [hp] at hm
  | @pair s _ _ =>
    have hr : P '\r' = true := List.all_eq_true.1 List.all_takeWhile '\r' hm
    simp [hr, hP hr]

end Paired

end Text

/-- Without the carriage returns the length that `f` gives is that of the same text. -/
def Carries (f : List Char → Nat) (s : List Char) : Prop :=
  f (Text.withoutReturns s) = (Text.withoutReturns (s.take (f s))).length

open Text

theorem Carries.length_behind {f : List Char → Nat} {mark s : List Char} (hm : '\r' ∉ mark)
    (h : Carries f s) :
    (withoutReturns ((mark ++ s).take (mark.length + f s))).length =
      mark.length + f (withoutReturns s) := by
  rw [List.take_length_add_append, withoutReturns_append, withoutReturns_of_notMem hm,
    List.length_append, h]

theorem carries_takeWhile {s : List Char} (h : Paired s) {P : Char → Bool}
    (hP : P '\n' = true → P '\r' = true) : Carries (fun s => (s.takeWhile P).length) s := by
  have htake := List.prefix_iff_eq_take.1 (List.takeWhile_prefix P (l := s))
  rw [Carries, ← htake, h.withoutReturns_takeWhile hP]

theorem carries_lengthThrough {mark s : List Char} (hne : mark ≠ []) (hr : '\r' ∉ mark)
    (hn : '\n' ∉ mark) (h : Paired s) : Carries (lengthThrough mark) s := by
  induction h with
  | nil => rfl
  | @char c s hc h ih =>
    have hp := (Paired.char hc h).isPrefixOf_withoutReturns hr hn
    rw [withoutReturns_cons hc] at hp
    rw [Carries, withoutReturns_cons hc, lengthThrough, lengthThrough, hp]
    split
    · rename_i hin
      rw [← List.prefix_iff_eq_take.1 (List.isPrefixOf_iff_prefix.1 hin),
        withoutReturns_of_notMem hr]
    · rw [Nat.add_comm 1 (lengthThrough mark s), List.take_succ_cons, withoutReturns_cons hc,
        List.length_cons, ← ih, Nat.add_comm]
  | @pair s h ih =>
    have hnot {a : Char} (r : List Char) (ha : a ∉ mark) : ¬ mark.isPrefixOf (a :: r) = true := by
      obtain ⟨q, mark, rfl⟩ := List.exists_cons_of_ne_nil hne
      rw [List.isPrefixOf_iff_prefix]
      rintro ⟨t, ht⟩
      exact ha (by simp [(List.cons.inj ht).1])
    have hlen : lengthThrough mark ('\r' :: '\n' :: s) = lengthThrough mark s + 1 + 1 := by
      rw [lengthThrough, if_neg (hnot _ hr), lengthThrough, if_neg (hnot _ hn)]
      omega
    rw [Carries, withoutReturns_return, withoutReturns_feed, lengthThrough, if_neg (hnot _ hn), ih,
      hlen, List.take_succ_cons, List.take_succ_cons, withoutReturns_return, withoutReturns_feed,
      List.length_cons, Nat.add_comm]

theorem Quoting.bodyLength_ordinary (q : Quoting) {c : Char} (hb : c ≠ '\\') (hc : c ≠ q.closing)
    (r : List Char) : q.bodyLength (c :: r) = 1 + q.bodyLength r := by
  cases r with
  | nil => rfl
  | cons d r => rw [bodyLength, if_neg (by simp [hb]), if_neg (by simpa using hc)]

theorem Quoting.carries_bodyLength (q : Quoting) (hr : q.closing ≠ '\r') (hn : q.closing ≠ '\n') :
    (s : List Char) → Paired s → Carries q.bodyLength s
  | [], _ => rfl
  | [c], h => by
    cases h with
    | char hc _ => simp [Carries, bodyLength, withoutReturns_cons hc]
  | c :: d :: r, h => by
    have hone := q.carries_bodyLength hr hn (d :: r) h.tail
    have htwo := q.carries_bodyLength hr hn r h.tail.tail
    have hfeed (x : List Char) : q.bodyLength ('\n' :: x) = 1 + q.bodyLength x :=
      q.bodyLength_ordinary (by decide) (Ne.symm hn) x
    cases h with
    | pair _ =>
      have hlen : q.bodyLength ('\r' :: '\n' :: r) = q.bodyLength r + 1 + 1 := by
        rw [q.bodyLength_ordinary (by decide) (Ne.symm hr), hfeed]
        omega
      rw [Carries, withoutReturns_return, withoutReturns_feed, hfeed, htwo, hlen,
        List.take_succ_cons, List.take_succ_cons, withoutReturns_return, withoutReturns_feed,
        List.length_cons, Nat.add_comm]
    | char hc h =>
      have hfront : withoutReturns (d :: r) ≠ [] ∧
          ((withoutReturns (d :: r)).head? == some q.closing) = (d == q.closing) := by
        cases h with
        | char hd _ => simp [withoutReturns_cons hd]
        | pair => simp [beq_false_of_ne (Ne.symm hr), beq_false_of_ne (Ne.symm hn)]
      have hskip : 2 + q.bodyLength (withoutReturns (d :: r)).tail =
          (withoutReturns ((c :: d :: r).take (2 + q.bodyLength r))).length := by
        cases h with
        | char hd _ =>
          have hmark : '\r' ∉ [c, d] := by simp [Ne.symm hc, Ne.symm hd]
          rw [withoutReturns_cons hd, List.tail_cons]
          exact (htwo.length_behind hmark).symm
        | @pair r _ =>
          rw [Carries, withoutReturns_feed, hfeed] at htwo
          rw [Nat.add_comm 2 (q.bodyLength ('\n' :: r)), List.take_succ_cons, List.take_succ_cons,
            withoutReturns_cons hc, List.length_cons, withoutReturns_return, withoutReturns_return,
            ← htwo, withoutReturns_feed, List.tail_cons]
          omega
      rw [Carries, withoutReturns_cons hc, bodyLength_cons c hfront.1, bodyLength]
      split
      · exact hskip
      · split
        · rw [hfront.2]
          split
          · exact hskip
          · simp [withoutReturns_cons hc]
        · have hmark : '\r' ∉ [c] := by simpa using Ne.symm hc
          exact (hone.length_behind hmark).symm

theorem dollarTag?_withoutReturns {s : List Char} (h : Paired s) :
    dollarTag? (withoutReturns s) = dollarTag? s := by
  cases h with
  | nil => rfl
  | pair => rfl
  | @char c s hc h =>
    rw [withoutReturns_cons hc]
    by_cases hd : c = '$'
    · subst hd
      have hr : isTagChar '\r' = false := by decide
      have hn : isTagChar '\n' = false := by decide
      have htake : (withoutReturns s).takeWhile isTagChar = s.takeWhile isTagChar := by
        rw [← h.withoutReturns_takeWhile (by simp [hn]), withoutReturns_of_notMem]
        intro hm
        have hp : isTagChar '\r' = true := List.all_eq_true.1 List.all_takeWhile '\r' hm
        simp [hr] at hp
      have hdrop := h.withoutReturns_dropWhile hr hn
      have hrest : Paired (s.dropWhile isTagChar) := by
        obtain ⟨w, hw⟩ := List.dropWhile_suffix isTagChar (l := s)
        rw [← hw] at h
        exact h.behind
      simp only [dollarTag?, htake, ← hdrop]
      generalize s.dropWhile isTagChar = rest at hrest
      cases hrest with
      | nil => rfl
      | pair => cases (s.takeWhile isTagChar).head? <;> rfl
      | @char d x hd _ =>
        rw [withoutReturns_cons hd]
        by_cases hx : d = '$'
        · subst hx
          cases (s.takeWhile isTagChar).head? <;> rfl
        · cases (s.takeWhile isTagChar).head? <;> simp [hx]
    · simp [dollarTag?, hd]

namespace Pattern

def lineless : Pattern → Bool
  | .lineComment mark => !mark.contains '\r' && !mark.contains '\n'
  | .quoted q => [q.opening, q.closing].all fun c => c != '\r' && c != '\n'
  | .blanks | .blockComment | .dollarQuoted | .semicolon | .word | .anyChar => true

variable {c : Char} {s : List Char}

theorem carries_lineComment {mark : List Char} (hr : '\r' ∉ mark) (hn : '\n' ∉ mark)
    (h : Paired s) : Carries (lineComment mark).extent s := by
  rw [Carries, extent, extent, h.isPrefixOf_withoutReturns hr hn]
  split
  · rename_i hp
    obtain ⟨y, rfl⟩ := List.isPrefixOf_iff_prefix.1 hp
    rw [withoutReturns_append, withoutReturns_of_notMem hr, List.drop_left, List.drop_left]
    exact ((carries_takeWhile h.behind (by simp)).length_behind hr).symm
  · simp

theorem carries_blockComment (hc : c ≠ '\r') (h : Paired s) :
    Carries blockComment.extent (c :: s) := by
  rw [Carries, withoutReturns_cons hc]
  cases h with
  | nil => simp [extent]
  | @char d r hd h =>
    rw [withoutReturns_cons hd, extent_blockComment, extent_blockComment]
    split
    · have hbody : Carries (lengthThrough ['*', '/']) r :=
        carries_lengthThrough (by simp) (by simp) (by simp) h
      have hmark : '\r' ∉ [c, d] := by simp [Ne.symm hc, Ne.symm hd]
      exact (hbody.length_behind hmark).symm
    · simp
  | pair => simp [extent_blockComment]

theorem carries_dollarQuoted (h : Paired s) : Carries dollarQuoted.extent s := by
  rw [Carries, extent, extent, dollarTag?_withoutReturns h]
  cases ht : dollarTag? s with
  | none => simp
  | some tag =>
    obtain ⟨y, rfl⟩ := isPrefix_dollarTag? ht
    obtain ⟨name, rfl, hname, -⟩ := isTagName_of_dollarTag? ht
    have hmark (a : Char) (ha : a.isAlphanum = false) (hu : a ≠ '_') (hd : a ≠ '$') :
        a ∉ dollarMark name := by
      have hn : a ∉ name := fun hm => by simpa [ha, hu] using hname a hm
      simp [dollarMark, hn, hd]
    have hr := hmark '\r' (by decide) (by decide) (by decide)
    have hn := hmark '\n' (by decide) (by decide) (by decide)
    rw [withoutReturns_append, withoutReturns_of_notMem hr]
    simp only [List.drop_left]
    have hbody := carries_lengthThrough (dollarMark_ne_nil name) hr hn h.behind
    exact (hbody.length_behind hr).symm

theorem carries_extent {p : Pattern} (hp : p.lineless = true) (hc : c ≠ '\r') (h : Paired s) :
    Carries p.extent (c :: s) := by
  have hs : Paired (c :: s) := .char hc h
  have hfirst : '\r' ∉ [c] := by simpa using Ne.symm hc
  cases p with
  | blanks => exact carries_takeWhile hs fun _ => by decide
  | lineComment mark =>
    obtain ⟨hr, hn⟩ : '\r' ∉ mark ∧ '\n' ∉ mark := by simpa [lineless] using hp
    exact carries_lineComment hr hn hs
  | blockComment => exact carries_blockComment hc h
  | quoted q =>
    obtain ⟨-, hr, hn⟩ : _ ∧ q.closing ≠ '\r' ∧ q.closing ≠ '\n' := by
      simpa [lineless] using hp
    rw [Carries, withoutReturns_cons hc, extent, extent]
    split
    · exact ((q.carries_bodyLength hr hn s h).length_behind hfirst).symm
    · simp
  | dollarQuoted => exact carries_dollarQuoted hs
  | semicolon =>
    rw [Carries, withoutReturns_cons hc, extent_semicolon, extent_semicolon]
    split <;> simp [withoutReturns_cons hc]
  | word =>
    rw [Carries, withoutReturns_cons hc, extent, extent]
    split
    · have hrest := carries_takeWhile (P := fun d => isWordChar d || d == '$') h
        (fun hn => absurd hn (by decide))
      exact (hrest.length_behind hfirst).symm
    · simp
  | anyChar => simp [Carries, extent, withoutReturns_cons hc]

end Pattern

/-! ## Tokens -/

def formMarks : List Char := ['\n', '-', '#', '/', '\'', '"', '\x60', '[', '$', ';']

theorem Keyword.ofWord?_of_mark {a : Char} {w : List Char} (ha : a ∈ formMarks) (hw : a ∈ w) :
    ofWord? w = none := by
  cases hk : ofWord? w with
  | none => rfl
  | some k =>
    have hself : formMarks.all (fun a => upperChar a == [a]) = true := by decide
    have hspelling : k.spelling.toList.all (!formMarks.contains ·) = true := by cases k <;> decide
    have ha' : upperChar a = [a] := by simpa using List.all_eq_true.1 hself a ha
    have hmem : a ∈ upper w := List.mem_flatMap.2 ⟨a, hw, by simp [ha']⟩
    rw [upper_of_ofWord? hk] at hmem
    have hno : a ∉ formMarks := by simpa using List.all_eq_true.1 hspelling a hmem
    exact absurd ha hno

theorem keepsWord_of_notMem {w : List Char} (hw : '\r' ∉ w) : KeepsWord withoutReturns w := by
  constructor <;> rw [withoutReturns_of_notMem hw]

theorem keepsWord_of_mark {a : Char} {w : List Char} (ha : a ∈ formMarks) (hw : a ∈ w) :
    KeepsWord withoutReturns w := by
  have hr : a ≠ '\r' := by
    rintro rfl
    contradiction
  have he : a ≠ '=' := by
    rintro rfl
    contradiction
  have hw' := (mem_withoutReturns hr).2 hw
  have hne {w : List Char} (hw : a ∈ w) : w ≠ ['='] := by
    rintro rfl
    exact he (List.mem_singleton.1 hw)
  constructor
  · rw [Keyword.ofWord?_of_mark ha hw, Keyword.ofWord?_of_mark ha hw']
  · exact iff_of_false (hne hw') (hne hw)

theorem keepsWord_takeWhile_isBlank {s : List Char} (h : Paired s) :
    KeepsWord withoutReturns (s.takeWhile isBlank) := by
  by_cases hr : '\r' ∈ s.takeWhile isBlank
  · exact keepsWord_of_mark (a := '\n') (by decide) (h.feed_mem_takeWhile (fun _ => by decide) hr)
  · exact keepsWord_of_notMem hr

theorem Dialect.lineless {d : Dialect} {p : Pattern} (hp : p ∈ d.patterns) :
    p.lineless = true := by
  revert p
  cases d <;> decide

theorem Dialect.marked {d : Dialect} {p : Pattern} (hp : p ∈ d.patterns) :
    p = .blanks ∨ p = .word ∨ p = .anyChar ∨ ∃ a ∈ formMarks, p.mark? = some a := by
  have hmark : p = .blanks ∨ p = .word ∨ p = .anyChar ∨
      p.mark?.any (formMarks.contains ·) = true := by
    revert p
    cases d <;> decide
  refine hmark.imp_right (.imp_right (.imp_right fun h => ?_))
  obtain ⟨a, ha, hmem⟩ := (Option.any_eq_true _ _).1 h
  exact ⟨a, by simpa using hmem, ha⟩

section

variable {d : Dialect} {c : Char} {s : List Char}

/-- The text that a form covers is a word without its carriage returns if and only if it is. -/
theorem Pattern.keepsWord {p : Pattern} (hp : p ∈ d.patterns) (hc : c ≠ '\r') (h : Paired s) :
    KeepsWord withoutReturns ((c :: s).take (p.extent (c :: s))) := by
  cases hb : p.mayBegin c with
  | false =>
    rw [extent_eq_zero s hb]
    exact keepsWord_of_notMem (by simp)
  | true =>
    obtain rfl | rfl | rfl | ⟨a, ha, hp⟩ := Dialect.marked hp
    · rw [extent, ← List.prefix_iff_eq_take.1 (List.takeWhile_prefix isBlank)]
      exact keepsWord_takeWhile_isBlank (.char hc h)
    · have htake := List.prefix_iff_eq_take.1
        (List.takeWhile_prefix (l := s) fun d => isWordChar d || d == '$')
      have hword : isWordChar c = true := hb
      rw [extent, if_pos hword, Nat.add_comm, List.take_succ_cons, ← htake]
      refine keepsWord_of_notMem fun hm => ?_
      have hr := List.all_eq_true.1 List.all_takeWhile '\r'
        ((List.mem_cons.1 hm).resolve_left (Ne.symm hc))
      exact absurd hr (by decide)
    · exact keepsWord_of_notMem (by simpa [extent] using Ne.symm hc)
    · obtain rfl := eq_mark hp hb
      cases p.extent (c :: s) with
      | zero => exact keepsWord_of_notMem (by simp)
      | succ n => exact keepsWord_of_mark ha (by simp)

theorem take_withoutReturns (n : Nat) (s : List Char) :
    (withoutReturns s).take (withoutReturns (s.take n)).length = withoutReturns (s.take n) := by
  have h := withoutReturns_append (s.take n) (s.drop n)
  rw [List.take_append_drop] at h
  rw [h, List.take_left]

theorem drop_withoutReturns (n : Nat) (s : List Char) :
    (withoutReturns s).drop (withoutReturns (s.take n)).length = withoutReturns (s.drop n) := by
  have h := withoutReturns_append (s.take n) (s.drop n)
  rw [List.take_append_drop] at h
  rw [h, List.drop_left]

theorem lexeme_nil (s : List Char) : lexeme [] s = (.other, 1) := rfl

/-- The token at the front loses its carriage returns, and it spells the same word. -/
structure LexesAlike (forms : List Pattern) (s : List Char) : Prop where
  lexeme : lexeme forms (withoutReturns s) =
    ((lexeme forms s).1, (withoutReturns (s.take (lexeme forms s).2)).length)
  word : KeepsWord withoutReturns (s.take (SqlScript.lexeme forms s).2)

theorem lexesAlike_cons (hc : c ≠ '\r') (forms : List Pattern)
    (hforms : ∀ p ∈ forms, Carries p.extent (c :: s) ∧
      KeepsWord withoutReturns ((c :: s).take (p.extent (c :: s)))) :
    LexesAlike forms (c :: s) := by
  induction forms with
  | nil =>
    have hone : withoutReturns ((c :: s).take 1) = [c] := by simp [withoutReturns_cons hc]
    exact ⟨by rw [lexeme_nil, lexeme_nil, hone]; rfl,
      keepsWord_of_notMem (by simpa [lexeme_nil] using Ne.symm hc)⟩
  | cons p forms ih =>
    obtain ⟨⟨hext, hword⟩, hrest⟩ := List.forall_mem_cons.1 hforms
    have ih := ih hrest
    have htake := take_withoutReturns (p.extent (c :: s)) (c :: s)
    have hext : p.extent (withoutReturns (c :: s)) = _ := hext
    rw [← hext] at htake
    have hkind : p.kindOf (withoutReturns ((c :: s).take (p.extent (c :: s)))) =
        p.kindOf ((c :: s).take (p.extent (c :: s))) := by
      rw [Pattern.kindOf, Pattern.kindOf, hword.word]
    have hpos : 0 < p.extent (withoutReturns (c :: s)) ↔ 0 < p.extent (c :: s) := by
      rw [hext]
      cases p.extent (c :: s) <;> simp [withoutReturns_cons hc]
    constructor
    · rw [lexeme_cons, lexeme_cons, htake, hkind]
      simp only [hpos]
      split
      · rw [hext]
      · exact ih.lexeme
    · rw [lexeme_cons]
      split
      · exact hword
      · exact ih.word

theorem lexesAlike (d : Dialect) (h : Paired s) (hs : s ≠ []) : LexesAlike d.patterns s := by
  cases h with
  | nil => contradiction
  | char hc h =>
    exact lexesAlike_cons hc _ fun p hp =>
      ⟨Pattern.carries_extent (Dialect.lineless hp) hc h, Pattern.keepsWord hp hc h⟩
  | @pair s h =>
    have hblank {c : Char} (r : List Char) (hc : isBlank c = true) : lexeme d.patterns (c :: r) =
        (.whitespace, ((c :: r).takeWhile isBlank).length) := by
      have hpos : 0 < Pattern.blanks.extent (c :: r) := by simp [Pattern.extent, hc]
      rw [d.patterns_eq, lexeme_cons, if_pos hpos]
      rfl
    have hs : Paired ('\r' :: '\n' :: s) := .pair h
    have hrun := carries_takeWhile (P := isBlank) hs fun _ => by decide
    constructor
    · rw [hblank _ (by decide), ← hrun]
      exact hblank _ (by decide)
    · rw [hblank _ (by decide), ← List.prefix_iff_eq_take.1 (List.takeWhile_prefix isBlank)]
      exact keepsWord_takeWhile_isBlank hs

end

/-- The offset of a character of the script once the carriage returns before it are gone. -/
def unreturned (script : List Char) (i : Int) : Int := i - (script.take i.toNat).count '\r'

theorem length_withoutReturns (s : List Char) :
    (withoutReturns s).length + s.count '\r' = s.length := by
  induction s with
  | nil => rfl
  | cons c s ih =>
    by_cases hc : c = '\r'
    · rw [hc, withoutReturns_return, List.count_cons_self, List.length_cons, ← ih, Nat.add_assoc]
    · rw [withoutReturns_cons hc, List.count_cons_of_ne hc, List.length_cons, List.length_cons,
        Nat.add_right_comm, ih]

theorem unreturned_natCast {script : List Char} {n : Nat} (hn : n ≤ script.length) :
    unreturned script n = (withoutReturns (script.take n)).length := by
  have h := length_withoutReturns (script.take n)
  rw [List.length_take, Nat.min_eq_left hn] at h
  rw [unreturned, Int.toNat_natCast]
  omega

theorem tokensFrom_withoutReturns (d : Dialect) {script s : List Char} {i : Nat} (h : Paired s)
    (hs : script.drop i = s) (hi : i ≤ script.length) :
    tokensFrom d.patterns (withoutReturns (script.take i)).length (withoutReturns s) =
      (tokensFrom d.patterns i s).map (·.recast withoutReturns (unreturned script)) := by
  fun_induction tokensFrom d.patterns i s with
  | case1 i => simp
  | case2 i c r n ih =>
    have hne : withoutReturns (c :: r) ≠ [] := by
      cases h with
      | char hc _ => simp [withoutReturns_cons hc]
      | pair => simp
    have hlex := (lexesAlike d h (List.cons_ne_nil c r)).lexeme
    have hle : i + n ≤ script.length := by
      have hn := lexeme_le d.patterns (List.cons_ne_nil c r)
      have hlen := congrArg List.length hs
      rw [List.length_drop] at hlen
      omega
    have hstop : (withoutReturns (script.take i)).length +
        (withoutReturns ((c :: r).take n)).length =
        (withoutReturns (script.take (i + n))).length := by
      rw [List.take_add, hs, withoutReturns_append, List.length_append]
    have hfront : frontToken d.patterns (withoutReturns (script.take i)).length
        (withoutReturns (c :: r)) =
        (frontToken d.patterns i (c :: r)).recast withoutReturns (unreturned script) := by
      have hend : unreturned script ((i : Int) + (lexeme d.patterns (c :: r)).2) =
          (withoutReturns (script.take i)).length +
            (withoutReturns ((c :: r).take (lexeme d.patterns (c :: r)).2)).length := by
        have hplace := unreturned_natCast hle
        rw [← hstop] at hplace
        simpa using hplace
      simp only [frontToken, hlex, take_withoutReturns, Token.recast, unreturned_natCast hi, hend]
    rw [tokensFrom_of_ne_nil _ _ hne, hlex, hfront, List.map_cons, drop_withoutReturns, hstop,
      ih (h.drop n) (by rw [← List.drop_drop, hs]) hle]

theorem tokenize_withoutReturns (d : Dialect) {script : List Char} (h : Paired script) :
    tokenize d (withoutReturns script) =
      (tokenize d script).map (·.recast withoutReturns (unreturned script)) :=
  tokensFrom_withoutReturns d h List.drop_zero (Nat.zero_le _)

theorem keepsWord_of_mem {d : Dialect} {script : List Char} (h : Paired script) {t : Token}
    (ht : t ∈ tokenize d script) : KeepsWord withoutReturns t.text := by
  obtain ⟨k, hk, rfl⟩ := mem_tokensFrom ht
  exact (lexesAlike d (h.drop k) (by simpa using hk)).word

end SqlScript
