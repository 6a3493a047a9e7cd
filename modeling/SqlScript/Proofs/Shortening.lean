import Mathlib.Data.List.Chain
import SqlScript.Text.Words

/-!
Texts that are shortened for a table. The words of a text make a line whose only white space are
single spaces between them. A line that is cut, with the marks of the cut at its end, is again made
of words; so what has been shortened stays as it is when it is shortened once more.
-/

set_option autoImplicit false

namespace SqlScript.Text

/-! ## Words -/

structure IsWord (w : List Char) : Prop where
  nonempty : w ≠ []
  solid : ∀ c ∈ w, isBlank c = false

variable {c : Char} {s w p line : List Char} {ws : List (List Char)} {width : Int}

theorem words_blank (h : isBlank c = true) : words (c :: s) = words s := by
  cases s with
  | nil => simp [words, h]
  | cons d s => simp [words, h]

theorem words_word (h : IsWord w) (hs : ∀ d, s.head? = some d → isBlank d = true) :
    words (w ++ s) = w :: words s := by
  obtain ⟨hne, hsolid⟩ := h
  induction w with
  | nil => contradiction
  | cons c w ih =>
    have hc : isBlank c = false := hsolid c List.mem_cons_self
    cases w with
    | nil =>
      cases s with
      | nil => simp [words, hc]
      | cons d s => simp [words, hc, hs d rfl]
    | cons d w =>
      have hd : isBlank d = false := hsolid d (by simp)
      have hrest := ih (by simp) fun e he => hsolid e (List.mem_cons_of_mem c he)
      rw [List.cons_append] at hrest
      simp [words, hc, hd, hrest]

theorem isWord_singleton (hc : isBlank c = false) : IsWord [c] :=
  ⟨by simp, by simpa using hc⟩

theorem IsWord.cons (hc : isBlank c = false) (h : IsWord w) : IsWord (c :: w) :=
  ⟨by simp, List.forall_mem_cons.2 ⟨hc, h.solid⟩⟩

theorem isWord_words (s : List Char) : ∀ w ∈ words s, IsWord w := by
  fun_induction words s with
  | case1 => simp
  | case2 c hc => simp
  | case3 c hc => simpa using isWord_singleton (Bool.eq_false_iff.2 hc)
  | case4 c d r hc ih => exact ih
  | case5 c d r hc hd ih =>
    exact List.forall_mem_cons.2 ⟨isWord_singleton (Bool.eq_false_iff.2 hc), ih⟩
  | case6 c d r hc hd hwords ih => simpa using isWord_singleton (Bool.eq_false_iff.2 hc)
  | case7 c d r hc hd w ws hwords ih =>
    rw [hwords, List.forall_mem_cons] at ih
    exact List.forall_mem_cons.2 ⟨ih.1.cons (Bool.eq_false_iff.2 hc), ih.2⟩

theorem flatten_words (s : List Char) : (words s).flatten = s.filter (!isBlank ·) := by
  fun_induction words s with
  | case1 => rfl
  | case2 c hc => simp [hc]
  | case3 c hc => simp [hc]
  | case4 c d r hc ih => simpa [hc] using ih
  | case5 c d r hc hd ih => simpa [hc] using ih
  | case6 c d r hc hd hwords ih => simp_all
  | case7 c d r hc hd w ws hwords ih => simp_all

/-! ## Lines -/

@[simp] theorem unwords_nil : unwords [] = [] := rfl

@[simp] theorem unwords_singleton (w : List Char) : unwords [w] = w := List.intercalate_singleton

@[simp] theorem unwords_cons_cons (v w : List Char) (ws : List (List Char)) :
    unwords (v :: w :: ws) = v ++ ' ' :: unwords (w :: ws) := by
  simp [unwords]

/-- A line is made of words, with a single space between two of them. -/
def IsLine (line : List Char) : Prop := ∃ ws, (∀ w ∈ ws, IsWord w) ∧ line = unwords ws

theorem unwords_ne_nil (h : IsWord w) : unwords (w :: ws) ≠ [] := by
  cases ws with
  | nil => simpa using h.nonempty
  | cons v ws => simp

/-- The words of a line are those that it is made of. -/
theorem words_unwords (h : ∀ w ∈ ws, IsWord w) : words (unwords ws) = ws := by
  induction ws with
  | nil => rfl
  | cons v ws ih =>
    obtain ⟨hv, hws⟩ := List.forall_mem_cons.1 h
    cases ws with
    | nil =>
      have hword := words_word (s := []) hv (by simp)
      rw [List.append_nil] at hword
      rw [unwords_singleton, hword]
      rfl
    | cons w ws =>
      have hspace : isBlank ' ' = true := by decide
      rw [unwords_cons_cons, words_word hv (by simp [hspace]), words_blank hspace, ih hws]

theorem isLine_unwords_words (s : List Char) : IsLine (unwords (words s)) :=
  ⟨_, isWord_words s, rfl⟩

theorem IsLine.unwords_words (h : IsLine line) : unwords (words line) = line := by
  obtain ⟨ws, hws, rfl⟩ := h
  rw [words_unwords hws]

theorem IsLine.behind (hw : IsWord w) (h : IsLine line) (hne : line ≠ []) :
    IsLine (w ++ ' ' :: line) := by
  obtain ⟨ws, hws, rfl⟩ := h
  cases ws with
  | nil => contradiction
  | cons v ws =>
    exact ⟨w :: v :: ws, List.forall_mem_cons.2 ⟨hw, hws⟩, (unwords_cons_cons w v ws).symm⟩

theorem IsWord.append (h : IsWord w) (hp : ∀ c ∈ p, isBlank c = false) : IsWord (p ++ w) :=
  ⟨by simp [h.nonempty], List.forall_mem_append.2 ⟨hp, h.solid⟩⟩

/-- A line that is cut anywhere, and a word where it is cut, are a line. -/
theorem IsLine.cut (h : IsLine line) (hw : IsWord w) (hp : p <+: line) : IsLine (p ++ w) := by
  obtain ⟨ws, hws, rfl⟩ := h
  induction ws generalizing p with
  | nil =>
    obtain rfl := List.prefix_nil.1 hp
    exact ⟨[w], by simpa using hw, by simp⟩
  | cons v ws ih =>
    obtain ⟨hv, hrest⟩ := List.forall_mem_cons.1 hws
    -- the cut within the first word leaves one word
    have hwithin {q : List Char} (hq : q <+: v) : IsLine (q ++ w) :=
      ⟨[q ++ w], by simpa using hw.append fun c hc => hv.solid c (hq.subset hc), by simp⟩
    cases ws with
    | nil => exact hwithin (by simpa using hp)
    | cons u ws =>
      rw [unwords_cons_cons] at hp
      obtain ⟨t, ht⟩ := hp
      rcases List.append_eq_append_iff.1 ht with ⟨b, rfl, -⟩ | ⟨b, rfl, hb⟩
      · exact hwithin (List.prefix_append p b)
      · cases b with
        | nil => simpa using hwithin (List.prefix_refl v)
        | cons a q =>
          obtain ⟨rfl, hq⟩ := List.cons.inj hb
          have hline : IsLine (q ++ w) := ih hrest ⟨t, hq.symm⟩
          rw [List.append_assoc, List.cons_append]
          exact hline.behind hv (by simp [hw.nonempty])

structure SingleSpaced (line : List Char) : Prop where
  spaces : ∀ c ∈ line, isBlank c = true → c = ' '
  single : line.IsChain fun a b => ¬ (isBlank a = true ∧ isBlank b = true)
  head : ∀ c, line.head? = some c → isBlank c = false
  last : ∀ c, line.getLast? = some c → isBlank c = false

theorem IsWord.singleSpaced (h : IsWord w) : SingleSpaced w where
  spaces c hc hb := by simp [h.solid c hc] at hb
  single := by
    refine List.Pairwise.isChain (List.pairwise_of_forall_mem_list fun a ha b _ hab => ?_)
    simp [h.solid a ha] at hab
  head c hc := h.solid c (List.mem_of_head? hc)
  last c hc := h.solid c (List.mem_of_getLast? hc)

theorem SingleSpaced.behind (hv : IsWord w) (h : SingleSpaced line) (hne : line ≠ []) :
    SingleSpaced (w ++ ' ' :: line) where
  spaces c hc hb := by
    rcases List.mem_append.1 hc with hc | hc
    · exact hv.singleSpaced.spaces c hc hb
    · rcases List.mem_cons.1 hc with rfl | hc
      · rfl
      · exact h.spaces c hc hb
  single := by
    refine List.isChain_append.2 ⟨hv.singleSpaced.single, List.isChain_cons.2 ⟨?_, h.single⟩, ?_⟩
    · intro b hb hab
      simp [h.head b hb] at hab
    · intro a ha _ _ hab
      simp [hv.singleSpaced.last a ha] at hab
  head c hc := by
    rw [List.head?_append_of_ne_nil _ hv.nonempty] at hc
    exact hv.singleSpaced.head c hc
  last c hc := by
    rw [List.getLast?_append_of_ne_nil _ (by simp), List.getLast?_cons_of_ne_nil hne] at hc
    exact h.last c hc

theorem IsLine.singleSpaced (h : IsLine line) : SingleSpaced line := by
  obtain ⟨ws, hws, rfl⟩ := h
  induction ws with
  | nil => exact ⟨by simp, by simp, by simp, by simp⟩
  | cons v ws ih =>
    obtain ⟨hv, hrest⟩ := List.forall_mem_cons.1 hws
    cases ws with
    | nil => simpa using hv.singleSpaced
    | cons u ws =>
      rw [unwords_cons_cons]
      exact (ih hrest).behind hv (unwords_ne_nil (hrest u List.mem_cons_self))

theorem isWord_ellipsis : IsWord ellipsis where
  nonempty := by decide
  solid c hc := by
    obtain rfl : c = '.' := by simpa [ellipsis] using hc
    decide

theorem shorten_whole (h : ((unwords (words s)).length : Int) ≤ width) :
    shorten s width = unwords (words s) := by
  simp only [shorten, if_pos h]

theorem shorten_cut (hwidth : 3 ≤ width) (h : width < (unwords (words s)).length) :
    shorten s width = (unwords (words s)).take (width - 3).toNat ++ ellipsis := by
  obtain ⟨n, hn⟩ := Int.eq_ofNat_of_zero_le (a := width - 3) (by omega)
  have hle : n ≤ (unwords (words s)).length := by omega
  have hslice : slice (unwords (words s)) 0 n = (unwords (words s)).take n :=
    slice_natCast (unwords (words s)) 0 n hle
  simp only [shorten, if_neg (Int.not_le.2 h), hn, hslice, Int.toNat_natCast]

theorem isLine_shorten (hwidth : 3 ≤ width) (s : List Char) : IsLine (shorten s width) := by
  by_cases h : ((unwords (words s)).length : Int) ≤ width
  · rw [shorten_whole h]
    exact isLine_unwords_words s
  · rw [shorten_cut hwidth (Int.not_le.1 h)]
    exact (isLine_unwords_words s).cut isWord_ellipsis (List.take_prefix _ _)

theorem length_shorten (hwidth : 3 ≤ width) (h : width < (unwords (words s)).length) :
    ((shorten s width).length : Int) = width := by
  rw [shorten_cut hwidth h, List.length_append, List.length_take]
  simp only [ellipsis, List.length_cons, List.length_nil]
  omega

/-- What becomes of a text that is shortened to a width. -/
structure Shortened (s : List Char) (width : Int) (short : List Char) : Prop where
  bounded : (short.length : Int) ≤ width
  whole : ((unwords (words s)).length : Int) ≤ width → short = unwords (words s)
  cut : width < (unwords (words s)).length →
    (short.length : Int) = width ∧ ∃ p, p <+: unwords (words s) ∧ short = p ++ ellipsis
  kept : (words s).flatten = s.filter (!isBlank ·)
  spaced : SingleSpaced short
  again : shorten short width = short

theorem shortened (s : List Char) {width : Int} (h : 3 ≤ width) :
    Shortened s width (shorten s width) := by
  have hline := isLine_shorten h s
  have hbounded : ((shorten s width).length : Int) ≤ width := by
    by_cases hfits : ((unwords (words s)).length : Int) ≤ width
    · rwa [shorten_whole hfits]
    · exact Int.le_of_eq (length_shorten h (Int.not_le.1 hfits))
  exact {
    bounded := hbounded
    whole := shorten_whole
    cut := fun hlong => ⟨length_shorten h hlong, _, List.take_prefix _ _, shorten_cut h hlong⟩
    kept := flatten_words s
    spaced := hline.singleSpaced
    again := by
      have hsame := hline.unwords_words
      rw [shorten_whole (by rwa [hsame]), hsame] }

/-- The cut falls behind a space. -/
theorem shortened_behind_space :
    (3 : Int) ≤ 5 ∧ shorten " a\n\tb cdefg\r".toList 5 = "a ...".toList ∧
      Shortened " a\n\tb cdefg\r".toList 5 (shorten " a\n\tb cdefg\r".toList 5) :=
  ⟨by decide, by decide, shortened _ (by decide)⟩

end SqlScript.Text
