import SqlScript.Proofs.Excerpts
import SqlScript.Proofs.Returns

/-!
Scripts with a carriage return before each line feed. They fall apart as they do without the
carriage returns: into the same statements, with the offsets that their tokens have then, or with
the same refusal.
-/

set_option autoImplicit false

namespace SqlScript

open Text

theorem unreturned_pred {a : List Char} (ha : a.getLast? ≠ some '\r') (x : List Char) :
    unreturned (a ++ x) (a.length - 1) = (withoutReturns a).length - 1 := by
  obtain rfl | ⟨b, c, rfl⟩ := a.eq_nil_or_concat
  · simp [unreturned]
  · rw [List.concat_eq_append] at ha ⊢
    have hc : c ≠ '\r' := by simpa using ha
    have hlast : ((b ++ [c]).length : Int) - 1 = b.length := by simp
    have hlen : b.length ≤ (b ++ [c] ++ x).length := by simp
    rw [hlast, unreturned_natCast hlen, List.append_assoc, List.take_left, withoutReturns_append,
      withoutReturns_cons hc]
    simp

theorem unreturned_length (a x : List Char) :
    unreturned (a ++ x) a.length = (withoutReturns a).length := by
  rw [unreturned_natCast (by simp), List.take_left]

theorem unreturned_semicolon {d : Dialect} {script : List Char} {z : Token}
    (hz : z ∈ tokenize d script) (hk : z.kind = .semicolon) :
    unreturned script z.stop - 1 = unreturned script (z.stop - 1) := by
  obtain ⟨k, hlt, rfl⟩ := mem_tokensFrom hz
  obtain ⟨⟨r, hr⟩, hlen⟩ := lexeme_kind_semicolon (s := script.drop k) hk
  have hscript : script = script.take k ++ [';'] ++ r := by
    rw [List.append_assoc, List.singleton_append, ← hr, List.take_append_drop]
  have hstop : (frontToken d.patterns (0 + k) (script.drop k)).stop =
      (script.take k ++ [';']).length := by
    simp only [frontToken, hlen, List.length_append, List.length_take, List.length_singleton]
    omega
  rw [hstop]
  generalize script.take k = a at hscript
  rw [hscript, unreturned_pred (by simp), unreturned_length]

theorem lastOffset_withoutReturns {script : List Char} (h : Paired script) :
    lastOffset (withoutReturns script) = unreturned script (lastOffset script) := by
  have hlast := unreturned_pred h.getLast?_ne []
  rw [List.append_nil] at hlast
  exact hlast.symm

def Parsed.withoutReturns (script : List Char) (p : Parsed) : Parsed where
  start := p.start
  stop := unreturned script p.stop
  body := p.body.map (·.relocate (unreturned script))
  tokens := p.tokens.map (·.recast Text.withoutReturns (unreturned script))

theorem parse_withoutReturns (set : Settings) {script : List Char} (h : Paired script) :
    parse set (withoutReturns script) = ((parse set script).map (·.withoutReturns script)).mapError
      (·.recast withoutReturns (unreturned script)) := by
  have hbody := statementsFrom_recast (g := unreturned script) set (lastOffset script) none
    (fun t ht => keepsWord_of_mem h ht) (fun t ht => unreturned_semicolon (d := set.dialect) ht)
  rw [Option.map_none] at hbody
  rw [parse_eq, parse_eq, tokenize_withoutReturns _ h, lastOffset_withoutReturns h, hbody]
  cases statementsFrom set (lastOffset script) none (tokenize set.dialect script) <;> rfl

def Finding.withoutReturns (script : List Char) (f : Finding) : Finding :=
  { f with
    start := unreturned script f.start
    stop := unreturned script f.stop
    text := Text.withoutReturns f.text }

theorem exists_text_of_parse {set : Settings} {script : List Char} {p : Parsed} {s : Statement}
    (h : Paired script) (hp : parse set script = .ok p) (hs : s ∈ p.body) :
    ∃ a m b, script = a ++ m ++ b ∧ s.start = a.length ∧ s.stop = (a ++ m).length - 1 ∧
      (a ++ m).getLast? ≠ some '\r' := by
  obtain ⟨pre, t, us, post, hts, hstart, hr, hends⟩ := exists_reads_of_parse hp hs
  have hscript : script = textOf pre ++ textOf (t :: us) ++ textOf post := by
    rw [← textOf_tokenize set.dialect script, hts]
    simp
  refine ⟨_, _, _, hscript, hstart, ?_, ?_⟩
  · have hstop := hr.tiles.stop_eq
    rw [List.length_append]
    omega
  · rcases hends with rfl | ⟨vs, z, hvs, hz⟩
    · rw [textOf_nil, List.append_nil] at hscript
      rw [← hscript]
      exact h.getLast?_ne
    · have hmem : z ∈ tokenize set.dialect script := by simp [hts, hvs]
      rw [hvs, textOf_append, textOf_cons, (semicolon_token hmem hz).1]
      simp

theorem Finding.ofStatement_withoutReturns {set : Settings} {script : List Char} {p : Parsed}
    {s : Statement} (h : Paired script) (hp : parse set script = .ok p) (hs : s ∈ p.body) :
    ofStatement (Text.withoutReturns script) (s.relocate (unreturned script)) =
      (ofStatement script s).withoutReturns script := by
  obtain ⟨a, m, b, rfl, hstart, hstop, hlast⟩ := exists_text_of_parse h hp hs
  have hbegin : unreturned (a ++ m ++ b) s.start = (Text.withoutReturns a).length := by
    rw [hstart, List.append_assoc, unreturned_length]
  have hend : unreturned (a ++ m ++ b) s.stop + 1 =
      unreturned (a ++ m ++ b) s.start + (Text.withoutReturns m).length := by
    rw [hbegin, hstop, unreturned_pred hlast, withoutReturns_append, List.length_append]
    omega
  have htext : Text.slice (a ++ m ++ b) s.start (s.stop + 1) = m :=
    Text.slice_between a m b hstart (by rw [hstop, hstart, List.length_append]; omega)
  have hslice := Text.slice_between _ _ (Text.withoutReturns b) hbegin hend
  rw [← withoutReturns_append, ← withoutReturns_append] at hslice
  simp only [ofStatement, Finding.withoutReturns, Statement.relocate, hslice, htext]

theorem identify_withoutReturns {set : Settings} {script : List Char} {fs : List Finding}
    (h : Paired script) (hfs : identify set script = .ok fs) :
    identify set (withoutReturns script) = .ok (fs.map (·.withoutReturns script)) := by
  cases hp : parse set script with
  | error e => simp [identify, hp, bind, Except.bind] at hfs
  | ok p =>
    rw [identify, hp] at hfs
    obtain rfl : findings script p.body = fs := Except.ok.inj hfs
    have hbody : (p.withoutReturns script).body = p.body.map (·.relocate (unreturned script)) := rfl
    have hfindings : findings (withoutReturns script) (p.withoutReturns script).body =
        (findings script p.body).map (·.withoutReturns script) := by
      rw [findings, findings, hbody, List.map_map, List.map_map]
      exact List.map_congr_left fun s hs => Finding.ofStatement_withoutReturns h hp hs
    rw [identify, parse_withoutReturns set h, hp]
    exact congrArg Except.ok hfindings

/-- How a script is taken apart once each pair of a carriage return and a line feed is a line feed:
into tokens, statements and findings that have their new offsets and no carriage returns in their
texts, and nothing else about them is new. -/
structure LineBlind (set : Settings) (script : List Char) : Prop where
  tokens : tokenize set.dialect (unifyNewlines script) =
    (tokenize set.dialect script).map (·.recast withoutReturns (unreturned script))
  accepted : ∀ p, parse set script = .ok p →
    parse set (unifyNewlines script) = .ok (p.withoutReturns script)
  refused : ∀ e, parse set script = .error e →
    parse set (unifyNewlines script) = .error (e.recast withoutReturns (unreturned script)) ∧
      (e.recast withoutReturns (unreturned script)).kind = e.kind
  found : ∀ fs, identify set script = .ok fs →
    identify set (unifyNewlines script) = .ok (fs.map (·.withoutReturns script))

/-- Whether lines end with a line feed alone or behind a carriage return counts for nothing. -/
theorem lineBlind (set : Settings) (script : List Char)
    (h : ∀ a b, script = a ++ '\r' :: b → b.head? = some '\n') : LineBlind set script := by
  have hpairs := Paired.iff_forall.2 h
  have hparse := parse_withoutReturns set hpairs
  rw [← hpairs.unifyNewlines_eq] at hparse
  refine ⟨?_, fun p hp => ?_, fun e he => ⟨?_, ?_⟩, fun fs hfs => ?_⟩
  · rw [hpairs.unifyNewlines_eq, tokenize_withoutReturns _ hpairs]
  · rw [hparse, hp]
    rfl
  · rw [hparse, he]
    rfl
  · cases e <;> rfl
  · rw [hpairs.unifyNewlines_eq, identify_withoutReturns hpairs hfs]

/-- Carriage returns at the end of a comment, behind a backslash in a string, between two statements
and at the end of the script. -/
theorem lineBlind_escaped :
    let script := "SELECT -- a\r\n'\\\r\n;';\r\nDROP\r\nTABLE t\r\n".toList
    (∀ a b, script = a ++ '\r' :: b → b.head? = some '\n') ∧
      LineBlind { dialect := .mysql } script := by
  intro script
  have h : ∀ a b, script = a ++ '\r' :: b → b.head? = some '\n' :=
    Paired.iff_forall.1 (by decide)
  exact ⟨h, lineBlind _ script h⟩

end SqlScript
