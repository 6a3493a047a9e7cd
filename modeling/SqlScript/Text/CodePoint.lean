/-!
Finite descriptions of sets of code points and of maps between them. A set is a list of closed
ranges; a map is a list of ranges that move by one offset each.
-/

set_option autoImplicit false

namespace SqlScript.Text

abbrev CodeRange := Nat × Nat

def inRanges (table : List CodeRange) (c : Char) : Bool :=
  table.any fun r => r.1 ≤ c.toNat && c.toNat ≤ r.2

theorem inRanges_iff (table : List CodeRange) (c : Char) :
    inRanges table c = true ↔ ∃ r ∈ table, r.1 ≤ c.toNat ∧ c.toNat ≤ r.2 := by
  simp [inRanges]

theorem inRanges_apart {table other : List CodeRange}
    (h : ∀ r ∈ table, ∀ q ∈ other, r.2 < q.1 ∨ q.2 < r.1) {c : Char}
    (hc : inRanges table c = true) : inRanges other c = false := by
  rw [Bool.eq_false_iff]
  intro hother
  obtain ⟨r, hr, hlo, hhi⟩ := (inRanges_iff _ c).1 hc
  obtain ⟨q, hq, hlo', hhi'⟩ := (inRanges_iff _ c).1 hother
  have hapart := h r hr q hq
  omega

/-- Every `stride`-th code point from `first` to `last` moves by `offset`. -/
structure Shift where
  first : Nat
  last : Nat
  stride : Nat
  offset : Int
  deriving DecidableEq, Repr

def Shift.image? (s : Shift) (n : Nat) : Option Nat :=
  if s.first ≤ n ∧ n ≤ s.last ∧ (n - s.first) % s.stride = 0 then some (n + s.offset).toNat
  else none

def shifted (table : List Shift) (c : Char) : Char :=
  match table.findSome? (·.image? c.toNat) with
  | some n => Char.ofNat n
  | none => c

end SqlScript.Text
