/-! Sorted code-point tables, looked up by bisection. -/

namespace Stencil.Unicode

/-- The code points from `lo` to `hi`, both included. -/
structure CodeRange where
  lo : Nat
  hi : Nat
deriving Repr, DecidableEq

/-- Code points `start`, `start + stride`, …, `count` of them, each mapped to itself plus
`shift`. Alternating upper and lower case letters give stride two. -/
structure CaseRun where
  start : Nat
  count : Nat
  stride : Nat
  shift : Int
deriving Repr, DecidableEq

/-- The index of the last entry whose key is at most `n`, in an array sorted by key. -/
def lastAtMost {α : Type} (key : α → Nat) (table : Array α) (n : Nat) : Option α :=
  go 0 table.size
where
  go (lo hi : Nat) : Option α :=
    if lo + 1 < hi then
      let mid := (lo + hi) / 2
      match table[mid]? with
      | some entry => if key entry ≤ n then go mid hi else go lo mid
      | none => none
    else
      match table[lo]? with
      | some entry => if lo < hi ∧ key entry ≤ n then some entry else none
      | none => none
  termination_by hi - lo

def CodeRange.contains (ranges : Array CodeRange) (n : Nat) : Bool :=
  match lastAtMost CodeRange.lo ranges n with
  | some r => n ≤ r.hi
  | none => false

def CaseRun.image? (run : CaseRun) (n : Nat) : Option Nat :=
  if run.start ≤ n ∧ (n - run.start) % run.stride = 0 ∧ (n - run.start) / run.stride < run.count then
    some (Int.toNat (n + run.shift))
  else none

/-- The image of `n` under the runs, which are sorted by start and do not overlap. -/
def CaseRun.lookup (runs : Array CaseRun) (n : Nat) : Option Nat :=
  (lastAtMost CaseRun.start runs n).bind (·.image? n)


end Stencil.Unicode
