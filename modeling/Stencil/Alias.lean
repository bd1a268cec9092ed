import Stencil.Data.Path
import Stencil.Text.Case
/-! Aliases: short keys standing for a path into the data or for a fixed value, compared in lower
case. -/

namespace Stencil

/-- What an alias stands for. -/
inductive AliasTarget where
  | path (path : String)
  | value (v : Json)
deriving Repr

/-- The value a target gives for the data, if any. -/
def AliasTarget.resolve (data : Json) : AliasTarget → Option Json
  | .path p => Data.resolvePath p data
  | .value v => some v

/-- Aliases by lowercased key, each key once. -/
structure AliasTable where
  entries : List (String × AliasTarget)

namespace AliasTable

def empty : AliasTable := ⟨[]⟩

/-- The table with `key` standing for `target`, replacing an earlier target of the key. -/
def add (t : AliasTable) (key : String) (target : AliasTarget) : AliasTable :=
  let k := Text.toLower key
  ⟨(k, target) :: t.entries.filter (·.1 != k)⟩

def remove (t : AliasTable) (key : String) : AliasTable :=
  let k := Text.toLower key
  ⟨t.entries.filter (·.1 != k)⟩

def isEmpty (t : AliasTable) : Bool := t.entries.isEmpty

/-- The target of `key`; an empty table answers at once. -/
def get? (t : AliasTable) (key : String) : Option AliasTarget :=
  if t.isEmpty then none
  else
    let k := Text.toLower key
    (t.entries.find? (·.1 == k)).map (·.2)

def size (t : AliasTable) : Nat := t.entries.length

theorem get?_eq_find? (t : AliasTable) (key : String) :
    t.get? key = (t.entries.find? (·.1 == Text.toLower key)).map (·.2) := by
  unfold get?
  split
  · rename_i empty
    have none_left : t.entries = [] := List.isEmpty_iff.mp empty
    simp [none_left]
  · rfl

private theorem find?_filter_ne {k q : String} (different : q ≠ k)
    (entries : List (String × AliasTarget)) :
    (entries.filter (·.1 != k)).find? (·.1 == q) = entries.find? (·.1 == q) := by
  induction entries with
  | nil => rfl
  | cons entry rest ih =>
    by_cases same : entry.1 = k
    · have skip : (k == q) = false := by simpa using Ne.symm different
      simp [same, skip, ih]
    · simp [same, List.find?_cons, ih]

theorem get?_add (t : AliasTable) (key query : String) (target : AliasTarget) :
    (t.add key target).get? query =
      if Text.toLower query = Text.toLower key then some target else t.get? query := by
  rw [get?_eq_find?, get?_eq_find?]
  unfold add
  by_cases same : Text.toLower query = Text.toLower key
  · simp [same]
  · simp only [same, if_false, List.find?_cons]
    have : (Text.toLower key == Text.toLower query) = false := by
      simpa using Ne.symm same
    simp only [this]
    rw [find?_filter_ne same]

theorem get?_remove (t : AliasTable) (key query : String) :
    (t.remove key).get? query =
      if Text.toLower query = Text.toLower key then none else t.get? query := by
  rw [get?_eq_find?, get?_eq_find?]
  unfold remove
  by_cases same : Text.toLower query = Text.toLower key
  · simp only [same, if_true]
    rw [Option.map_eq_none_iff, List.find?_eq_none]
    intro entry member
    have kept := (List.mem_filter.mp member).2
    simp only [bne_iff_ne, ne_eq] at kept
    simpa using kept
  · simp only [same, if_false]
    rw [find?_filter_ne same]

end AliasTable

end Stencil
