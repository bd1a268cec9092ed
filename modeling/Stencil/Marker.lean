import Stencil.Unicode.SimpleFold
/-! Placeholder markers, matched character by character after simple case folding. -/

namespace Stencil

/-- A placeholder marker. -/
structure Marker where
  chars : List Char
  nonempty : chars ≠ []

/-- A match of a marker in some text: what comes before, the match as written, what follows. -/
structure Occurrence where
  before : List Char
  found : List Char
  after : List Char
deriving Repr, DecidableEq

namespace Marker

def ofString? (s : String) : Option Marker :=
  if h : s.toList = [] then none else some ⟨s.toList, h⟩

def text (m : Marker) : String := String.ofList m.chars

/-- The start of `text` that matches `pattern` character by character up to case, and the
rest of `text`. -/
def matchPrefix : List Char → List Char → Option (List Char × List Char)
  | [], text => some ([], text)
  | _ :: _, [] => none
  | p :: ps, t :: ts =>
    if Unicode.foldEq p t then (matchPrefix ps ts).map fun (found, rest) => (t :: found, rest)
    else none

/-- The leftmost match of `pattern` in `text`. -/
def findIn (pattern : List Char) : List Char → Option Occurrence
  | [] => (matchPrefix pattern []).map fun (found, rest) => ⟨[], found, rest⟩
  | t :: ts =>
    match matchPrefix pattern (t :: ts) with
    | some (found, rest) => some ⟨[], found, rest⟩
    | none => (findIn pattern ts).map fun o => { o with before := t :: o.before }

def find? (m : Marker) (text : List Char) : Option Occurrence := findIn m.chars text

private theorem matchPrefix_eq_some {pattern text found rest : List Char}
    (h : matchPrefix pattern text = some (found, rest)) :
    text = found ++ rest ∧ found.length = pattern.length := by
  induction pattern generalizing text found rest with
  | nil =>
    simp only [matchPrefix, Option.some.injEq, Prod.mk.injEq] at h
    obtain ⟨rfl, rfl⟩ := h
    simp
  | cons p ps ih =>
    cases text with
    | nil => simp [matchPrefix] at h
    | cons t ts =>
      simp only [matchPrefix] at h
      split at h
      · cases hm : matchPrefix ps ts with
        | none => simp [hm] at h
        | some pair =>
          obtain ⟨found', rest'⟩ := pair
          simp only [hm, Option.map_some, Option.some.injEq, Prod.mk.injEq] at h
          obtain ⟨rfl, rfl⟩ := h
          obtain ⟨same, size⟩ := ih hm
          simp [same, size]
      · simp at h

private theorem findIn_eq_some {pattern text : List Char} {o : Occurrence}
    (h : findIn pattern text = some o) :
    text = o.before ++ o.found ++ o.after ∧ o.found.length = pattern.length := by
  induction text generalizing o with
  | nil =>
    simp only [findIn] at h
    cases hm : matchPrefix pattern [] with
    | none => simp [hm] at h
    | some pair =>
      obtain ⟨found, rest⟩ := pair
      simp only [hm, Option.map_some, Option.some.injEq] at h
      subst h
      obtain ⟨same, size⟩ := matchPrefix_eq_some hm
      simp [same, size]
  | cons t ts ih =>
    simp only [findIn] at h
    split at h
    · rename_i found rest hm
      simp only [Option.some.injEq] at h
      subst h
      obtain ⟨same, size⟩ := matchPrefix_eq_some hm
      simp [same, size]
    · cases hf : findIn pattern ts with
      | none => simp [hf] at h
      | some o' =>
        simp only [hf, Option.map_some, Option.some.injEq] at h
        subst h
        obtain ⟨same, size⟩ := ih hf
        simp [same, size]

theorem find?_eq_some {m : Marker} {text : List Char} {o : Occurrence} (h : m.find? text = some o) :
    text = o.before ++ o.found ++ o.after ∧ o.found.length = m.chars.length :=
  findIn_eq_some h

theorem find?_found_ne_nil {m : Marker} {text : List Char} {o : Occurrence}
    (h : m.find? text = some o) : o.found ≠ [] := by
  intro empty
  have size := (find?_eq_some h).2
  rw [empty] at size
  exact m.nonempty (List.length_eq_zero_iff.mp size.symm)

theorem find?_after_lt {m : Marker} {text : List Char} {o : Occurrence}
    (h : m.find? text = some o) : o.after.length < text.length := by
  obtain ⟨same, _⟩ := find?_eq_some h
  have : 0 < o.found.length := List.length_pos_iff.mpr (find?_found_ne_nil h)
  rw [same]
  simp only [List.length_append]
  omega

set_option linter.unusedVariables false in
/-- The text with the marker's matches removed, left to right. -/
def erase (m : Marker) (text : List Char) : List Char :=
  match h : m.find? text with
  | none => text
  | some o => o.before ++ m.erase o.after
termination_by text.length
decreasing_by exact find?_after_lt h

end Marker

end Stencil
