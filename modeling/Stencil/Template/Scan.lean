import Stencil.Marker
import Stencil.Text.Utf8
/-! Finding placeholders in a template, leftmost opening marker first. -/

namespace Stencil.Template

/-- A placeholder as written: its opening marker, the text inside, its closing marker. -/
structure Span where
  opening : List Char
  inner : List Char
  closing : List Char
deriving Repr, DecidableEq

def Span.chars (s : Span) : List Char := s.opening ++ s.inner ++ s.closing

/-- A template cut at its placeholders: each with the literal text before it, then the literal
text after the last. -/
structure Layout where
  pieces : List (List Char × Span)
  trail : List Char
deriving Repr, DecidableEq

def Layout.chars (l : Layout) : List Char :=
  (l.pieces.flatMap fun piece => piece.1 ++ piece.2.chars) ++ l.trail

set_option linter.unusedVariables false in
/-- The layout of `rest`, with `gap` the literal text already passed over before it. -/
def scanFrom (opening closing : Marker) (gap rest : List Char) : Layout :=
  match ho : opening.find? rest with
  | none => ⟨[], gap ++ rest⟩
  | some o =>
    match hc : closing.find? o.after with
    | none => ⟨[], gap ++ rest⟩
    | some c =>
      match hb : c.before, hf : o.found with
      | [], first :: others =>
        scanFrom opening closing (gap ++ o.before ++ [first]) (others ++ o.after)
      | [], [] => ⟨[], gap ++ rest⟩
      | x :: xs, _ =>
        let later := scanFrom opening closing [] c.after
        ⟨(gap ++ o.before, ⟨o.found, x :: xs, c.found⟩) :: later.pieces, later.trail⟩
termination_by rest.length
decreasing_by
  · have split := (Marker.find?_eq_some ho).1
    rw [hf] at split
    rw [split]
    simp only [List.length_append, List.length_cons]
    omega
  · have inner := Marker.find?_after_lt hc
    have outer := Marker.find?_after_lt ho
    omega

private theorem scanFrom_chars (opening closing : Marker) (gap rest : List Char) :
    (scanFrom opening closing gap rest).chars = gap ++ rest := by
  fun_induction scanFrom opening closing gap rest with
  | case1 => simp [Layout.chars]
  | case2 => simp [Layout.chars]
  | case3 gap rest o ho c hc first others hb hf ih =>
    rw [ih]
    have split := (Marker.find?_eq_some ho).1
    rw [hf] at split
    rw [split]
    simp
  | case4 => simp [Layout.chars]
  | case5 gap rest o ho c hc x xs hb hf ih =>
    have outer := (Marker.find?_eq_some ho).1
    have inner := (Marker.find?_eq_some hc).1
    rw [hb] at inner
    simp only [Layout.chars, List.flatMap_cons, Span.chars] at ih ⊢
    rw [List.append_assoc, ih, outer, inner]
    simp

/-- The placeholders of a template and the literal text around them. -/
def scan (opening closing : Marker) (text : List Char) : Layout := scanFrom opening closing [] text

theorem scan_chars (opening closing : Marker) (text : List Char) :
    (scan opening closing text).chars = text := by
  simp [scan, scanFrom_chars]

def rangesFrom : Nat → List (List Char × Span) → List (Span × Nat × Nat)
  | _, [] => []
  | pos, (gap, s) :: rest =>
    let start := pos + Text.utf8Length gap
    let stop := start + Text.utf8Length s.chars
    (s, start, stop) :: rangesFrom stop rest

/-- Each span of a layout with its byte range in the template, end excluded. -/
def Layout.ranges (l : Layout) : List (Span × Nat × Nat) := rangesFrom 0 l.pieces

end Stencil.Template
