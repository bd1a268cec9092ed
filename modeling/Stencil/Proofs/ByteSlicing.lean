import Stencil.Proofs.Filling

/-! Every byte offset at which filling a template cuts text falls on a character boundary. -/

namespace Stencil.Text

open Template

/-- The character index at byte offset `n` of `cs`: where a character starts, or the end. -/
def charIndexAt? : List Char → Nat → Option Nat
  | _, 0 => some 0
  | [], _ + 1 => none
  | c :: cs, n + 1 =>
    if c.utf8Size ≤ n + 1 then (charIndexAt? cs (n + 1 - c.utf8Size)).map (· + 1) else none

/-- The characters between byte offsets `i` and `j`; none unless both offsets are character
boundaries within the text and `i ≤ j`. -/
def byteSlice? (cs : List Char) (i j : Nat) : Option (List Char) :=
  match charIndexAt? cs i, charIndexAt? cs j with
  | some a, some b => if a ≤ b then some (slice cs a b) else none
  | _, _ => none

example : byteSlice? "é".toList 0 1 = none := by decide

/-- Character boundaries are exactly the byte offsets of character indices within the text. -/
theorem charIndexAt?_eq_some_iff {cs : List Char} {n k : Nat} :
    charIndexAt? cs n = some k ↔ k ≤ cs.length ∧ byteOffset cs k = n := by
  induction cs generalizing n k with
  | nil =>
    cases n with
    | zero => simp [charIndexAt?, byteOffset, eq_comm]
    | succ n => simp [charIndexAt?, byteOffset]
  | cons c cs ih =>
    have positive := c.utf8Size_pos
    cases n with
    | zero =>
      cases k with
      | zero => simp [charIndexAt?, byteOffset]
      | succ k => simp [charIndexAt?, byteOffset]; omega
    | succ n =>
      cases k with
      | zero => simp [charIndexAt?, byteOffset]
      | succ k =>
        simp only [charIndexAt?, byteOffset, List.take_succ_cons, utf8Length_cons,
          List.length_cons, Nat.add_le_add_iff_right]
        split
        · rw [Option.map_eq_some_iff]
          constructor
          · rintro ⟨k', found, same⟩
            obtain ⟨bound, at_k⟩ := ih.mp found
            simp only [Nat.add_right_cancel_iff] at same
            subst same
            exact ⟨bound, by simp only [byteOffset] at at_k; omega⟩
          · rintro ⟨bound, at_k⟩
            exact ⟨k, ih.mpr ⟨bound, by simp only [byteOffset]; omega⟩, rfl⟩
        · constructor
          · simp
          · rintro ⟨-, at_k⟩
            omega

private theorem charIndexAt?_byteOffset (cs : List Char) {k : Nat} (bound : k ≤ cs.length) :
    charIndexAt? cs (byteOffset cs k) = some k :=
  charIndexAt?_eq_some_iff.mpr ⟨bound, rfl⟩

theorem byteSlice?_byteOffset (cs : List Char) {i j : Nat} (le : i ≤ j) (bound : j ≤ cs.length) :
    byteSlice? cs (byteOffset cs i) (byteOffset cs j) = some (slice cs i j) := by
  simp [byteSlice?, charIndexAt?_byteOffset cs (Nat.le_trans le bound),
    charIndexAt?_byteOffset cs bound, le]

private theorem byteSlice?_middle (front middle back : List Char) :
    byteSlice? (front ++ middle ++ back) (utf8Length front)
      (utf8Length front + utf8Length middle) = some middle := by
  have start : byteOffset (front ++ middle ++ back) front.length = utf8Length front := by
    rw [List.append_assoc]
    exact byteOffset_append_length rfl
  have stop : byteOffset (front ++ middle ++ back) (front.length + middle.length) =
      utf8Length front + utf8Length middle := by
    rw [← utf8Length_append]
    exact byteOffset_append_length (by simp)
  rw [← stop, ← start, byteSlice?_byteOffset _ (by simp) (by simp), slice_append_middle rfl rfl]

private theorem byteSlice?_prefix (front back : List Char) :
    byteSlice? (front ++ back) 0 (utf8Length front) = some front := by
  simpa using byteSlice?_middle [] front back

private theorem byteSlice?_keyPart (inner : List Char) :
    byteSlice? inner 0 (utf8Length (keyPart inner)) = some (keyPart inner) := by
  have cut := byteSlice?_prefix (keyPart inner) (inner.dropWhile fun c => c != ':' && c != '|')
  rwa [keyPart, List.takeWhile_append_dropWhile] at cut

end Stencil.Text

namespace Stencil

open Template Text Marker

section Slices

variable (e : Engine) (template : String) (data : Json)

private theorem resume_boundary {p : Nat} (opens : e.opening.MatchesAt template.toList p) :
    ∃ x rest, byteSlice? template.toList (byteOffset template.toList p)
        (utf8Length template.toList) = some (x :: rest) ∧
      byteOffset template.toList (p + 1) = byteOffset template.toList p + x.utf8Size ∧
      byteOffset template.toList (p + 1) ≤ utf8Length template.toList := by
  have bound := opens.le_length
  have nonempty := List.length_pos_iff.mpr e.opening.nonempty
  obtain ⟨x, rest, at_p⟩ := List.exists_cons_of_ne_nil
    (List.ne_nil_of_length_pos (by simp; omega : 0 < (template.toList.drop p).length))
  have size : template.toList.length - p = rest.length + 1 := by
    have lengths := congrArg List.length at_p
    rwa [List.length_drop, List.length_cons] at lengths
  have whole : slice template.toList p template.toList.length = x :: rest := by
    simp [slice, at_p, size]
  have step : slice template.toList p (p + 1) = [x] := by
    simp [slice, at_p]
  refine ⟨x, rest, ?_, ?_, ?_⟩
  · rw [← byteOffset_length, byteSlice?_byteOffset _ (by omega) (Nat.le_refl _), whole]
  · rw [byteOffset_eq_add_slice _ (Nat.le_succ p), step]
    simp
  · rw [← byteOffset_length]
    exact byteOffset_le_byteOffset _ (by omega)

private theorem span_slices {s : Span × Nat × Nat}
    (member : s ∈ (scan e.opening e.closing template.toList).ranges) :
    byteSlice? template.toList s.2.1 s.2.2 = some s.1.chars ∧
      byteSlice? template.toList (s.1.byteSpan s.2.1 s.2.2).inner.1
        (s.1.byteSpan s.2.1 s.2.2).inner.2 = some s.1.inner ∧
      byteSlice? s.1.inner 0 (utf8Length (keyPart s.1.inner)) = some (keyPart s.1.inner) := by
  rw [ranges_scan] at member
  obtain ⟨a, selected, rfl⟩ := List.mem_map.mp member
  have found := (greedy_scan e.opening e.closing template.toList).candidates a selected
  have inner := found.nonempty
  have bound := found.closes.le_length
  refine ⟨?_, ?_, ?_⟩
  · rw [chars_placed _ (Nat.le_of_lt inner)]
    exact byteSlice?_byteOffset _ (by omega) bound
  · rw [byteSpan_placed _ (Nat.le_of_lt inner)]
    exact byteSlice?_byteOffset _ (Nat.le_of_lt inner) (by omega)
  · exact byteSlice?_keyPart _

private theorem replaced_slice (i : Nat) (h : i < (e.render template data).substitutions.length) :
    ∃ u v, afterRules template.toList (e.render template data).rules i =
        u ++ (e.render template data).substitutions[i].span.toList ++ v ∧
      (∀ a b, afterRules template.toList (e.render template data).rules i =
          a ++ (e.render template data).substitutions[i].span.toList ++ b → u.length ≤ a.length) ∧
      byteSlice? (afterRules template.toList (e.render template data).rules i) (utf8Length u)
          (utf8Length u + utf8Length (e.render template data).substitutions[i].span.toList) =
        some (e.render template data).substitutions[i].span.toList ∧
      afterRules template.toList (e.render template data).rules (i + 1) =
        u ++ (e.render template data).substitutions[i].replacement.toList ++ v := by
  have hr : i < (e.render template data).rules.length := by simpa using h
  obtain ⟨u, v, before, first, after⟩ := (standing_rules e template data).replaces_first i hr
  rw [Rendering.getElem_rules _ _ hr h] at before first after
  refine ⟨u, v, before, first, ?_, after⟩
  rw [before]
  exact byteSlice?_middle _ _ _

end Slices

/-- Filling a template cuts text only at character boundaries within it, so every slice the
fill takes exists and holds what the fill works with: where the scan resumes one character
after an opening marker, that place and the next boundary lie within the template; each
placeholder, the text inside it and its key are cut out at boundaries; and each rule finds the
first occurrence of its placeholder's text in the text rewritten so far, cuts it out at
boundaries and puts its replacement in its place, the last rule's text being the output. -/
theorem fill_slices_on_boundaries (e : Engine) (template : String) (data : Json) :
    let t := template.toList
    let found := (e.render template data).substitutions
    let rules := (e.render template data).rules
    (∀ p, e.opening.MatchesAt t p → ∃ x rest,
        byteSlice? t (byteOffset t p) (utf8Length t) = some (x :: rest) ∧
        byteOffset t (p + 1) = byteOffset t p + x.utf8Size ∧ byteOffset t (p + 1) ≤ utf8Length t) ∧
    (∀ s ∈ (scan e.opening e.closing t).ranges,
        byteSlice? t s.2.1 s.2.2 = some s.1.chars ∧
        byteSlice? t (s.1.byteSpan s.2.1 s.2.2).inner.1 (s.1.byteSpan s.2.1 s.2.2).inner.2 =
          some s.1.inner ∧
        byteSlice? s.1.inner 0 (utf8Length (keyPart s.1.inner)) = some (keyPart s.1.inner)) ∧
    (∀ i (h : i < found.length), ∃ u v, afterRules t rules i = u ++ found[i].span.toList ++ v ∧
        (∀ a b, afterRules t rules i = a ++ found[i].span.toList ++ b → u.length ≤ a.length) ∧
        byteSlice? (afterRules t rules i) (utf8Length u)
          (utf8Length u + utf8Length found[i].span.toList) = some found[i].span.toList ∧
        afterRules t rules (i + 1) = u ++ found[i].replacement.toList ++ v) ∧
    (e.parse template data).toList = afterRules t rules found.length :=
  ⟨fun _ opens => resume_boundary e template opens, fun _ member => span_slices e template member,
    replaced_slice e template data, parse_eq_afterRules e template data⟩

end Stencil
