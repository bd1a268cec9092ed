import Stencil.Proofs.SpanReport

/-! With single-character markers, scanning a template is searching it for the pattern
`(?i)o[^c]+c`. -/

namespace Stencil.Template

open Marker Unicode

/-- The pattern `(?i)o[^c]+c` matches `t` from index `p` up to index `e`, end excluded. -/
def PatternMatch (o c : Char) (t : List Char) (p e : Nat) : Prop :=
  ∃ x body y rest, t.drop p = x :: body ++ y :: rest ∧ e = p + body.length + 2 ∧
    foldEq o x = true ∧ body ≠ [] ∧ (∀ z ∈ body, foldEq c z = false) ∧ foldEq c y = true

/-- The matches a search for `(?i)o[^c]+c` finds from index `pos` on, each as its start and
end: the match that starts first, then the one that starts first from its end, and so on. -/
inductive PatternSearch (o c : Char) (t : List Char) : Nat → List (Nat × Nat) → Prop where
  | stop {pos : Nat} (exhausted : ∀ p e, pos ≤ p → ¬ PatternMatch o c t p e) :
      PatternSearch o c t pos []
  | take {pos p e : Nat} {rest : List (Nat × Nat)} (after : pos ≤ p)
      (found : PatternMatch o c t p e)
      (least : ∀ p' e', pos ≤ p' → p' < p → ¬ PatternMatch o c t p' e')
      (next : PatternSearch o c t e rest) : PatternSearch o c t pos ((p, e) :: rest)

section SingleMarkers

variable {O C : Marker} {o c : Char} {t : List Char}

private theorem Candidate.patternMatch (single_opening : O.chars = [o])
    (single_closing : C.chars = [c])
    {p q : Nat} (found : Candidate O C t p q) : PatternMatch o c t p (q + 1) := by
  have nonempty := found.nonempty
  simp only [single_opening, List.length_singleton] at nonempty
  obtain ⟨x, after, at_p, opening_char⟩ := (matchesAt_single single_opening).mp found.opens
  obtain ⟨y, rest, at_q, closing_char⟩ := (matchesAt_single single_closing).mp found.closes
  have spelled : t.drop p = x :: slice t (p + 1) q ++ y :: rest := by
    have body := drop_eq_slice_append t (Nat.le_of_lt nonempty)
    rw [at_q] at body
    rw [List.cons_append, ← body, ← List.drop_drop, at_p]
    rfl
  have bound := found.closes.le_length
  have size : (slice t (p + 1) q).length = q - (p + 1) :=
    length_slice (Nat.le_of_lt nonempty) (by simp [single_closing] at bound; omega)
  refine ⟨x, slice t (p + 1) q, y, rest, spelled, by omega, opening_char,
    slice_ne_nil nonempty (by simp [single_closing] at bound; omega), ?_, closing_char⟩
  intro z member
  cases closes_here : foldEq c z with
  | false => rfl
  | true =>
    obtain ⟨r, from_body, inside, closes⟩ := exists_matchesAt_of_mem single_closing
      (drop_eq_slice_append t (Nat.le_of_lt nonempty)) member closes_here
    exact absurd closes
      (found.nearest r (by simp only [single_opening, List.length_singleton]; omega) (by omega))

private theorem PatternMatch.candidate (single_opening : O.chars = [o])
    (single_closing : C.chars = [c])
    {p e : Nat} (found : PatternMatch o c t p e) : Candidate O C t p (e - 1) := by
  obtain ⟨x, body, y, rest, spelled, rfl, opening_char, nonempty, plain, closing_char⟩ := found
  have positive := List.length_pos_iff.mpr nonempty
  have at_body : t.drop (p + 1) = body ++ y :: rest := by
    rw [← List.drop_drop, spelled]
    rfl
  have at_close : t.drop (p + body.length + 2 - 1) = y :: rest := by
    rw [show p + body.length + 2 - 1 = p + 1 + body.length by omega, ← List.drop_drop, at_body]
    simp
  refine ⟨(matchesAt_single single_opening).mpr ⟨x, _, spelled, opening_char⟩,
    (matchesAt_single single_closing).mpr ⟨y, rest, at_close, closing_char⟩,
    by simp [single_opening]; omega, ?_⟩
  intro r from_end before closing
  simp only [single_opening, List.length_singleton] at from_end
  obtain ⟨z, inside, closes_here⟩ :=
    mem_of_matchesAt single_closing at_body from_end (by omega) closing
  simp [plain z inside] at closes_here

theorem PatternMatch.end_unique {p e e' : Nat} (found : PatternMatch o c t p e)
    (found' : PatternMatch o c t p e') : e = e' := by
  have single : (⟨[o], by simp⟩ : Marker).chars = [o] := rfl
  have single' : (⟨[c], by simp⟩ : Marker).chars = [c] := rfl
  have ends := (found.candidate single single').closing_unique (found'.candidate single single')
  obtain ⟨x, body, y, rest, -, ends_after, -⟩ := found
  obtain ⟨x', body', y', rest', -, ends_after', -⟩ := found'
  omega

private theorem Greedy.patternSearch (single_opening : O.chars = [o])
    (single_closing : C.chars = [c])
    {pos : Nat} {S : List (Nat × Nat)} (greedy : Greedy O C t pos S) :
    PatternSearch o c t pos (S.map fun a => (a.1, a.2 + 1)) := by
  induction greedy with
  | stop exhausted =>
    exact .stop fun p e after found =>
      exhausted p _ after (found.candidate single_opening single_closing)
  | take after found least next ih =>
    rw [single_closing, List.length_singleton] at next ih
    exact .take after (found.patternMatch single_opening single_closing)
      (fun p' e' from_pos before match' =>
        least p' _ from_pos before (match'.candidate single_opening single_closing)) ih

private theorem PatternSearch.greedy (single_opening : O.chars = [o])
    (single_closing : C.chars = [c])
    {pos : Nat} {M : List (Nat × Nat)} (search : PatternSearch o c t pos M) :
    ∃ S, Greedy O C t pos S ∧ M = S.map fun a => (a.1, a.2 + 1) := by
  induction search with
  | stop exhausted =>
    exact ⟨[], .stop fun p q after found =>
      exhausted p _ after (found.patternMatch single_opening single_closing), rfl⟩
  | @take pos p e rest after found least next ih =>
    obtain ⟨S, greedy, rfl⟩ := ih
    have candidate := found.candidate single_opening single_closing
    have ends : e - 1 + 1 = e := by
      obtain ⟨x, body, y, rest, -, ends_after, -⟩ := found
      omega
    have next' : Greedy O C t (e - 1 + C.chars.length) S := by
      rw [single_closing, List.length_singleton, ends]
      exact greedy
    refine ⟨(p, e - 1) :: S, .take after candidate
      (fun p' q' from_pos before found' =>
        least p' _ from_pos before (found'.patternMatch single_opening single_closing))
      next', ?_⟩
    simp only [List.map_cons, ends]

end SingleMarkers

/-- With a single-character opening marker `O` and closing marker `C`, which may match each other,
the placeholders of a template are the matches of `(?i)O[^C]+C` that a leftmost-first search
finds without overlap: there is exactly one such sequence of matches, and the scan's spans are
these matches, the inner text of each lying between its first and its last character. -/
theorem scan_eq_pattern_search {O C : Marker} {o c : Char} (single_opening : O.chars = [o])
    (single_closing : C.chars = [c]) (template : String) :
    ∃ M, (∀ M', PatternSearch o c template.toList 0 M' ↔ M' = M) ∧
      (scan O C template.toList).byteSpans = M.map fun m =>
        ⟨(byteOffset template.toList m.1, byteOffset template.toList m.2),
          (byteOffset template.toList (m.1 + 1), byteOffset template.toList (m.2 - 1))⟩ := by
  have greedy := greedy_scan O C template.toList
  refine ⟨_, fun M' => ⟨fun search => ?_, fun same => same ▸ greedy.patternSearch single_opening single_closing⟩, ?_⟩
  · obtain ⟨S, other, rfl⟩ := search.greedy single_opening single_closing
    rw [other.unique greedy]
  · rw [byteSpans_scan, List.map_map]
    apply List.map_congr_left
    intro a _
    simp [selectedSpan, single_opening, single_closing]

/-- With the bar as both markers, `||a||b|` is scanned as the search for `(?i)|[^|]+|`. -/
theorem scan_bars_pattern_search :
    ∃ M, (∀ M', PatternSearch '|' '|' "||a||b|".toList 0 M' ↔ M' = M) ∧
      (scan ⟨['|'], by simp⟩ ⟨['|'], by simp⟩ "||a||b|".toList).byteSpans = M.map fun m =>
        ⟨(byteOffset "||a||b|".toList m.1, byteOffset "||a||b|".toList m.2),
          (byteOffset "||a||b|".toList (m.1 + 1), byteOffset "||a||b|".toList (m.2 - 1))⟩ :=
  scan_eq_pattern_search rfl rfl "||a||b|"

end Stencil.Template
