import Stencil.Proofs.ReplaceFirst

/-! What the greedy selection leaves around its spans. -/

namespace Stencil.Template

open Marker Unicode

section Selection

variable {O C : Marker} {t : List Char}

private theorem matchesAt_of_window (m : Marker) (i : Nat) {t' window x y : List Char} {p k : Nat}
    (here : t.drop p = window ++ x) (there : t'.drop k = window ++ y)
    (fits : i + m.chars.length ≤ window.length) :
    m.MatchesAt t (p + i) ↔ m.MatchesAt t' (k + i) := by
  have inside : m.chars.length ≤ (window.drop i).length := by
    simp only [List.length_drop]
    omega
  simp only [MatchesAt, ← List.drop_drop, here, there,
    List.drop_append_of_le_length (by omega : i ≤ window.length), prefixMatch_append_iff inside]

private theorem Candidate.shift {p q k : Nat} (found : Candidate O C t p q) {rest : List Char}
    (spelled : t.drop k = slice t p (q + C.chars.length) ++ rest) :
    Candidate O C t k (k + (q - p)) := by
  have nonempty := found.nonempty
  have bound := found.closes.le_length
  have here := drop_eq_slice_append t (by omega : p ≤ q + C.chars.length)
  have size : (slice t p (q + C.chars.length)).length = q + C.chars.length - p :=
    length_slice (by omega) bound
  refine ⟨?_, ?_, by omega, ?_⟩
  · simpa using (matchesAt_of_window O 0 here spelled (by omega)).mp (by simpa using found.opens)
  · have closes := found.closes
    rw [show q = p + (q - p) by omega] at closes
    exact (matchesAt_of_window C (q - p) here spelled (by omega)).mp closes
  · intro r from_end before closing
    rw [show r = k + (r - k) by omega] at closing
    have back := (matchesAt_of_window C (r - k) here spelled (by omega)).mpr closing
    exact found.nearest (p + (r - k)) (by omega) (by omega) back

theorem Greedy.first_occurrence {pos p q : Nat} {rest : List (Nat × Nat)}
    (greedy : Greedy O C t pos ((p, q) :: rest)) (a b : List Char) (from_pos : pos ≤ a.length)
    (spelled : t = a ++ slice t p (q + C.chars.length) ++ b) : p ≤ a.length := by
  cases greedy with
  | take after found least next =>
    by_contra before
    have dropped : t.drop a.length = slice t p (q + C.chars.length) ++ b := by
      have := congrArg (List.drop a.length) spelled
      simpa [List.append_assoc] using this
    exact least a.length _ from_pos (by omega) (found.shift dropped)

/-- An opening match that starts no candidate is followed at once by a closing match, or by
none at all. -/
theorem closing_at_once_or_never {k : Nat} (opens : O.MatchesAt t k)
    (none_here : ∀ q, ¬ Candidate O C t k q) :
    C.MatchesAt t (k + O.chars.length) ∨ ∀ r, k + O.chars.length ≤ r → ¬ C.MatchesAt t r := by
  cases hc : C.find? (t.drop (k + O.chars.length)) with
  | none =>
    right
    intro r from_end closing
    apply not_matchesAt_of_find?_eq_none hc (r - (k + O.chars.length))
    exact matchesAt_drop.mpr (by rwa [Nat.add_sub_cancel' from_end])
  | some c =>
    obtain ⟨-, -, closes, earlier⟩ := find?_eq_some_leftmost hc
    cases hb : c.before with
    | nil =>
      left
      rw [hb] at closes
      simpa using matchesAt_drop.mp closes
    | cons z zs =>
      have candidate : Candidate O C t k (k + O.chars.length + c.before.length) :=
        ⟨opens, matchesAt_drop.mp closes, by simp [hb], fun r from_end short closing =>
          earlier (r - (k + O.chars.length)) (by omega)
            (matchesAt_drop.mpr (by rwa [Nat.add_sub_cancel' from_end]))⟩
      exact (none_here _ candidate).elim

private theorem Greedy.closing_after_stray_opening {pos p q k : Nat} {rest : List (Nat × Nat)}
    (greedy : Greedy O C t pos ((p, q) :: rest)) (from_pos : pos ≤ k) (before : k < p)
    (opens : O.MatchesAt t k) : C.MatchesAt t (k + O.chars.length) := by
  cases greedy with
  | take after found least next =>
    have nonempty := found.nonempty
    rcases closing_at_once_or_never opens (least k · from_pos before) with at_once | never
    · exact at_once
    · exact absurd found.closes (never q (by omega))

/-! ### Single-character markers that do not match each other -/

section SingleMarkers

variable {o c : Char}

theorem Greedy.shielded_gap (single_opening : O.chars = [o])
    (single_closing : C.chars = [c]) (distinct : foldEq o c = false)
    {pre gap back : List Char} {q : Nat} {rest : List (Nat × Nat)}
    (greedy : Greedy O C (pre ++ gap ++ back) pre.length
      ((pre.length + gap.length, q) :: rest)) :
    Shielded o c gap := by
  intro front x after spelled stray_char
  have at_stray : (pre ++ gap ++ back).drop (pre.length + front.length) =
      x :: (after ++ back) := by
    simp [spelled, ← List.drop_drop]
  have stray : O.MatchesAt (pre ++ gap ++ back) (pre.length + front.length) :=
    (matchesAt_single single_opening).mpr ⟨x, after ++ back, at_stray, stray_char⟩
  have before : pre.length + front.length < pre.length + gap.length := by
    simp [spelled]
  have closes := greedy.closing_after_stray_opening (by omega) before stray
  simp only [single_opening, List.length_singleton] at closes
  obtain ⟨y, more, at_next, closing_char⟩ := (matchesAt_single single_closing).mp closes
  have next : (pre ++ gap ++ back).drop (pre.length + front.length + 1) = after ++ back := by
    rw [← List.drop_drop, at_stray]
    rfl
  rw [next] at at_next
  cases after with
  | nil =>
    have span_opens := (greedy.candidates _ List.mem_cons_self).opens
    obtain ⟨z, tail, at_span, opening_char⟩ := (matchesAt_single single_opening).mp span_opens
    have at_back : (pre ++ gap ++ back).drop (pre.length + gap.length) = back := by
      simp
    rw [at_back] at at_span
    simp only [List.nil_append, at_span, List.cons.injEq] at at_next
    rw [at_next.1] at opening_char
    have := foldEq_of_foldEq_of_foldEq opening_char closing_char
    simp [this] at distinct
  | cons y' more' =>
    simp only [List.cons_append, List.cons.injEq] at at_next
    exact ⟨y', more', rfl, at_next.1 ▸ closing_char⟩

theorem Candidate.staysOpen (single_opening : O.chars = [o])
    (single_closing : C.chars = [c]) {p q : Nat} (found : Candidate O C t p q) :
    StaysOpen o c (slice t p (q + C.chars.length)) := by
  have nonempty := found.nonempty
  have bound := found.closes.le_length
  simp only [single_opening, single_closing, List.length_singleton] at nonempty bound ⊢
  obtain ⟨x, rest, at_p, opening_char⟩ := (matchesAt_single single_opening).mp found.opens
  have still_open : ¬ C.MatchesAt t (p + 1) :=
    found.nearest (p + 1) (by simp [single_opening]) (by omega)
  cases rest with
  | nil =>
    have size := congrArg List.length at_p
    simp only [List.length_drop, List.length_singleton] at size
    omega
  | cons y more =>
    have at_next : t.drop (p + 1) = y :: more := by
      rw [← List.drop_drop, at_p]
      rfl
    have stays : foldEq c y = false := by
      by_contra closing_char
      exact still_open ((matchesAt_single single_closing).mpr
        ⟨y, more, at_next, by simpa using closing_char⟩)
    have open_text : StaysOpen o c (t.drop p) := ⟨x, y, more, at_p, opening_char, stays⟩
    exact open_text.take (by omega)

private theorem Greedy.layout_in_place (single_opening : O.chars = [o])
    (single_closing : C.chars = [c]) (distinct : foldEq o c = false) (trail : List Char)
    (pieces : List (List Char × Span))
    (sizes : ∀ x ∈ pieces, x.2.opening.length = O.chars.length ∧
      x.2.closing.length = C.chars.length) :
    ∀ pre, Greedy O C (pre ++ (Layout.mk pieces trail).chars) pre.length
        (positionsFrom pre.length pieces) →
      ∀ piece ∈ pieces, Shielded o c piece.1 ∧ StaysOpen o c piece.2.chars := by
  induction pieces with
  | nil => simp
  | cons piece rest ih =>
    obtain ⟨gap, s⟩ := piece
    obtain ⟨opening, closing⟩ := sizes (gap, s) List.mem_cons_self
    intro pre greedy
    have whole : pre ++ (Layout.mk ((gap, s) :: rest) trail).chars =
        pre ++ gap ++ (s.chars ++ (Layout.mk rest trail).chars) := by
      simp [Layout.chars, List.append_assoc]
    rw [whole] at greedy
    simp only [positionsFrom] at greedy
    have shielded := greedy.shielded_gap single_opening single_closing distinct
    cases greedy with
    | take after found least next =>
      have spelled : slice (pre ++ gap ++ (s.chars ++ (Layout.mk rest trail).chars))
          (pre.length + gap.length)
          (pre.length + gap.length + s.opening.length + s.inner.length + C.chars.length) =
          s.chars := by
        rw [← List.append_assoc]
        exact slice_append_middle (by simp) (by simp [Span.chars, closing]; omega)
      have span := found.staysOpen single_opening single_closing
      rw [spelled] at span
      have ends : pre.length + gap.length + s.opening.length + s.inner.length + C.chars.length =
          (pre ++ gap ++ s.chars).length := by
        simp [Span.chars, closing]
        omega
      have resumes : pre.length + gap.length + s.opening.length + s.inner.length +
          s.closing.length = (pre ++ gap ++ s.chars).length := by
        simp [Span.chars]
        omega
      have regroup : pre ++ gap ++ (s.chars ++ (Layout.mk rest trail).chars) =
          pre ++ gap ++ s.chars ++ (Layout.mk rest trail).chars := by
        simp
      rw [ends, regroup, resumes] at next
      intro piece member
      rcases List.mem_cons.mp member with rfl | later
      · exact ⟨shielded, span⟩
      · exact ih (fun x member => sizes x (List.mem_cons_of_mem _ member)) _ next piece later

end SingleMarkers

end Selection

/-- With single-character markers that do not match each other, every gap of a template's
layout is shielded and every span stays open. -/
theorem scan_in_place {O C : Marker} {o c : Char} (single_opening : O.chars = [o])
    (single_closing : C.chars = [c]) (distinct : foldEq o c = false) (t : List Char) :
    ∀ piece ∈ (scan O C t).pieces, Shielded o c piece.1 ∧ StaysOpen o c piece.2.chars := by
  have spelled : (Layout.mk (scan O C t).pieces (scan O C t).trail).chars = t := scan_chars O C t
  have greedy : Greedy O C ([] ++ (Layout.mk (scan O C t).pieces (scan O C t).trail).chars) 0
      (positionsFrom 0 (scan O C t).pieces) := by
    rw [List.nil_append, spelled]
    exact greedy_scan O C t
  exact Greedy.layout_in_place single_opening single_closing distinct _ _
    (scanFrom_sizes O C [] t) [] greedy

end Stencil.Template
