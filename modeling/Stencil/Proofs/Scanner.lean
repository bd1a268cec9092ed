import Stencil.Proofs.Matching
import Stencil.Engine

/-! The placeholders a scan finds are the greedy leftmost selection of candidates. -/

namespace Stencil.Template

open Marker

section Selection

variable (O C : Marker) (t : List Char)

/-- An opening match at `p` whose nearest closing match at or after the opening's end starts
at `q`, strictly after that end. -/
structure Candidate (p q : Nat) : Prop where
  opens : O.MatchesAt t p
  closes : C.MatchesAt t q
  nonempty : p + O.chars.length < q
  nearest : ∀ r, p + O.chars.length ≤ r → r < q → ¬ C.MatchesAt t r

/-- The greedy leftmost selection of candidates from index `pos` on, each as the index of its
opening match and that of its closing match. -/
inductive Greedy : Nat → List (Nat × Nat) → Prop where
  | stop {pos : Nat} (exhausted : ∀ p q, pos ≤ p → ¬ Candidate O C t p q) : Greedy pos []
  | take {pos p q : Nat} {rest : List (Nat × Nat)} (after : pos ≤ p)
      (found : Candidate O C t p q)
      (least : ∀ p' q', pos ≤ p' → p' < p → ¬ Candidate O C t p' q')
      (next : Greedy (q + C.chars.length) rest) : Greedy pos ((p, q) :: rest)

end Selection

variable {O C : Marker} {t : List Char}

theorem Candidate.closing_unique {p q q' : Nat} (h : Candidate O C t p q)
    (h' : Candidate O C t p q') : q = q' := by
  rcases Nat.lt_trichotomy q q' with lt | same | gt
  · exact absurd h.closes (h'.nearest q (Nat.le_of_lt h.nonempty) lt)
  · exact same
  · exact absurd h'.closes (h.nearest q' (Nat.le_of_lt h'.nonempty) gt)

private theorem Greedy.extend {pos pos' : Nat} {S : List (Nat × Nat)} (le : pos ≤ pos')
    (between : ∀ p q, pos ≤ p → p < pos' → ¬ Candidate O C t p q) :
    Greedy O C t pos' S → Greedy O C t pos S
  | .stop exhausted => .stop fun p q after found =>
    if lt : p < pos' then between p q after lt found
    else exhausted p q (Nat.le_of_not_lt lt) found
  | .take after found least next => .take (Nat.le_trans le after) found
    (fun p' q' from_pos before =>
      if lt : p' < pos' then between p' q' from_pos lt
      else least p' q' (Nat.le_of_not_lt lt) before) next

/-- There is at most one greedy selection. -/
theorem Greedy.unique {pos : Nat} {S S' : List (Nat × Nat)} (h : Greedy O C t pos S)
    (h' : Greedy O C t pos S') : S = S' := by
  induction h generalizing S' with
  | stop exhausted =>
    cases h' with
    | stop => rfl
    | take after found => exact absurd found (exhausted _ _ after)
  | @take pos p q rest after found least next ih =>
    cases h' with
    | stop exhausted => exact absurd found (exhausted _ _ after)
    | @take _ p' q' rest' after' found' least' next' =>
      have same_start : p = p' := by
        rcases Nat.lt_trichotomy p p' with lt | same | gt
        · exact absurd found (least' p q after lt)
        · exact same
        · exact absurd found' (least p' q' after' gt)
      subst same_start
      have same_close := found.closing_unique found'
      subst same_close
      rw [ih next']

private theorem matchesAt_append_length {m : Marker} {front back : List Char} :
    m.MatchesAt (front ++ back) front.length ↔ m.MatchesAt back 0 := by
  simpa using matchesAt_append_left m front back 0

private theorem matchesAt_append_iff_of_le {m : Marker} {front back : List Char} {i : Nat}
    (le : front.length ≤ i) : m.MatchesAt (front ++ back) i ↔ m.MatchesAt back (i - front.length) := by
  obtain ⟨j, rfl⟩ := Nat.exists_eq_add_of_le le
  simp

/-! What one search of the scan rules out or establishes, for a template `front ++ rest` whose
unsearched part is `rest`. -/

section Step

variable {front rest : List Char} {o c : Occurrence}

private theorem not_candidate_before_opening (ho : O.find? rest = some o) {p q : Nat}
    (from_front : front.length ≤ p) (found : Candidate O C (front ++ rest) p q) :
    front.length + o.before.length ≤ p := by
  have opens := (matchesAt_append_iff_of_le from_front).mp found.opens
  have earlier := (find?_eq_some_leftmost ho).2.2.2
  by_contra before
  exact earlier (p - front.length) (by omega) opens

private theorem not_candidate_of_no_opening (ho : O.find? rest = none) {p q : Nat}
    (from_front : front.length ≤ p) : ¬ Candidate O C (front ++ rest) p q := fun found =>
  not_matchesAt_of_find?_eq_none ho _ ((matchesAt_append_iff_of_le from_front).mp found.opens)

private theorem split_at_opening (ho : O.find? rest = some o) :
    front ++ rest = (front ++ o.before ++ o.found) ++ o.after := by
  simp [(find?_eq_some_leftmost ho).1]

private theorem not_candidate_of_no_closing (ho : O.find? rest = some o)
    (hc : C.find? o.after = none)
    {p q : Nat} (from_front : front.length ≤ p) : ¬ Candidate O C (front ++ rest) p q := by
  intro found
  have starts := not_candidate_before_opening ho from_front found
  have size := (find?_eq_some_leftmost ho).2.1
  have closes := found.closes
  rw [split_at_opening ho] at closes
  have far : (front ++ o.before ++ o.found).length ≤ q := by
    have := found.nonempty
    simp only [List.length_append]
    omega
  exact not_matchesAt_of_find?_eq_none hc _ ((matchesAt_append_iff_of_le far).mp closes)

private theorem not_candidate_of_empty_inner (ho : O.find? rest = some o)
    (hc : C.find? o.after = some c)
    (empty : c.before = []) {q : Nat} :
    ¬ Candidate O C (front ++ rest) (front.length + o.before.length) q := by
  intro found
  have size := (find?_eq_some_leftmost ho).2.1
  have at_once := (find?_eq_some_leftmost hc).2.2.1
  rw [empty] at at_once
  have closes : C.MatchesAt (front ++ rest) (front ++ o.before ++ o.found).length := by
    rw [split_at_opening ho]
    exact matchesAt_append_length.mpr at_once
  have at_end : (front ++ o.before ++ o.found).length =
      front.length + o.before.length + O.chars.length := by
    simp only [List.length_append, size]
  rw [at_end] at closes
  exact found.nearest _ (Nat.le_refl _) found.nonempty closes

private theorem candidate_of_searches (ho : O.find? rest = some o) (hc : C.find? o.after = some c)
    (inner : c.before ≠ []) :
    Candidate O C (front ++ rest) (front.length + o.before.length)
      ((front ++ o.before ++ o.found).length + c.before.length) := by
  obtain ⟨-, size, opens, -⟩ := find?_eq_some_leftmost ho
  obtain ⟨-, -, closes, earlier⟩ := find?_eq_some_leftmost hc
  have positive := List.length_pos_iff.mpr inner
  have at_end : (front ++ o.before ++ o.found).length =
      front.length + o.before.length + O.chars.length := by
    simp only [List.length_append, size]
  refine ⟨(matchesAt_append_left O front rest _).mpr opens, ?_, by omega, ?_⟩
  · rw [split_at_opening ho]
    exact (matchesAt_append_left C _ o.after _).mpr closes
  · intro r from_end before closing
    rw [split_at_opening ho] at closing
    have far : (front ++ o.before ++ o.found).length ≤ r := by omega
    exact earlier (r - (front ++ o.before ++ o.found).length) (by omega)
      ((matchesAt_append_iff_of_le far).mp closing)

end Step

def positionsFrom : Nat → List (List Char × Span) → List (Nat × Nat)
  | _, [] => []
  | pos, (gap, s) :: rest =>
    let p := pos + gap.length
    let q := p + s.opening.length + s.inner.length
    (p, q) :: positionsFrom (q + s.closing.length) rest

/-- Where each span of a layout opens and where its closing marker starts. -/
def Layout.positions (l : Layout) : List (Nat × Nat) := positionsFrom 0 l.pieces

private theorem greedy_scanFrom (O C : Marker) (pre gap rest : List Char) :
    Greedy O C (pre ++ gap ++ rest) (pre.length + gap.length)
      (positionsFrom pre.length (scanFrom O C gap rest).pieces) := by
  fun_induction scanFrom O C gap rest generalizing pre with
  | case1 gap rest ho =>
    exact .stop fun p q after => not_candidate_of_no_opening ho (by simpa using after)
  | case2 gap rest o ho hc =>
    exact .stop fun p q after => not_candidate_of_no_closing ho hc (by simpa using after)
  | case3 gap rest o ho c hc first others hb hf ih =>
    have same : pre ++ gap ++ rest = pre ++ (gap ++ o.before ++ [first]) ++ (others ++ o.after) := by
      rw [(find?_eq_some_leftmost ho).1, hf]
      simp
    have resumed := ih pre
    rw [← same] at resumed
    refine Greedy.extend (by simp) ?_ resumed
    intro p q after before found
    have starts := not_candidate_before_opening ho (by simpa using after) found
    have at_opening : p = (pre ++ gap).length + o.before.length := by
      simp only [List.length_append, List.length_singleton] at before starts ⊢
      omega
    exact not_candidate_of_empty_inner ho hc hb (at_opening ▸ found)
  | case4 gap rest o ho c hc hb hf =>
    exact absurd hf (find?_found_ne_nil ho)
  | case5 gap rest o ho c hc x xs hb hf ih =>
    obtain ⟨split, size, -, -⟩ := find?_eq_some_leftmost ho
    obtain ⟨closing_split, closing_size, -, -⟩ := find?_eq_some_leftmost hc
    have found : Candidate O C (pre ++ gap ++ rest) ((pre ++ gap).length + o.before.length)
        ((pre ++ gap ++ o.before ++ o.found).length + c.before.length) :=
      candidate_of_searches ho hc (by simp [hb])
    simp only [positionsFrom]
    apply Greedy.take
    · simp
    · convert found using 1
      · simp only [List.length_append]
        omega
      · simp only [List.length_append, hb, List.length_cons]
        omega
    · intro p' q' after before found'
      have starts := not_candidate_before_opening ho (by simpa using after) found'
      simp only [List.length_append] at before starts
      omega
    · have same : pre ++ gap ++ rest =
          (pre ++ gap ++ o.before ++ o.found ++ (x :: xs) ++ c.found) ++ [] ++ c.after := by
        rw [split, closing_split, hb]
        simp
      have resumes := ih (pre ++ gap ++ o.before ++ o.found ++ (x :: xs) ++ c.found)
      rw [← same] at resumes
      convert resumes using 1
      · simp only [List.length_append, List.length_cons, List.length_nil, closing_size]
        omega
      · congr 1
        simp only [List.length_append, List.length_cons, closing_size]
        omega

/-- The spans of a scan are the greedy selection from the template's start. -/
theorem greedy_scan (O C : Marker) (t : List Char) :
    Greedy O C t 0 (scan O C t).positions := by
  simpa [scan, Layout.positions] using greedy_scanFrom O C [] [] t

/-- What a selection says about the spans it takes. -/
structure Sound (O C : Marker) (t : List Char) (S : List (Nat × Nat)) : Prop where
  candidates : ∀ a ∈ S, Candidate O C t a.1 a.2
  ordered : S.Pairwise fun a b => a.2 + C.chars.length ≤ b.1
  bounded : ∀ a ∈ S, a.2 + C.chars.length ≤ t.length
  covered : ∀ p q, Candidate O C t p q → ∃ a ∈ S, a.1 ≤ p ∧ p < a.2 + C.chars.length

private theorem Greedy.start_le {pos : Nat} {S : List (Nat × Nat)} (h : Greedy O C t pos S) :
    ∀ a ∈ S, pos ≤ a.1 := by
  induction h with
  | stop => simp
  | @take pos p q rest after found least next ih =>
    intro a member
    rcases List.mem_cons.mp member with rfl | later
    · exact after
    · have := ih a later
      have := found.nonempty
      omega

theorem Greedy.head_candidate {pos p q : Nat} {rest : List (Nat × Nat)}
    (h : Greedy O C t pos ((p, q) :: rest)) : Candidate O C t p q := by
  cases h with
  | take after found least next => exact found

theorem Greedy.candidates {pos : Nat} {S : List (Nat × Nat)} (h : Greedy O C t pos S) :
    ∀ a ∈ S, Candidate O C t a.1 a.2 := by
  induction h with
  | stop => simp
  | take after found least next ih =>
    intro a member
    rcases List.mem_cons.mp member with rfl | later
    · exact found
    · exact ih a later

theorem Greedy.ordered {pos : Nat} {S : List (Nat × Nat)} (h : Greedy O C t pos S) :
    S.Pairwise fun a b => a.2 + C.chars.length ≤ b.1 := by
  induction h with
  | stop => exact List.Pairwise.nil
  | take after found least next ih => exact List.Pairwise.cons next.start_le ih

theorem Greedy.covered {pos : Nat} {S : List (Nat × Nat)} (h : Greedy O C t pos S) :
    ∀ p q, pos ≤ p → Candidate O C t p q → ∃ a ∈ S, a.1 ≤ p ∧ p < a.2 + C.chars.length := by
  induction h with
  | stop exhausted => exact fun p q after found => absurd found (exhausted p q after)
  | @take pos p q rest after found least next ih =>
    intro p' q' after' found'
    by_cases before : p' < p
    · exact absurd found' (least p' q' after' before)
    by_cases inside : p' < q + C.chars.length
    · exact ⟨(p, q), List.mem_cons_self, Nat.le_of_not_lt before, inside⟩
    · obtain ⟨a, member, span⟩ := ih p' q' (Nat.le_of_not_lt inside) found'
      exact ⟨a, List.mem_cons_of_mem _ member, span⟩

theorem Greedy.sound {S : List (Nat × Nat)} (h : Greedy O C t 0 S) : Sound O C t S where
  candidates := h.candidates
  ordered := h.ordered
  bounded a member := (h.candidates a member).closes.le_length
  covered p q := h.covered p q (Nat.zero_le p)

end Stencil.Template
