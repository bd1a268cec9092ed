import Stencil.Proofs.Scanner

/-! Byte offsets of the spans a scan finds, and what the engine reports of them. -/

namespace Stencil.Template

open Marker Text

/-- The byte offset of character index `i` of `t`. -/
def byteOffset (t : List Char) (i : Nat) : Nat := utf8Length (t.take i)

/-- The characters of `t` from index `i` up to index `j`. -/
def slice (t : List Char) (i j : Nat) : List Char := (t.drop i).take (j - i)

private theorem utf8Length_pos_of_ne_nil {cs : List Char} (h : cs ≠ []) : 0 < utf8Length cs := by
  obtain ⟨c, rest, rfl⟩ := List.exists_cons_of_ne_nil h
  simp only [utf8Length_cons]
  have := c.utf8Size_pos
  omega

theorem byteOffset_eq_add_slice (t : List Char) {i j : Nat} (le : i ≤ j) :
    byteOffset t j = byteOffset t i + utf8Length (slice t i j) := by
  obtain ⟨k, rfl⟩ := Nat.exists_eq_add_of_le le
  simp [byteOffset, slice, List.take_add]

theorem slice_ne_nil {t : List Char} {i j : Nat} (lt : i < j) (le : j ≤ t.length) :
    slice t i j ≠ [] := by
  apply List.ne_nil_of_length_pos
  simp only [slice, List.length_take, List.length_drop]
  omega

theorem byteOffset_le_byteOffset (t : List Char) {i j : Nat} (le : i ≤ j) :
    byteOffset t i ≤ byteOffset t j := by
  rw [byteOffset_eq_add_slice t le]
  omega

private theorem byteOffset_lt_byteOffset {t : List Char} {i j : Nat} (lt : i < j)
    (le : j ≤ t.length) :
    byteOffset t i < byteOffset t j := by
  rw [byteOffset_eq_add_slice t (Nat.le_of_lt lt)]
  have := utf8Length_pos_of_ne_nil (slice_ne_nil lt le)
  omega

theorem byteOffset_length (t : List Char) : byteOffset t t.length = utf8Length t := by
  simp [byteOffset]

theorem byteOffset_append_length {front back : List Char} {i : Nat} (at_end : i = front.length) :
    byteOffset (front ++ back) i = utf8Length front := by
  simp [byteOffset, at_end]

theorem slice_append_middle {front middle back : List Char} {i j : Nat} (start : i = front.length)
    (stop : j = front.length + middle.length) : slice (front ++ middle ++ back) i j = middle := by
  subst start stop
  simp [slice]

theorem drop_eq_slice_append (t : List Char) {i j : Nat} (le : i ≤ j) :
    t.drop i = slice t i j ++ t.drop j := by
  obtain ⟨k, rfl⟩ := Nat.exists_eq_add_of_le le
  simp [slice, ← List.drop_drop]

theorem length_slice {t : List Char} {i j : Nat} (le : i ≤ j) (bound : j ≤ t.length) :
    (slice t i j).length = j - i := by
  simp only [slice, List.length_take, List.length_drop]
  omega

private theorem slice_append_slice (t : List Char) {i j k : Nat} (first : i ≤ j) (second : j ≤ k) :
    slice t i j ++ slice t j k = slice t i k := by
  obtain ⟨m, rfl⟩ := Nat.exists_eq_add_of_le first
  obtain ⟨n, rfl⟩ := Nat.exists_eq_add_of_le second
  have first_size : i + m - i = m := by omega
  have second_size : i + m + n - (i + m) = n := by omega
  have whole_size : i + m + n - i = m + n := by omega
  simp only [slice, first_size, second_size, whole_size, List.take_add, List.drop_drop]

/-- A span's byte ranges: the whole span, then the text between its markers. -/
structure ByteSpan where
  outer : Nat × Nat
  inner : Nat × Nat
deriving Repr, DecidableEq

/-- Both markers and the inner text take up bytes, and the span lies inside the first
`size` bytes. -/
def ByteSpan.Proper (b : ByteSpan) (size : Nat) : Prop :=
  b.outer.1 < b.inner.1 ∧ b.inner.1 < b.inner.2 ∧ b.inner.2 < b.outer.2 ∧ b.outer.2 ≤ size

def Span.byteSpan (s : Span) (start stop : Nat) : ByteSpan :=
  ⟨(start, stop), (start + utf8Length s.opening, start + utf8Length s.opening + utf8Length s.inner)⟩

def Layout.byteSpans (l : Layout) : List ByteSpan :=
  l.ranges.map fun (s, start, stop) => s.byteSpan start stop

def selectedSpan (O C : Marker) (t : List Char) (a : Nat × Nat) : ByteSpan :=
  ⟨(byteOffset t a.1, byteOffset t (a.2 + C.chars.length)),
    (byteOffset t (a.1 + O.chars.length), byteOffset t a.2)⟩

/-- A selected span as written, with its byte range. -/
def placed (O C : Marker) (t : List Char) (a : Nat × Nat) : Span × Nat × Nat :=
  (⟨slice t a.1 (a.1 + O.chars.length), slice t (a.1 + O.chars.length) a.2,
      slice t a.2 (a.2 + C.chars.length)⟩,
    byteOffset t a.1, byteOffset t (a.2 + C.chars.length))

variable {O C : Marker}

theorem scanFrom_sizes (O C : Marker) (gap rest : List Char) :
    ∀ x ∈ (scanFrom O C gap rest).pieces,
      x.2.opening.length = O.chars.length ∧ x.2.closing.length = C.chars.length := by
  fun_induction scanFrom O C gap rest with
  | case1 | case2 | case4 => simp
  | case3 gap rest o ho c hc first others hb hf ih => exact ih
  | case5 gap rest o ho c hc x xs hb hf ih =>
    intro piece member
    rcases List.mem_cons.mp member with rfl | later
    · exact ⟨(find?_eq_some_leftmost ho).2.1, (find?_eq_some_leftmost hc).2.1⟩
    · exact ih piece later

theorem placed_of_split (front back : List Char) (s : Span)
    (opening : s.opening.length = O.chars.length) (closing : s.closing.length = C.chars.length) :
    placed O C (front ++ s.chars ++ back)
        (front.length, front.length + s.opening.length + s.inner.length) =
      (s, utf8Length front, utf8Length front + utf8Length s.chars) := by
  obtain ⟨op, inner, cl⟩ := s
  simp only [Span.chars] at opening closing ⊢
  have at_front : front ++ (op ++ inner ++ cl) ++ back = front ++ (op ++ inner ++ cl ++ back) := by
    simp
  have at_opening : front ++ (op ++ inner ++ cl) ++ back = front ++ op ++ (inner ++ cl ++ back) := by
    simp
  have at_inner : front ++ (op ++ inner ++ cl) ++ back = front ++ op ++ inner ++ (cl ++ back) := by
    simp
  have at_closing : front ++ (op ++ inner ++ cl) ++ back = front ++ op ++ inner ++ cl ++ back := by
    simp
  simp only [placed, Prod.mk.injEq, Span.mk.injEq]
  refine ⟨⟨?_, ?_, ?_⟩, ?_, ?_⟩
  · rw [at_opening]
    exact slice_append_middle rfl (by rw [opening])
  · rw [at_inner]
    exact slice_append_middle (by simp only [List.length_append, opening])
      (by simp only [List.length_append])
  · rw [at_closing]
    exact slice_append_middle (by simp only [List.length_append])
      (by simp only [List.length_append, closing])
  · rw [at_front]
    exact byteOffset_append_length rfl
  · rw [at_closing, byteOffset_append_length (by simp only [List.length_append]; omega)]
    simp

private theorem rangesFrom_eq_map_placed (pre : List Char) (pieces : List (List Char × Span))
    (trail : List Char)
    (sizes : ∀ x ∈ pieces, x.2.opening.length = O.chars.length ∧
      x.2.closing.length = C.chars.length) :
    rangesFrom (utf8Length pre) pieces =
      (positionsFrom pre.length pieces).map (placed O C (pre ++ (Layout.mk pieces trail).chars)) := by
  induction pieces generalizing pre with
  | nil => rfl
  | cons piece rest ih =>
    obtain ⟨gap, s⟩ := piece
    obtain ⟨opening, closing⟩ := sizes (gap, s) List.mem_cons_self
    have later := ih (pre ++ gap ++ s.chars) fun x member => sizes x (List.mem_cons_of_mem _ member)
    have whole : pre ++ (Layout.mk ((gap, s) :: rest) trail).chars =
        (pre ++ gap) ++ s.chars ++ (Layout.mk rest trail).chars := by
      simp [Layout.chars, List.append_assoc]
    have head := placed_of_split (pre ++ gap) (Layout.mk rest trail).chars s opening closing
    have next : (pre ++ gap).length + s.opening.length + s.inner.length + s.closing.length =
        (pre ++ gap ++ s.chars).length := by
      simp only [Span.chars, List.length_append]
      omega
    simp only [List.length_append] at head next
    simp only [rangesFrom, positionsFrom, List.map_cons, whole, head, utf8Length_append,
      List.cons.injEq, true_and]
    rw [next, ← utf8Length_append, ← utf8Length_append, later, List.length_append,
      List.length_append]

theorem ranges_scan (O C : Marker) (t : List Char) :
    (scan O C t).ranges = (scan O C t).positions.map (placed O C t) := by
  have sizes := scanFrom_sizes O C [] t
  have spelled := scan_chars O C t
  have := rangesFrom_eq_map_placed [] (scan O C t).pieces (scan O C t).trail sizes
  simpa [Layout.ranges, Layout.positions, spelled] using this

private theorem byteOffset_le_utf8Length (t : List Char)
    (i : Nat) : byteOffset t i ≤ utf8Length t := by
  have whole := congrArg utf8Length (List.take_append_drop i t)
  rw [utf8Length_append] at whole
  simp only [byteOffset]
  omega

theorem byteSpan_placed (t : List Char) {a : Nat × Nat} (inside : a.1 + O.chars.length ≤ a.2) :
    (placed O C t a).1.byteSpan (placed O C t a).2.1 (placed O C t a).2.2 = selectedSpan O C t a := by
  simp only [placed, Span.byteSpan, selectedSpan]
  rw [byteOffset_eq_add_slice t (Nat.le_add_right a.1 O.chars.length),
    byteOffset_eq_add_slice t inside, byteOffset_eq_add_slice t (Nat.le_add_right a.1 O.chars.length)]

theorem chars_placed (t : List Char) {a : Nat × Nat} (inside : a.1 + O.chars.length ≤ a.2) :
    (placed O C t a).1.chars = slice t a.1 (a.2 + C.chars.length) := by
  simp only [placed, Span.chars]
  rw [slice_append_slice t (Nat.le_add_right _ _) inside,
    slice_append_slice t (Nat.le_trans (Nat.le_add_right _ _) inside) (Nat.le_add_right _ _)]

private theorem Candidate.proper {p q : Nat} (found : Candidate O C t p q) :
    (selectedSpan O C t (p, q)).Proper (utf8Length t) := by
  have bound := found.closes.le_length
  have opening := List.length_pos_iff.mpr O.nonempty
  have closing := List.length_pos_iff.mpr C.nonempty
  have inner := found.nonempty
  refine ⟨?_, ?_, ?_, byteOffset_le_utf8Length t _⟩
  · exact byteOffset_lt_byteOffset (by simpa using opening) (by omega)
  · exact byteOffset_lt_byteOffset inner (by omega)
  · exact byteOffset_lt_byteOffset (by simpa using closing) bound

private theorem Sound.byte_ordered {S : List (Nat × Nat)} (sound : Sound O C t S) :
    (S.map (selectedSpan O C t)).Pairwise fun b b' => b.outer.2 ≤ b'.outer.1 := by
  apply List.pairwise_map.mpr
  exact sound.ordered.imp fun before => byteOffset_le_byteOffset t before

theorem placeholders_spans (O C : Marker) (template : String) :
    (placeholders O C template).map (fun p => (p.span.toList, p.start, p.stop)) =
      (scan O C template.toList).positions.map fun a =>
        (slice template.toList a.1 (a.2 + C.chars.length), byteOffset template.toList a.1,
          byteOffset template.toList (a.2 + C.chars.length)) := by
  have candidates := (greedy_scan O C template.toList).candidates
  simp only [placeholders, ranges_scan, List.map_map]
  apply List.map_congr_left
  intro a member
  have inside := Nat.le_of_lt (candidates a member).nonempty
  simp only [Function.comp_apply, Placeholder.ofSpan, placed, String.toList_ofList, Prod.mk.injEq,
    and_true]
  exact chars_placed template.toList inside

private theorem substitute_reports (registry : Registry) (aliases : AliasTable) (data : Json)
    (p : Placeholder) :
    ((substitute registry aliases data p).span, (substitute registry aliases data p).start,
      (substitute registry aliases data p).stop) = (p.span, p.start, p.stop) := by
  unfold substitute
  split <;> rfl

/-- A rendering reports, in order, the placeholders of its template. -/
theorem render_reports (e : Engine) (template : String) (data : Json) :
    (e.render template data).substitutions.map (fun s => (s.span, s.start, s.stop)) =
      (placeholders e.opening e.closing template).map fun p => (p.span, p.start, p.stop) := by
  simp only [Engine.render, fill, fillFound, List.map_map]
  apply List.map_congr_left
  intro p _
  exact substitute_reports e.registry e.aliases data p

theorem byteSpans_scan (O C : Marker) (t : List Char) :
    (scan O C t).byteSpans = (scan O C t).positions.map (selectedSpan O C t) := by
  have candidates := (greedy_scan O C t).candidates
  simp only [Layout.byteSpans, ranges_scan, List.map_map]
  apply List.map_congr_left
  intro a member
  exact byteSpan_placed t (Nat.le_of_lt (candidates a member).nonempty)

/-- The placeholders of a template are the greedy leftmost selection of candidates, the only
one: the scan's byte ranges are those of the selection, whose spans are candidates, proper,
in order and disjoint, with every candidate starting inside one of them; the engine's
placeholders and the substitutions it reports carry these spans' text and byte ranges. -/
theorem scan_selects_greedy_leftmost (e : Engine) (template : String) (data : Json) :
    ∃ S, (∀ S', Greedy e.opening e.closing template.toList 0 S' ↔ S' = S) ∧
      Sound e.opening e.closing template.toList S ∧
      (scan e.opening e.closing template.toList).byteSpans =
        S.map (selectedSpan e.opening e.closing template.toList) ∧
      (∀ b ∈ (scan e.opening e.closing template.toList).byteSpans,
        b.Proper (utf8Length template.toList)) ∧
      (scan e.opening e.closing template.toList).byteSpans.Pairwise
        (fun b b' => b.outer.2 ≤ b'.outer.1) ∧
      (placeholders e.opening e.closing template).map (fun p => (p.span.toList, p.start, p.stop)) =
        S.map (fun a => (slice template.toList a.1 (a.2 + e.closing.chars.length),
          byteOffset template.toList a.1,
          byteOffset template.toList (a.2 + e.closing.chars.length))) ∧
      (e.render template data).substitutions.map (fun s => (s.span, s.start, s.stop)) =
        (placeholders e.opening e.closing template).map fun p => (p.span, p.start, p.stop) := by
  have greedy := greedy_scan e.opening e.closing template.toList
  have sound := greedy.sound
  have spans := byteSpans_scan e.opening e.closing template.toList
  refine ⟨_, fun S' => ⟨fun other => other.unique greedy, fun same => same ▸ greedy⟩, sound,
    spans, ?_, ?_, placeholders_spans _ _ template, render_reports e template data⟩
  · rw [spans]
    intro b member
    obtain ⟨a, selected, rfl⟩ := List.mem_map.mp member
    exact (sound.candidates a selected).proper
  · rw [spans]
    exact sound.byte_ordered

end Stencil.Template
