import Stencil.Proofs.Filling

/-! Filled text holds no placeholder, so filling the output again changes nothing. -/

namespace Stencil

open Template Text Unicode Marker

/-- Every character of `text` equal to `o` up to case is followed at once by one equal to `c` up
to case, or by none at all. -/
def Inert (o c : Char) (text : List Char) : Prop :=
  ∀ front x rest, text = front ++ x :: rest → foldEq o x = true →
    (∃ y more, rest = y :: more ∧ foldEq c y = true) ∨ ∀ y ∈ rest, foldEq c y = false

section Inert

variable {o c : Char}

private theorem Shielded.append_inert {front back : List Char} (shielded : Shielded o c front)
    (inert : Inert o c back) : Inert o c (front ++ back) := by
  intro pre x rest spelled opens
  rcases List.append_eq_append_iff.mp spelled with ⟨middle, rfl, rest_back⟩ | ⟨middle, front_eq, tail⟩
  · exact inert middle x rest rest_back opens
  · cases middle with
    | nil =>
      simp only [List.append_nil] at front_eq
      exact inert [] x rest (by simpa using tail.symm) opens
    | cons z middle =>
      simp only [List.cons_append, List.cons.injEq] at tail
      obtain ⟨rfl, rfl⟩ := tail
      obtain ⟨y, more, rfl, closes⟩ := shielded pre x middle front_eq opens
      exact .inl ⟨y, more ++ back, rfl, closes⟩

private theorem shielded_flatMap {α : Type} {f : α → List Char} {xs : List α}
    (each : ∀ x ∈ xs, Shielded o c (f x)) : Shielded o c (xs.flatMap f) := by
  induction xs with
  | nil => exact shielded_of_forall (by simp)
  | cons x xs ih =>
    rw [List.flatMap_cons]
    exact (each x List.mem_cons_self).append (ih fun y member => each y (List.mem_cons_of_mem _ member))

variable {O C : Marker} {t : List Char}

private theorem Inert.not_candidate (single_opening : O.chars = [o])
    (single_closing : C.chars = [c])
    (inert : Inert o c t) (p q : Nat) : ¬ Candidate O C t p q := by
  intro found
  have nonempty := found.nonempty
  simp only [single_opening, List.length_singleton] at nonempty
  obtain ⟨x, rest, at_p, opening_char⟩ := (matchesAt_single single_opening).mp found.opens
  have at_next : t.drop (p + 1) = rest := by
    rw [← List.drop_drop, at_p]
    rfl
  rcases inert (t.take p) x rest (by rw [← at_p, List.take_append_drop]) opening_char with
    ⟨y, more, rfl, closing_char⟩ | never
  · have closes : C.MatchesAt t (p + 1) :=
      (matchesAt_single single_closing).mpr ⟨y, more, at_next, closing_char⟩
    exact found.nearest (p + 1) (by simp [single_opening]) nonempty closes
  · have size : t.length - (p + 1) = rest.length := by
      simpa using congrArg List.length at_next
    have bound := found.closes.le_length
    simp only [single_closing, List.length_singleton] at bound
    obtain ⟨z, inside, closing_char⟩ := mem_of_matchesAt single_closing
      (at_next.trans (List.append_nil rest).symm) (Nat.le_of_lt nonempty) (by omega) found.closes
    simp [never z inside] at closing_char

end Inert

/-! ### The text after the last placeholder -/

private theorem positionsFrom_end_le (k : Nat) (pieces : List (List Char × Span))
    (sizes : ∀ x ∈ pieces, x.2.closing.length = k) (n : Nat) :
    ∀ a ∈ positionsFrom n pieces,
      a.2 + k ≤ n + (pieces.flatMap fun piece => piece.1 ++ piece.2.chars).length := by
  induction pieces generalizing n with
  | nil => simp [positionsFrom]
  | cons piece rest ih =>
    obtain ⟨gap, s⟩ := piece
    have closing : s.closing.length = k := sizes (gap, s) List.mem_cons_self
    intro a member
    simp only [positionsFrom, List.mem_cons] at member
    rcases member with rfl | later
    · simp only [List.flatMap_cons, List.length_append, Span.chars]
      omega
    · have bound := ih (fun x member => sizes x (List.mem_cons_of_mem _ member)) _ a later
      simp only [List.flatMap_cons, List.length_append, Span.chars] at bound ⊢
      omega

private theorem not_candidate_in_trail (O C : Marker) (t : List Char) {p q : Nat}
    (in_trail : t.length - (scan O C t).trail.length ≤ p) : ¬ Candidate O C t p q := by
  intro found
  obtain ⟨a, member, -, inside⟩ := (greedy_scan O C t).sound.covered p q found
  have ends := positionsFrom_end_le C.chars.length _
    (fun x member => (scanFrom_sizes O C [] t x member).2) 0 a member
  have spelled := congrArg List.length (scan_chars O C t)
  simp only [Layout.chars, List.length_append] at spelled
  simp only [scan] at ends spelled in_trail
  omega

variable {o c : Char}

private theorem scan_trail_inert {O C : Marker} (single_opening : O.chars = [o])
    (single_closing : C.chars = [c]) (t : List Char) : Inert o c (scan O C t).trail := by
  intro front x rest spelled opening_char
  obtain ⟨F, whole⟩ : ∃ F, t = F ++ front ++ x :: rest := by
    have := scan_chars O C t
    rw [Layout.chars, spelled] at this
    exact ⟨_, by simpa using this.symm⟩
  generalize hk : t.length - (scan O C t).trail.length + front.length = k
  have at_k : t.drop k = x :: rest := by
    have size := congrArg List.length whole
    rw [spelled] at hk
    simp only [List.length_append, List.length_cons] at size hk
    rw [whole, show k = (F ++ front).length by simp only [List.length_append]; omega]
    simp
  have opens : O.MatchesAt t k := (matchesAt_single single_opening).mpr ⟨x, rest, at_k, opening_char⟩
  have at_next : t.drop (k + 1) = rest := by
    rw [← List.drop_drop, at_k]
    rfl
  rcases closing_at_once_or_never opens (fun q => not_candidate_in_trail O C t (by omega)) with
    at_once | never
  · simp only [single_opening, List.length_singleton] at at_once
    obtain ⟨y, more, at_y, closing_char⟩ := (matchesAt_single single_closing).mp at_once
    exact .inl ⟨y, more, at_next ▸ at_y, closing_char⟩
  · right
    intro y member
    cases closing_char : foldEq c y with
    | false => rfl
    | true =>
      obtain ⟨r, from_next, -, closes⟩ := exists_matchesAt_of_mem single_closing
        (at_next.trans (List.append_nil rest).symm) member closing_char
      exact absurd closes (never r (by simp only [single_opening, List.length_singleton]; omega))

private theorem Layout.fillWith_inert (l : Layout) (replacements : List (List Char))
    (gaps : ∀ piece ∈ l.pieces, Shielded o c piece.1)
    (plain : ∀ r ∈ replacements, ∀ y ∈ r, foldEq o y = false) (trail : Inert o c l.trail) :
    Inert o c (l.fillWith replacements) := by
  apply Shielded.append_inert _ trail
  apply shielded_flatMap
  intro pair member
  exact (gaps pair.1 (List.of_mem_zip member).1).append
    (shielded_of_forall (plain pair.2 (List.of_mem_zip member).2))

/-! ### Filling filled text -/

private theorem scan_pieces_eq_nil {O C : Marker} {t : List Char}
    (none_anywhere : ∀ p q, ¬ Candidate O C t p q) : (scan O C t).pieces = [] := by
  have same := (greedy_scan O C t).unique (.stop fun p q _ => none_anywhere p q)
  cases pieces : (scan O C t).pieces with
  | nil => rfl
  | cons piece rest => simp [Layout.positions, pieces, positionsFrom] at same

private theorem render_of_scan_pieces_eq_nil (e : Engine) (text : String) (data : Json)
    (empty : (scan e.opening e.closing text.toList).pieces = []) :
    e.render text data = ⟨text, []⟩ := by
  simp [Engine.render, fill, fillFound, placeholders, Layout.ranges, empty, rangesFrom]

private theorem rules_patterns (e : Engine) (template : String) (data : Json) :
    (e.render template data).rules.map (·.1) =
      (scan e.opening e.closing template.toList).pieces.map (·.2.chars) := by
  simpa [Rendering.rules, Function.comp_def] using render_span_texts e template data

/-- With single-character markers that do not match each other, and replacements that hold no
character matching the opening marker, the output of filling is inert. -/
theorem parse_inert (e : Engine) (template : String) (data : Json)
    (single_opening : e.opening.chars = [o]) (single_closing : e.closing.chars = [c])
    (distinct : foldEq o c = false)
    (plain : ∀ s ∈ (e.render template data).substitutions, ∀ y ∈ s.replacement.toList,
      foldEq o y = false) :
    Inert o c (e.parse template data).toList := by
  have in_place := scan_in_place single_opening single_closing distinct template.toList
  have plain_rules : ∀ rule ∈ (e.render template data).rules, ∀ y ∈ rule.2, foldEq o y = false := by
    simp only [Rendering.rules, List.mem_map]
    rintro _ ⟨s, member, rfl⟩
    exact plain s member
  have filled := Layout.foldl_replaceFirst_eq_fillWith (scan e.opening e.closing template.toList).trail
    _ _ [] (rules_patterns e template data) in_place plain_rules (shielded_of_forall (by simp))
  rw [List.nil_append, List.nil_append] at filled
  rw [parse_eq_afterRules, ← Rendering.length_rules, afterRules_length]
  conv => rhs; rw [← scan_chars e.opening e.closing template.toList]
  rw [filled]
  apply Layout.fillWith_inert _ _ (fun piece member => (in_place piece member).1)
  · intro r member
    obtain ⟨rule, inside, rfl⟩ := List.mem_map.mp member
    exact plain_rules rule inside
  · exact scan_trail_inert single_opening single_closing template.toList

private theorem plain_of_replacements {r : Rendering} {o : Char} {replacements : List (List Char)}
    (same : r.substitutions.map (·.replacement.toList) = replacements)
    (plain : (replacements.flatten.all fun y => !foldEq o y) = true) :
    ∀ s ∈ r.substitutions, ∀ y ∈ s.replacement.toList, foldEq o y = false := by
  intro s member y inside
  have written : y ∈ replacements.flatten := by
    rw [← same]
    exact List.mem_flatten.mpr ⟨_, List.mem_map_of_mem member, inside⟩
  simpa using List.all_eq_true.mp plain y written

/-- Filling is idempotent when the markers are single characters that do not match each other
and no replacement holds a character matching the opening marker: the output holds no
placeholder, so filling it again reports nothing and leaves it as it is. -/
theorem parse_idempotent (e : Engine) (template : String) (data : Json)
    (single_opening : e.opening.chars = [o]) (single_closing : e.closing.chars = [c])
    (distinct : foldEq o c = false)
    (plain : ∀ s ∈ (e.render template data).substitutions, ∀ y ∈ s.replacement.toList,
      foldEq o y = false) :
    (scan e.opening e.closing (e.parse template data).toList).pieces = [] ∧
      (e.render (e.parse template data) data).substitutions = [] ∧
      e.parse (e.parse template data) data = e.parse template data := by
  have inert := parse_inert e template data single_opening single_closing distinct plain
  have empty := scan_pieces_eq_nil (inert.not_candidate single_opening single_closing)
  have again := render_of_scan_pieces_eq_nil e (e.parse template data) data empty
  exact ⟨empty, by rw [again], by rw [Engine.parse, again]⟩

/-- With the default braces, `a{x}{}b` fills to `a1{}b`, whose empty braces are no placeholder:
filling it again changes nothing. -/
theorem parse_braces_twice :
    (∀ s ∈ (Engine.new.render "a\x7bx\x7d\x7b\x7db" (Json.object [("x", .string "1")])).substitutions,
      ∀ y ∈ s.replacement.toList, foldEq '\x7b' y = false) ∧
    (scan Engine.new.opening Engine.new.closing
        (Engine.new.parse "a\x7bx\x7d\x7b\x7db" (Json.object [("x", .string "1")])).toList).pieces = [] ∧
    (Engine.new.render (Engine.new.parse "a\x7bx\x7d\x7b\x7db" (Json.object [("x", .string "1")]))
        (Json.object [("x", .string "1")])).substitutions = [] ∧
    Engine.new.parse (Engine.new.parse "a\x7bx\x7d\x7b\x7db" (Json.object [("x", .string "1")]))
        (Json.object [("x", .string "1")]) =
      Engine.new.parse "a\x7bx\x7d\x7b\x7db" (Json.object [("x", .string "1")]) := by
  have found : placeholders Engine.new.opening Engine.new.closing "a\x7bx\x7d\x7b\x7db" =
      [⟨"\x7bx\x7d", 1, 4, "x", "", []⟩] := by
    decide +kernel
  have replacements : (Engine.new.render "a\x7bx\x7d\x7b\x7db"
      (Json.object [("x", .string "1")])).substitutions.map (·.replacement.toList) = [['1']] := by
    simp only [Engine.render, fill, fillFound, found, List.map_cons, List.map_nil, substitute,
      findValue, Placeholder.isPath, String.contains_char_eq]
    decide +kernel
  have plain := plain_of_replacements (o := '\x7b') replacements (by decide +kernel)
  exact ⟨plain, parse_idempotent Engine.new _ _ rfl rfl (by decide +kernel) plain⟩

end Stencil
