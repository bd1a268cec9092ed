import Mathlib.Data.List.TakeWhile
import Stencil.Proofs.SpanReport

/-! Printing a placeholder and reading it back. -/

namespace Stencil.Template

open Marker Text

/-- The inner text of a placeholder with these parts. -/
def printInner (key alternative : String) (names : List String) : List Char :=
  key.toList ++ (if alternative = "" then [] else ':' :: alternative.toList) ++
    (if names = [] then [] else '|' :: (String.intercalate "," names).toList)

/-- What printing needs for the text to read back: separators only where they separate, names
that trimming and splitting leave alone, and markers that match nowhere inside. -/
structure Printable (O C : Marker) (key alternative : String) (names : List String) : Prop where
  key_colon_free : ':' ∉ key.toList
  key_bar_free : '|' ∉ key.toList
  alternative_bar_free : '|' ∉ alternative.toList
  names_present : ∀ name ∈ names, name ≠ ""
  names_trimmed : ∀ name ∈ names, trim name = name
  names_comma_free : ∀ name ∈ names, ',' ∉ name.toList
  names_bar_free : ∀ name ∈ names, '|' ∉ name.toList
  names_colon_free : alternative = "" → ∀ name ∈ names, ':' ∉ name.toList
  nonempty : printInner key alternative names ≠ []
  no_opening : ∀ i, ¬ O.MatchesAt (printInner key alternative names) i
  no_early_closing : ∀ i < (printInner key alternative names).length,
    ¬ C.MatchesAt (printInner key alternative names ++ C.chars) i

private theorem forall_mem_intercalate {p : Char → Prop} {sep : List Char}
    {parts : List (List Char)}
    (on_sep : ∀ c ∈ sep, p c) (on_parts : ∀ part ∈ parts, ∀ c ∈ part, p c) :
    ∀ c ∈ sep.intercalate parts, p c := by
  induction parts with
  | nil => simp
  | cons part rest ih =>
    have later := ih fun part member => on_parts part (List.mem_cons_of_mem _ member)
    cases rest with
    | nil => simpa using on_parts part List.mem_cons_self
    | cons next rest =>
      intro c member
      simp only [List.intercalate_cons_cons, List.mem_append] at member
      rcases member with (here | between) | further
      · exact on_parts part List.mem_cons_self c here
      · exact on_sep c between
      · exact later c further

private theorem strip_of_inside {O C : Marker} {s pre mid post : List Char}
    (spelled : s = pre ++ mid ++ post) (no_opening : ∀ i, ¬ O.MatchesAt s i)
    (no_early_closing : ∀ i < s.length, ¬ C.MatchesAt (s ++ C.chars) i) :
    strip O C mid = mid := by
  have opening_absent : ∀ i, ¬ O.MatchesAt mid i := by
    intro i here
    apply no_opening (pre.length + i)
    rw [spelled, List.append_assoc, matchesAt_append_left]
    exact here.append_right post
  have closing_absent : ∀ i, ¬ C.MatchesAt mid i := by
    intro i here
    have bound := here.le_length
    have nonempty := List.length_pos_iff.mpr C.nonempty
    apply no_early_closing (pre.length + i) (by simp [spelled]; omega)
    rw [spelled, List.append_assoc, List.append_assoc, matchesAt_append_left]
    exact here.append_right _
  simp only [strip, erase_of_forall_not_matchesAt opening_absent,
    erase_of_forall_not_matchesAt closing_absent]

private theorem bne_of_not_mem {x c : Char} {text : List Char} (absent : x ∉ text)
    (member : c ∈ text) :
    (c != x) = true := by
  have different : c ≠ x := fun same => absent (same ▸ member)
  simp [different]

section Parts

variable {O C : Marker} {key alternative : String} {names : List String}

private theorem toList_intercalate_names :
    (String.intercalate "," names).toList = [','].intercalate (names.map String.toList) := by
  simp

private theorem forall_mem_chain {p : Char → Prop} (comma : p ',')
    (on_names : ∀ name ∈ names, ∀ c ∈ name.toList, p c) :
    ∀ c ∈ (String.intercalate "," names).toList, p c := by
  have on_sep : ∀ c ∈ [','], p c := by simpa using comma
  have on_parts : ∀ part ∈ names.map String.toList, ∀ c ∈ part, p c := by simpa using on_names
  rw [toList_intercalate_names]
  exact forall_mem_intercalate on_sep on_parts

private theorem keyPart_printInner (printable : Printable O C key alternative names) :
    keyPart (printInner key alternative names) = key.toList := by
  have plain : ∀ c ∈ key.toList, (c != ':' && c != '|') = true := fun c member => by
    simp [bne_of_not_mem printable.key_colon_free member,
      bne_of_not_mem printable.key_bar_free member]
  unfold keyPart printInner
  rw [List.append_assoc, List.takeWhile_append_of_pos plain]
  by_cases no_alternative : alternative = "" <;> by_cases no_names : names = [] <;>
    simp [no_alternative, no_names]

private theorem alternativePart_printInner (printable : Printable O C key alternative names) :
    alternativePart (printInner key alternative names) = alternative.toList := by
  have before : ∀ c ∈ key.toList, (c != ':') = true := fun c member =>
    bne_of_not_mem printable.key_colon_free member
  unfold alternativePart printInner
  rw [List.append_assoc, List.dropWhile_append_of_pos before]
  by_cases no_alternative : alternative = ""
  · have chain : ∀ c ∈ (if names = [] then [] else '|' :: (String.intercalate "," names).toList),
        (c != ':') = true := by
      split
      · simp
      · have names_plain : ∀ c ∈ (String.intercalate "," names).toList, (c != ':') = true :=
          forall_mem_chain (by decide) fun name named c inside =>
            bne_of_not_mem (printable.names_colon_free no_alternative name named) inside
        intro c member
        rcases List.mem_cons.mp member with rfl | inside
        · decide
        · exact names_plain c inside
    simp only [no_alternative, ↓reduceIte, List.nil_append]
    rw [List.dropWhile_eq_nil_iff.mpr chain]
    simp
  · have bar_free : ∀ c ∈ alternative.toList, (c != '|') = true := fun c member =>
      bne_of_not_mem printable.alternative_bar_free member
    simp only [no_alternative, ↓reduceIte, List.cons_append, bne_self_eq_false,
      Bool.false_eq_true, not_false_eq_true, List.dropWhile_cons_of_neg]
    rw [List.takeWhile_append_of_pos bar_free]
    by_cases no_names : names = [] <;> simp [no_names]

private theorem chainPart_printInner (printable : Printable O C key alternative names) :
    chainPart (printInner key alternative names) =
      if names = [] then none else some (String.intercalate "," names).toList := by
  have before : ∀ c ∈ key.toList ++ (if alternative = "" then [] else ':' :: alternative.toList),
      (c != '|') = true := by
    intro c member
    rcases List.mem_append.mp member with in_key | in_alternative
    · exact bne_of_not_mem printable.key_bar_free in_key
    · split at in_alternative
      · simp at in_alternative
      · rcases List.mem_cons.mp in_alternative with rfl | inside
        · decide
        · exact bne_of_not_mem printable.alternative_bar_free inside
  unfold chainPart printInner
  rw [List.dropWhile_append_of_pos before]
  by_cases no_names : names = [] <;> simp [no_names]

private theorem chainNames_intercalate (printable : Printable O C key alternative names)
    (some_names : names ≠ []) :
    chainNames (String.ofList (String.intercalate "," names).toList) = names := by
  have comma_free : ∀ part ∈ names.map String.toList, ',' ∉ part := by
    simpa using printable.names_comma_free
  rw [String.ofList_toList, chainNames, toList_intercalate_names,
    List.splitOn_intercalate ',' comma_free (by simpa using some_names), List.map_map]
  have trimmed : names.map ((fun part => trim (String.ofList part)) ∘ String.toList) = names := by
    conv_rhs => rw [← List.map_id names]
    apply List.map_congr_left
    intro name named
    simp [String.ofList_toList, printable.names_trimmed name named]
  rw [trimmed, List.filter_eq_self]
  intro name named
  simp [printable.names_present name named]

private theorem strip_inside_printInner (printable : Printable O C key alternative names)
    (pre mid post : List Char) (spelled : printInner key alternative names = pre ++ mid ++ post) :
    strip O C mid = mid :=
  strip_of_inside spelled printable.no_opening printable.no_early_closing

private theorem strip_key (printable : Printable O C key alternative names) :
    strip O C key.toList = key.toList :=
  strip_inside_printInner printable [] key.toList
    ((if alternative = "" then [] else ':' :: alternative.toList) ++
      (if names = [] then [] else '|' :: (String.intercalate "," names).toList))
    (by simp [printInner])

private theorem strip_alternative (printable : Printable O C key alternative names) :
    strip O C alternative.toList = alternative.toList := by
  by_cases no_alternative : alternative = ""
  · exact strip_inside_printInner printable [] alternative.toList
      (printInner key alternative names) (by simp [no_alternative])
  · exact strip_inside_printInner printable (key.toList ++ [':']) alternative.toList
      (if names = [] then [] else '|' :: (String.intercalate "," names).toList)
      (by simp [printInner, no_alternative])

private theorem strip_chain (printable : Printable O C key alternative names) :
    strip O C (String.intercalate "," names).toList = (String.intercalate "," names).toList := by
  by_cases no_names : names = []
  · exact strip_inside_printInner printable [] (String.intercalate "," names).toList
      (printInner key alternative names) (by simp [no_names])
  · exact strip_inside_printInner printable
      (key.toList ++ (if alternative = "" then [] else ':' :: alternative.toList) ++ ['|'])
      (String.intercalate "," names).toList [] (by simp [printInner, no_names])

private theorem ofSpan_printInner (printable : Printable O C key alternative names)
    (start stop : Nat) :
    Placeholder.ofSpan O C ⟨O.chars, printInner key alternative names, C.chars⟩ start stop =
      { span := String.ofList (O.chars ++ printInner key alternative names ++ C.chars)
        start, stop, key, alternative, modifiers := names } := by
  simp only [Placeholder.ofSpan, Span.chars, keyPart_printInner printable,
    alternativePart_printInner printable, chainPart_printInner printable, strip_key printable,
    strip_alternative printable, String.ofList_toList, Placeholder.mk.injEq, true_and]
  by_cases no_names : names = []
  · simp [no_names]
  · simp only [no_names, ↓reduceIte, strip_chain printable]
    exact chainNames_intercalate printable no_names

end Parts

section Printed

variable {O C : Marker} {key alternative : String} {names : List String}

private theorem greedy_printInner (printable : Printable O C key alternative names) :
    Greedy O C (O.chars ++ printInner key alternative names ++ C.chars) 0
      [(0, O.chars.length + (printInner key alternative names).length)] := by
  have opening_size := List.length_pos_iff.mpr O.nonempty
  have inner_size := List.length_pos_iff.mpr printable.nonempty
  have whole : O.chars ++ printInner key alternative names ++ C.chars =
      O.chars ++ (printInner key alternative names ++ C.chars) := List.append_assoc _ _ _
  refine Greedy.take (Nat.le_refl 0) ⟨?_, ?_, by omega, ?_⟩
    (fun p q _ before => absurd before (Nat.not_lt_zero p)) (Greedy.stop ?_)
  · rw [whole]
    simpa [MatchesAt] using prefixMatch_append_of (printInner key alternative names ++ C.chars)
      (prefixMatch_self O.chars)
  · have closes := (matchesAt_append_left C (O.chars ++ printInner key alternative names)
      C.chars 0).mpr (by simpa [MatchesAt] using prefixMatch_self C.chars)
    simpa using closes
  · intro r from_end before closing
    obtain ⟨j, rfl⟩ := Nat.exists_eq_add_of_le from_end
    rw [whole, Nat.zero_add, matchesAt_append_left] at closing
    exact printable.no_early_closing j (by omega) closing
  · intro p q after found
    have bound := found.opens.le_length
    simp only [List.length_append] at after bound
    omega

/-- Reading a printed placeholder gives it back. Between markers that match nowhere inside, a
printable key, alternative and list of modifier names make the template's one placeholder,
spanning all of it, with exactly these parts; it reads as a path exactly when the key has a dot
or a bracket. -/
theorem placeholders_printInner (O C : Marker) (key alternative : String) (names : List String)
    (printable : Printable O C key alternative names) :
    placeholders O C (String.ofList (O.chars ++ printInner key alternative names ++ C.chars)) =
        [{ span := String.ofList (O.chars ++ printInner key alternative names ++ C.chars)
           start := 0
           stop := utf8Length (O.chars ++ printInner key alternative names ++ C.chars)
           key, alternative
           modifiers := names }] ∧
      ∀ p ∈ placeholders O C
          (String.ofList (O.chars ++ printInner key alternative names ++ C.chars)),
        p.isPath = true ↔ '.' ∈ key.toList ∨ '[' ∈ key.toList := by
  have positions : (scan O C (O.chars ++ printInner key alternative names ++ C.chars)).positions =
      [(0, O.chars.length + (printInner key alternative names).length)] :=
    (greedy_scan O C _).unique (greedy_printInner printable)
  have whole := placed_of_split (O := O) (C := C) [] []
    ⟨O.chars, printInner key alternative names, C.chars⟩ rfl rfl
  simp only [Span.chars, List.nil_append, List.append_nil, List.length_nil, Nat.zero_add,
    utf8Length_nil] at whole
  have read : placeholders O C
      (String.ofList (O.chars ++ printInner key alternative names ++ C.chars)) =
      [{ span := String.ofList (O.chars ++ printInner key alternative names ++ C.chars)
         start := 0
         stop := utf8Length (O.chars ++ printInner key alternative names ++ C.chars)
         key, alternative
         modifiers := names }] := by
    simp only [placeholders, String.toList_ofList, ranges_scan, positions, List.map_cons,
      List.map_nil, whole, ofSpan_printInner printable]
  refine ⟨read, ?_⟩
  rw [read]
  simp [Placeholder.isPath, String.contains_char_eq]

/-- With the default braces, `user.name:Guest|upper,title` reads back as printed. -/
theorem placeholders_read_printed_braces :
    Printable Engine.new.opening Engine.new.closing "user.name" "Guest" ["upper", "title"] ∧
      placeholders Engine.new.opening Engine.new.closing (String.ofList
          (Engine.new.opening.chars ++ printInner "user.name" "Guest" ["upper", "title"] ++
            Engine.new.closing.chars)) =
        [{ span := String.ofList (Engine.new.opening.chars ++
              printInner "user.name" "Guest" ["upper", "title"] ++ Engine.new.closing.chars)
           start := 0
           stop := utf8Length (Engine.new.opening.chars ++
              printInner "user.name" "Guest" ["upper", "title"] ++ Engine.new.closing.chars)
           key := "user.name", alternative := "Guest", modifiers := ["upper", "title"] }] := by
  have closing : Engine.new.closing.find?
      (printInner "user.name" "Guest" ["upper", "title"] ++ Engine.new.closing.chars) =
      some ⟨printInner "user.name" "Guest" ["upper", "title"], Engine.new.closing.chars, []⟩ := by
    decide +kernel
  have printable : Printable Engine.new.opening Engine.new.closing "user.name" "Guest"
      ["upper", "title"] :=
    { key_colon_free := by decide
      key_bar_free := by decide
      alternative_bar_free := by decide
      names_present := by decide
      names_trimmed := by decide +kernel
      names_comma_free := by decide
      names_bar_free := by decide
      names_colon_free := by decide
      nonempty := by decide +kernel
      no_opening := not_matchesAt_of_find?_eq_none (by decide +kernel)
      no_early_closing := (find?_eq_some_leftmost closing).2.2.2 }
  exact ⟨printable, (placeholders_printInner _ _ _ _ _ printable).1⟩

end Printed

end Stencil.Template
