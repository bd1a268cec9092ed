import Stencil.Proofs.Shielding

/-! Filling a template rule by rule, and when each placeholder is rewritten in its own place. -/

namespace Stencil

open Template Text Unicode Marker

/-- The rules a rendering applies, in order: each placeholder's text and its replacement. -/
def Rendering.rules (r : Rendering) : List (List Char × List Char) :=
  r.substitutions.map fun s => (s.span.toList, s.replacement.toList)

@[simp] theorem Rendering.length_rules (r : Rendering) : r.rules.length = r.substitutions.length := by
  simp [Rendering.rules]

theorem Rendering.getElem_rules (r : Rendering) (i : Nat) (h : i < r.rules.length)
    (hs : i < r.substitutions.length) :
    r.rules[i] = (r.substitutions[i].span.toList, r.substitutions[i].replacement.toList) := by
  simp [Rendering.rules]

/-- The template with each span replaced, in place, by the text given for it. -/
def Template.Layout.fillWith (l : Template.Layout) (replacements : List (List Char)) : List Char :=
  ((l.pieces.zip replacements).flatMap fun (piece, replacement) => piece.1 ++ replacement) ++
    l.trail

theorem parse_eq_afterRules (e : Engine) (template : String) (data : Json) :
    (e.parse template data).toList =
      afterRules template.toList (e.render template data).rules
        (e.render template data).substitutions.length := by
  rw [← Rendering.length_rules, afterRules_length]
  simp [Engine.parse, Engine.render, fill, fillFound, Rendering.rules, List.foldl_map]

private theorem render_spans (e : Engine) (template : String) (data : Json) :
    (e.render template data).substitutions.map (fun s => (s.span.toList, s.start, s.stop)) =
      (scan e.opening e.closing template.toList).positions.map fun a =>
        (slice template.toList a.1 (a.2 + e.closing.chars.length), byteOffset template.toList a.1,
          byteOffset template.toList (a.2 + e.closing.chars.length)) := by
  have reports := congrArg (List.map fun x => (x.1.toList, x.2)) (render_reports e template data)
  simp only [List.map_map] at reports
  rw [← placeholders_spans]
  exact reports

private theorem rangesFrom_spans (n : Nat) (pieces : List (List Char × Span)) :
    (rangesFrom n pieces).map (·.1) = pieces.map (·.2) := by
  induction pieces generalizing n with
  | nil => rfl
  | cons piece rest ih => simp [rangesFrom, ih]

theorem render_span_texts (e : Engine) (template : String) (data : Json) :
    (e.render template data).substitutions.map (·.span.toList) =
      (scan e.opening e.closing template.toList).pieces.map (·.2.chars) := by
  have reports := congrArg (List.map fun x => x.1.toList) (render_reports e template data)
  have spans := congrArg (List.map Span.chars)
    (rangesFrom_spans 0 (scan e.opening e.closing template.toList).pieces)
  simp only [List.map_map, Function.comp_def] at reports spans
  rw [← spans]
  simpa [placeholders, Layout.ranges, Placeholder.ofSpan, Function.comp_def] using reports

private theorem getElem_eq_of_map_eq {α β γ : Type} {f : α → γ} {g : β → γ} {xs : List α}
    {ys : List β}
    (same : xs.map f = ys.map g) {i : Nat} (h : i < xs.length) (h' : i < ys.length) :
    f xs[i] = g ys[i] := by
  have at_i := congrArg (·[i]?) same
  simpa [List.getElem?_map, h, h'] using at_i

section Engine

variable (e : Engine) (template : String) (data : Json)

def placeholderStart (i : Nat) : Nat :=
  ((scan e.opening e.closing template.toList).positions.getD i (0, 0)).1

private theorem substitution_at (i : Nat) (h : i < (e.render template data).substitutions.length) :
    ∃ (hs : i < (scan e.opening e.closing template.toList).positions.length),
      let a := (scan e.opening e.closing template.toList).positions[i]
      Candidate e.opening e.closing template.toList a.1 a.2 ∧
        (e.render template data).substitutions[i].span.toList =
          slice template.toList a.1 (a.2 + e.closing.chars.length) ∧
        (e.render template data).substitutions[i].start = byteOffset template.toList a.1 ∧
        (e.render template data).substitutions[i].stop =
          byteOffset template.toList (a.2 + e.closing.chars.length) ∧
        placeholderStart e template i = a.1 ∧
        placeholderStart e template i + (e.render template data).substitutions[i].span.toList.length =
          a.2 + e.closing.chars.length := by
  have same := render_spans e template data
  have sizes := congrArg List.length same
  simp only [List.length_map] at sizes
  have hs : i < (scan e.opening e.closing template.toList).positions.length := sizes ▸ h
  have at_i := getElem_eq_of_map_eq same h hs
  simp only [Prod.mk.injEq] at at_i
  have found := (greedy_scan e.opening e.closing template.toList).candidates _ (List.getElem_mem hs)
  have nonempty := found.nonempty
  have bound := found.closes.le_length
  have start : placeholderStart e template i =
      (scan e.opening e.closing template.toList).positions[i].1 := by
    simp [placeholderStart, List.getElem?_eq_getElem hs]
  refine ⟨hs, found, at_i.1, at_i.2.1, at_i.2.2, start, ?_⟩
  rw [start, at_i.1, length_slice (by omega) bound]
  omega

theorem standing_rules :
    Standing template.toList (e.render template data).rules (placeholderStart e template) := by
  have ordered := (greedy_scan e.opening e.closing template.toList).ordered
  constructor
  · intro i h
    have h' : i < (e.render template data).substitutions.length := by simpa using h
    obtain ⟨hs, found, text, -, -, start, ends⟩ := substitution_at e template data i h'
    have nonempty := found.nonempty
    rw [Rendering.getElem_rules _ _ h h', ends, start, text]
    exact drop_eq_slice_append template.toList (by omega)
  · intro i h
    have h' : i + 1 < (e.render template data).substitutions.length := by simpa using h
    obtain ⟨hs, -, -, -, -, -, ends⟩ := substitution_at e template data i (by omega)
    obtain ⟨hs', -, -, -, -, start', -⟩ := substitution_at e template data (i + 1) h'
    have apart := List.pairwise_iff_getElem.mp ordered i (i + 1) hs hs' (by omega)
    rw [Rendering.getElem_rules _ _ (by omega) (by omega), ends, start']
    exact apart

end Engine

/-! ### The substitution loop, rule by rule -/

section Loop

variable (e : Engine) (template : String) (data : Json)

private theorem stop_at (i : Nat) (h : i < (e.render template data).substitutions.length) :
    byteOffset template.toList (placeholderStart e template i +
        (e.render template data).substitutions[i].span.toList.length) =
      (e.render template data).substitutions[i].stop := by
  obtain ⟨hs, -, -, -, stop, -, ends⟩ := substitution_at e template data i h
  rw [ends, stop]

private theorem suffix_afterRules_at (i : Nat)
    (h : i < (e.render template data).substitutions.length) :
    ∃ k, byteOffset template.toList k = (e.render template data).substitutions[i].start ∧
      template.toList.drop k <:+ afterRules template.toList (e.render template data).rules i := by
  obtain ⟨hs, -, -, start, -, at_start, -⟩ := substitution_at e template data i h
  exact ⟨placeholderStart e template i, by rw [start, at_start],
    (standing_rules e template data).suffix_afterRules i (by simpa using h)⟩

private theorem replaces_once_at (i : Nat) (h : i < (e.render template data).substitutions.length) :
    ∃ k u v, byteOffset template.toList k = (e.render template data).substitutions[i].stop ∧
      afterRules template.toList (e.render template data).rules i =
        u ++ (e.render template data).substitutions[i].span.toList ++ v ∧
      afterRules template.toList (e.render template data).rules (i + 1) =
        u ++ (e.render template data).substitutions[i].replacement.toList ++ v ∧
      template.toList.drop k <:+ v := by
  have hr : i < (e.render template data).rules.length := by simpa using h
  obtain ⟨u, v, before, after, rest⟩ := (standing_rules e template data).replaces_once i hr
  rw [Rendering.getElem_rules _ _ hr h] at before after rest
  exact ⟨_, u, v, stop_at e template data i h, before, after, rest⟩

private theorem first_placeholder (h : 0 < (e.render template data).substitutions.length) :
    ∃ q rest, Greedy e.opening e.closing template.toList 0
        ((placeholderStart e template 0, q) :: rest) ∧
      (e.render template data).substitutions[0].start =
        byteOffset template.toList (placeholderStart e template 0) ∧
      (e.render template data).substitutions[0].span.toList =
        slice template.toList (placeholderStart e template 0) (q + e.closing.chars.length) := by
  obtain ⟨hs, -, text, start, -, at_start, -⟩ := substitution_at e template data 0 h
  have greedy := greedy_scan e.opening e.closing template.toList
  cases hpos : (scan e.opening e.closing template.toList).positions with
  | nil => simp [hpos] at hs
  | cons a rest =>
    obtain ⟨p, q⟩ := a
    simp only [hpos, List.getElem_cons_zero] at text start at_start
    rw [hpos] at greedy
    rw [at_start]
    exact ⟨q, rest, greedy, start, text⟩

private theorem prefix_afterRules_one (h : 0 < (e.render template data).substitutions.length) :
    ∃ k, byteOffset template.toList k = (e.render template data).substitutions[0].start ∧
      template.toList.take k <+: afterRules template.toList (e.render template data).rules 1 := by
  obtain ⟨q, rest, greedy, start, text⟩ := first_placeholder e template data h
  generalize placeholderStart e template 0 = p at greedy start text
  have bound := greedy.head_candidate.closes.le_length
  have nonempty := greedy.head_candidate.nonempty
  have split : template.toList.take p ++ slice template.toList p (q + e.closing.chars.length) ++
      template.toList.drop (q + e.closing.chars.length) = template.toList := by
    rw [List.append_assoc, ← drop_eq_slice_append _ (by omega), List.take_append_drop]
  have clear : ∀ a b, template.toList.take p ++ slice template.toList p (q + e.closing.chars.length) ++
      template.toList.drop (q + e.closing.chars.length) =
        a ++ slice template.toList p (q + e.closing.chars.length) ++ b →
      (template.toList.take p).length ≤ a.length := by
    intro a b other
    rw [split] at other
    have earliest := greedy.first_occurrence a b (Nat.zero_le _) other
    simp only [List.length_take]
    omega
  have kept : template.toList.take p <+: replaceFirst
      (slice template.toList p (q + e.closing.chars.length))
      (e.render template data).substitutions[0].replacement.toList
      (template.toList.take p ++ slice template.toList p (q + e.closing.chars.length) ++
        template.toList.drop (q + e.closing.chars.length)) :=
    prefix_replaceFirst clear ((List.prefix_append _ _).trans (List.prefix_append _ _))
  rw [split] at kept
  refine ⟨p, start.symm, ?_⟩
  have hr : 0 < (e.render template data).rules.length := by simpa using h
  rw [afterRules_succ hr, afterRules_zero, Rendering.getElem_rules _ _ hr h, text]
  exact kept

private theorem prefix_parse_of_single {o c : Char} (single_opening : e.opening.chars = [o])
    (single_closing : e.closing.chars = [c]) (distinct : foldEq o c = false)
    (h : 0 < (e.render template data).substitutions.length) :
    ∃ k, byteOffset template.toList k = (e.render template data).substitutions[0].start ∧
      template.toList.take k <+: (e.parse template data).toList := by
  obtain ⟨q, rest, greedy, start, -⟩ := first_placeholder e template data h
  generalize placeholderStart e template 0 = p at greedy start
  have bound := greedy.head_candidate.closes.le_length
  have nonempty := greedy.head_candidate.nonempty
  have size : (template.toList.take p).length = p := by
    simp only [List.length_take]
    omega
  have cut : Greedy e.opening e.closing ([] ++ template.toList.take p ++ template.toList.drop p)
      ([] : List Char).length
      ((([] : List Char).length + (template.toList.take p).length, q) :: rest) := by
    rw [List.nil_append, List.take_append_drop, size]
    simpa using greedy
  have shielded := cut.shielded_gap single_opening single_closing distinct
  have open_patterns : ∀ i (hi : i < (e.render template data).rules.length),
      StaysOpen o c (e.render template data).rules[i].1 := by
    intro i hi
    have hi' : i < (e.render template data).substitutions.length := by simpa using hi
    obtain ⟨hs, found, text, -, -, -, -⟩ := substitution_at e template data i hi'
    rw [Rendering.getElem_rules _ _ hi hi', text]
    exact found.staysOpen single_opening single_closing
  refine ⟨p, start.symm, ?_⟩
  rw [parse_eq_afterRules, ← Rendering.length_rules]
  have leading : template.toList.take p <+: template.toList :=
    ⟨template.toList.drop p, List.take_append_drop p template.toList⟩
  exact (standing_rules e template data).prefix_afterRules shielded leading open_patterns _
    (Nat.le_refl _)

end Loop

/-- The substitution loop, rule by rule. Before rule `i` the text ends with the template from
where placeholder `i` opens; rule `i` finds its placeholder's text and replaces exactly one
occurrence of it, ending before the template's text from the placeholder's end on. The output
is the text after the last rule: its size changes by each replacement's less its placeholder's,
and it ends with the template from the last placeholder's end. The first rule rewrites the first
placeholder itself and keeps the template's text before it; that text survives every later rule
when the markers are single characters that do not match each other. -/
theorem fill_replaces_each_placeholder_once (e : Engine) (template : String) (data : Json) :
    let t := template.toList
    let found := (e.render template data).substitutions
    let rules := (e.render template data).rules
    let output := (e.parse template data).toList
    (∀ i (h : i < found.length), ∃ k, byteOffset t k = found[i].start ∧
        t.drop k <:+ afterRules t rules i) ∧
    (∀ i (h : i < found.length), ∃ k u v, byteOffset t k = found[i].stop ∧
        afterRules t rules i = u ++ found[i].span.toList ++ v ∧
        afterRules t rules (i + 1) = u ++ found[i].replacement.toList ++ v ∧ t.drop k <:+ v) ∧
    output = afterRules t rules found.length ∧
    (utf8Length output : Int) = utf8Length t +
      (found.map fun s => (utf8Length s.replacement.toList : Int) - utf8Length s.span.toList).sum ∧
    (∀ h : 0 < found.length, ∃ k, byteOffset t k = found[found.length - 1].stop ∧
        t.drop k <:+ output) ∧
    (∀ h : 0 < found.length, ∃ k, byteOffset t k = found[0].start ∧
        t.take k <+: afterRules t rules 1) ∧
    (∀ o c, e.opening.chars = [o] → e.closing.chars = [c] → foldEq o c = false →
      ∀ h : 0 < found.length, ∃ k, byteOffset t k = found[0].start ∧ t.take k <+: output) := by
  dsimp only
  refine ⟨suffix_afterRules_at e template data, replaces_once_at e template data,
    parse_eq_afterRules e template data, ?_, ?_, prefix_afterRules_one e template data,
    fun o c single_opening single_closing distinct =>
      prefix_parse_of_single e template data single_opening single_closing distinct⟩
  · have sizes := (standing_rules e template data).utf8Length_afterRules _ (Nat.le_refl _)
    rw [List.take_length] at sizes
    rw [parse_eq_afterRules, ← Rendering.length_rules, sizes]
    simp [Rendering.rules, Function.comp_def]
  · intro h
    obtain ⟨k, u, v, stop, -, after, rest⟩ :=
      replaces_once_at e template data ((e.render template data).substitutions.length - 1)
        (by omega)
    rw [Nat.sub_add_cancel h] at after
    refine ⟨k, stop, ?_⟩
    rw [parse_eq_afterRules, after]
    exact rest.trans (List.suffix_append _ _)

/-- With the default braces, the text before the first placeholder is kept. -/
theorem parse_keeps_text_before_first_brace :
    ∃ h : 0 < (Engine.new.render "a\x7bx\x7db" (Json.object [])).substitutions.length,
      ∃ k, byteOffset "a\x7bx\x7db".toList k =
          (Engine.new.render "a\x7bx\x7db" (Json.object [])).substitutions[0].start ∧
        "a\x7bx\x7db".toList.take k <+: (Engine.new.parse "a\x7bx\x7db" (Json.object [])).toList := by
  have h : 0 < (Engine.new.render "a\x7bx\x7db" (Json.object [])).substitutions.length := by
    decide +kernel
  exact ⟨h, (fill_replaces_each_placeholder_once Engine.new "a\x7bx\x7db" (Json.object [])).2.2.2.2.2.2
    '\x7b' '\x7d' rfl rfl (by decide +kernel) h⟩

/-- With equal markers a later rule can rewrite the template's text before the first
placeholder: in `||a||b|` the placeholders are `|a|` and `|b|`, the first rule leaves `|b|b|`,
and the second rewrites the `|b|` at its start. -/
theorem parse_rewrites_text_before_first_placeholder :
    ∃ e, Engine.withOptions { opening := "|", closing := "|" } = .ok e ∧
      (e.render "||a||b|" (Json.object [("a", .string "b"), ("b", .string "X")])).substitutions.map
        (·.start) = [1, 4] ∧
      (e.parse "||a||b|" (Json.object [("a", .string "b"), ("b", .string "X")])).toList =
        "Xb|".toList ∧
      ¬ "||a||b|".toList.take 1 <+:
        (e.parse "||a||b|" (Json.object [("a", .string "b"), ("b", .string "X")])).toList := by
  refine ⟨_, rfl, by decide +kernel, ?_⟩
  have found : placeholders ⟨"|".toList, by decide⟩ ⟨"|".toList, by decide⟩ "||a||b|" =
      [⟨"|a|", 1, 4, "a", "", []⟩, ⟨"|b|", 4, 7, "b", "", []⟩] := by
    decide +kernel
  have output : (Engine.parse ⟨{ opening := "|", closing := "|" }, ⟨"|".toList, by decide⟩,
      ⟨"|".toList, by decide⟩, Registry.builtins, AliasTable.empty⟩ "||a||b|"
      (Json.object [("a", .string "b"), ("b", .string "X")])).toList = "Xb|".toList := by
    simp only [Engine.parse, Engine.render, fill, fillFound, found, List.map_cons, List.map_nil,
      substitute, findValue, Placeholder.isPath, String.contains_char_eq, String.toList_ofList]
    decide +kernel
  refine ⟨output, ?_⟩
  rw [output]
  decide

/-- Rules whose patterns are a layout's spans, in order, rewrite every span in its own place when
the gaps are shielded, the spans stay open and no replacement holds an opening character. -/
theorem Template.Layout.foldl_replaceFirst_eq_fillWith {o c : Char} (trail : List Char)
    (pieces : List (List Char × Span)) :
    ∀ (rules : List (List Char × List Char)) (done : List Char),
      rules.map (·.1) = pieces.map (·.2.chars) →
      (∀ piece ∈ pieces, Shielded o c piece.1 ∧ StaysOpen o c piece.2.chars) →
      (∀ rule ∈ rules, ∀ y ∈ rule.2, foldEq o y = false) → Shielded o c done →
      rules.foldl (fun text rule => replaceFirst rule.1 rule.2 text)
          (done ++ (Layout.mk pieces trail).chars) =
        done ++ (Layout.mk pieces trail).fillWith (rules.map (·.2)) := by
  induction pieces with
  | nil =>
    rintro (_ | ⟨rule, rules⟩) done texts - - -
    · simp [Layout.chars, Layout.fillWith]
    · simp at texts
  | cons piece pieces ih =>
    obtain ⟨gap, s⟩ := piece
    rintro (_ | ⟨⟨pattern, replacement⟩, rules⟩) done texts in_place plain shielded
    · simp at texts
    simp only [List.map_cons, List.cons.injEq] at texts
    obtain ⟨rfl, texts⟩ := texts
    have here := in_place (gap, s) List.mem_cons_self
    have replaced : replaceFirst s.chars replacement
        (done ++ gap ++ s.chars ++ (Layout.mk pieces trail).chars) =
          done ++ gap ++ replacement ++ (Layout.mk pieces trail).chars :=
      replaceFirst_in_place (shielded.append here.1) here.2
    have done' : Shielded o c (done ++ gap ++ replacement) :=
      (shielded.append here.1).append (shielded_of_forall (plain _ List.mem_cons_self))
    have rest := ih rules (done ++ gap ++ replacement) texts
      (fun piece member => in_place piece (List.mem_cons_of_mem _ member))
      (fun rule member => plain rule (List.mem_cons_of_mem _ member)) done'
    have whole : done ++ (Layout.mk ((gap, s) :: pieces) trail).chars =
        done ++ gap ++ s.chars ++ (Layout.mk pieces trail).chars := by
      simp [Layout.chars]
    rw [whole, List.foldl_cons, replaced, rest]
    simp [Layout.fillWith]

/-- With single-character markers that do not match each other, and replacements that hold no
character matching the opening marker, filling a template rewrites every placeholder in its own
place: the output is the template's literal text with each span replaced by its replacement. -/
theorem parse_rewrites_in_place (e : Engine) (template : String) (data : Json) {o c : Char}
    (single_opening : e.opening.chars = [o]) (single_closing : e.closing.chars = [c])
    (distinct : foldEq o c = false)
    (plain : ∀ s ∈ (e.render template data).substitutions, ∀ y ∈ s.replacement.toList,
      foldEq o y = false) :
    (e.parse template data).toList = (scan e.opening e.closing template.toList).fillWith
      ((e.render template data).substitutions.map (·.replacement.toList)) := by
  have texts : (e.render template data).rules.map (·.1) =
      (scan e.opening e.closing template.toList).pieces.map (·.2.chars) := by
    simpa [Rendering.rules, Function.comp_def] using render_span_texts e template data
  have replacements : (e.render template data).rules.map (·.2) =
      (e.render template data).substitutions.map (·.replacement.toList) := by
    simp [Rendering.rules, Function.comp_def]
  have plain_rules : ∀ rule ∈ (e.render template data).rules, ∀ y ∈ rule.2, foldEq o y = false := by
    simp only [Rendering.rules, List.mem_map]
    rintro _ ⟨s, member, rfl⟩
    exact plain s member
  have filled := Layout.foldl_replaceFirst_eq_fillWith (scan e.opening e.closing template.toList).trail
    _ _ [] texts (scan_in_place single_opening single_closing distinct template.toList) plain_rules
    (shielded_of_forall (by simp))
  have spelled : (Layout.mk (scan e.opening e.closing template.toList).pieces
      (scan e.opening e.closing template.toList).trail).chars = template.toList :=
    scan_chars e.opening e.closing template.toList
  rw [List.nil_append, spelled, List.nil_append] at filled
  rw [parse_eq_afterRules, ← Rendering.length_rules, afterRules_length, ← replacements]
  exact filled


/-- The default braces with plain replacements: `a{x}b{y}` is filled in place. -/
theorem parse_fills_braces_in_place :
    (∀ s ∈ (Engine.new.render "a\x7bx\x7db\x7by\x7d"
        (Json.object [("x", .string "1"), ("y", .string "2")])).substitutions,
      ∀ y ∈ s.replacement.toList, foldEq '\x7b' y = false) ∧
    (Engine.new.parse "a\x7bx\x7db\x7by\x7d"
        (Json.object [("x", .string "1"), ("y", .string "2")])).toList =
      (scan Engine.new.opening Engine.new.closing "a\x7bx\x7db\x7by\x7d".toList).fillWith
        ((Engine.new.render "a\x7bx\x7db\x7by\x7d"
          (Json.object [("x", .string "1"), ("y", .string "2")])).substitutions.map
            (·.replacement.toList)) := by
  have found : placeholders Engine.new.opening Engine.new.closing "a\x7bx\x7db\x7by\x7d" =
      [⟨"\x7bx\x7d", 1, 4, "x", "", []⟩, ⟨"\x7by\x7d", 5, 8, "y", "", []⟩] := by
    decide +kernel
  have replacements : (Engine.new.render "a\x7bx\x7db\x7by\x7d"
      (Json.object [("x", .string "1"), ("y", .string "2")])).substitutions.map
        (·.replacement.toList) = [['1'], ['2']] := by
    simp only [Engine.render, fill, fillFound, found, List.map_cons, List.map_nil, substitute,
      findValue, Placeholder.isPath, String.contains_char_eq]
    decide +kernel
  have plain : ∀ s ∈ (Engine.new.render "a\x7bx\x7db\x7by\x7d"
      (Json.object [("x", .string "1"), ("y", .string "2")])).substitutions,
      ∀ y ∈ s.replacement.toList, foldEq '\x7b' y = false := by
    intro s member y inside
    have written : y ∈ ((Engine.new.render "a\x7bx\x7db\x7by\x7d"
        (Json.object [("x", .string "1"), ("y", .string "2")])).substitutions.map
          (·.replacement.toList)).flatten :=
      List.mem_flatten.mpr ⟨_, List.mem_map_of_mem member, inside⟩
    rw [replacements] at written
    simp only [List.flatten_cons, List.flatten_nil, List.append_nil, List.cons_append,
      List.nil_append, List.mem_cons, List.not_mem_nil, or_false] at written
    rcases written with rfl | rfl <;> decide +kernel
  exact ⟨plain, parse_rewrites_in_place Engine.new _ _ rfl rfl (by decide +kernel) plain⟩

end Stencil
