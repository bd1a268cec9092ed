import Mathlib
import Stencil.Proofs.SpanReport

/-! Replacing first occurrences, one rule after another. -/

namespace Stencil

open Text

/-! ### One replacement -/

private theorem replaceFirst_append_self (pattern replacement rest : List Char) :
    replaceFirst pattern replacement (pattern ++ rest) = replacement ++ rest := by
  rcases spelled : pattern ++ rest with _ | ⟨c, more⟩
  · obtain ⟨rfl, rfl⟩ := List.append_eq_nil_iff.mp spelled
    simp [replaceFirst]
  · have prefixed : pattern.isPrefixOf (c :: more) = true := by
      rw [← spelled]
      simp
    rw [replaceFirst, if_pos prefixed, ← spelled, List.drop_left]

private theorem replaceFirst_eq_of_first {pattern replacement u v : List Char}
    (first : ∀ a b, u ++ pattern ++ v = a ++ pattern ++ b → u.length ≤ a.length) :
    replaceFirst pattern replacement (u ++ pattern ++ v) = u ++ replacement ++ v := by
  induction u with
  | nil => exact replaceFirst_append_self pattern replacement v
  | cons c u ih =>
    have not_here : pattern.isPrefixOf (c :: (u ++ pattern ++ v)) = false := by
      apply Bool.eq_false_iff.mpr
      intro prefixed
      obtain ⟨b, spelled⟩ := List.isPrefixOf_iff_prefix.mp prefixed
      have := first [] b (by simpa using spelled.symm)
      simp at this
    have later : ∀ a b, u ++ pattern ++ v = a ++ pattern ++ b → u.length ≤ a.length := by
      intro a b spelled
      have := first (c :: a) b (by simp [spelled])
      simpa using this
    simp only [List.cons_append]
    rw [replaceFirst]
    simp only [not_here, Bool.false_eq_true, ↓reduceIte]
    rw [ih later]

private theorem exists_first_occurrence (pattern w x : List Char) :
    ∃ u v, u ++ pattern ++ v = w ++ pattern ++ x ∧ u.length ≤ w.length ∧
      ∀ a b, u ++ pattern ++ v = a ++ pattern ++ b → u.length ≤ a.length := by
  induction w with
  | nil => exact ⟨[], x, rfl, Nat.le_refl 0, fun _ _ _ => Nat.zero_le _⟩
  | cons c w ih =>
    by_cases here : ∃ b, c :: (w ++ pattern ++ x) = pattern ++ b
    · obtain ⟨b, spelled⟩ := here
      exact ⟨[], b, by simpa using spelled.symm, Nat.zero_le _, fun _ _ _ => Nat.zero_le _⟩
    · obtain ⟨u, v, spelled, shorter, first⟩ := ih
      refine ⟨c :: u, v, by simp [spelled], by simpa using shorter, ?_⟩
      intro a b other
      cases a with
      | nil => exact absurd ⟨b, by simpa [← spelled] using other⟩ here
      | cons c' a =>
        simp only [List.cons_append, List.cons.injEq] at other
        simpa using first a b other.2

/-- Where the pattern occurs, one occurrence at or before it is replaced. -/
theorem replaceFirst_of_occurs (pattern replacement w x : List Char) :
    ∃ u v, w ++ pattern ++ x = u ++ pattern ++ v ∧ u.length ≤ w.length ∧
      replaceFirst pattern replacement (w ++ pattern ++ x) = u ++ replacement ++ v := by
  obtain ⟨u, v, spelled, shorter, first⟩ := exists_first_occurrence pattern w x
  rw [← spelled]
  exact ⟨u, v, rfl, shorter, replaceFirst_eq_of_first first⟩

private theorem suffix_of_occurs_before {pattern u v w x : List Char}
    (spelled : w ++ pattern ++ x = u ++ pattern ++ v) (shorter : u.length ≤ w.length) :
    x <:+ v := by
  have tail_x : x <:+ u ++ pattern ++ v := by
    rw [← spelled]
    exact List.suffix_append _ _
  have tail_v : v <:+ u ++ pattern ++ v := List.suffix_append _ _
  have longer : x.length ≤ v.length := by
    have sizes := congrArg List.length spelled
    simp only [List.length_append] at sizes
    omega
  exact List.suffix_of_suffix_length_le tail_x tail_v longer

private theorem suffix_replaceFirst {pattern replacement text x : List Char}
    (occurs : pattern ++ x <:+ text) : x <:+ replaceFirst pattern replacement text := by
  obtain ⟨w, rfl⟩ := occurs
  rw [← List.append_assoc]
  obtain ⟨u, v, spelled, shorter, replaced⟩ := replaceFirst_of_occurs pattern replacement w x
  rw [replaced]
  exact (suffix_of_occurs_before spelled shorter).trans (List.suffix_append _ _)

theorem prefix_replaceFirst {pattern replacement w x front : List Char}
    (clear : ∀ a b, w ++ pattern ++ x = a ++ pattern ++ b → front.length ≤ a.length)
    (leading : front <+: w ++ pattern ++ x) :
    front <+: replaceFirst pattern replacement (w ++ pattern ++ x) := by
  obtain ⟨u, v, spelled, -, replaced⟩ := replaceFirst_of_occurs pattern replacement w x
  rw [replaced]
  have head_u : u <+: w ++ pattern ++ x := by
    rw [spelled, List.append_assoc]
    exact List.prefix_append _ _
  exact (List.prefix_of_prefix_length_le leading head_u (clear u v spelled)).trans
    (by rw [List.append_assoc]; exact List.prefix_append _ _)

/-! ### Rule after rule -/

/-- The text after the first `i` rules, each replacing the first occurrence of its pattern. -/
def afterRules (t : List Char) (rules : List (List Char × List Char)) (i : Nat) : List Char :=
  (rules.take i).foldl (fun text rule => replaceFirst rule.1 rule.2 text) t

/-- Rules whose patterns stand in `t` in order: the `i`-th at index `start i`, each at or after
the end of the one before. -/
structure Standing (t : List Char) (rules : List (List Char × List Char)) (start : Nat → Nat) :
    Prop where
  stands : ∀ i (h : i < rules.length),
    t.drop (start i) = rules[i].1 ++ t.drop (start i + rules[i].1.length)
  ordered : ∀ i (h : i + 1 < rules.length), start i + rules[i].1.length ≤ start (i + 1)

section Run

variable {t : List Char} {rules : List (List Char × List Char)} {start : Nat → Nat}

@[simp] theorem afterRules_zero : afterRules t rules 0 = t := by
  simp [afterRules]

theorem afterRules_succ {i : Nat} (h : i < rules.length) :
    afterRules t rules (i + 1) = replaceFirst rules[i].1 rules[i].2 (afterRules t rules i) := by
  simp only [afterRules, List.take_add_one, List.getElem?_eq_getElem h, Option.toList_some,
    List.foldl_append, List.foldl_cons, List.foldl_nil]

theorem afterRules_length :
    afterRules t rules rules.length =
      rules.foldl (fun text rule => replaceFirst rule.1 rule.2 text) t := by
  simp [afterRules]

private theorem drop_suffix_drop (t : List Char) {i j : Nat}
    (le : i ≤ j) : t.drop j <:+ t.drop i := by
  obtain ⟨k, rfl⟩ := Nat.exists_eq_add_of_le le
  rw [← List.drop_drop]
  exact List.drop_suffix _ _

theorem Standing.suffix_afterRules (standing : Standing t rules start) :
    ∀ i < rules.length, t.drop (start i) <:+ afterRules t rules i := by
  intro i
  induction i with
  | zero =>
    intro _
    simpa using List.drop_suffix _ _
  | succ i ih =>
    intro h
    have before := ih (by omega)
    rw [standing.stands i (by omega)] at before
    rw [afterRules_succ (by omega)]
    exact (drop_suffix_drop t (standing.ordered i h)).trans (suffix_replaceFirst before)

theorem Standing.replaces_once (standing : Standing t rules start) (i : Nat)
    (h : i < rules.length) :
    ∃ u v, afterRules t rules i = u ++ rules[i].1 ++ v ∧
      afterRules t rules (i + 1) = u ++ rules[i].2 ++ v ∧
      t.drop (start i + rules[i].1.length) <:+ v := by
  obtain ⟨w, spelled⟩ := standing.suffix_afterRules i h
  rw [standing.stands i h, ← List.append_assoc] at spelled
  obtain ⟨u, v, occurs, shorter, replaced⟩ :=
    replaceFirst_of_occurs rules[i].1 rules[i].2 w (t.drop (start i + rules[i].1.length))
  refine ⟨u, v, by rw [← spelled, occurs], ?_, suffix_of_occurs_before occurs shorter⟩
  rw [afterRules_succ h, ← spelled, replaced]

theorem Standing.replaces_first (standing : Standing t rules start) (i : Nat)
    (h : i < rules.length) :
    ∃ u v, afterRules t rules i = u ++ rules[i].1 ++ v ∧
      (∀ a b, afterRules t rules i = a ++ rules[i].1 ++ b → u.length ≤ a.length) ∧
      afterRules t rules (i + 1) = u ++ rules[i].2 ++ v := by
  obtain ⟨w, spelled⟩ := standing.suffix_afterRules i h
  rw [standing.stands i h, ← List.append_assoc] at spelled
  obtain ⟨u, v, same, -, first⟩ := exists_first_occurrence rules[i].1 w _
  rw [← spelled, ← same]
  refine ⟨u, v, rfl, first, ?_⟩
  rw [afterRules_succ h, ← spelled, ← same]
  exact replaceFirst_eq_of_first first

theorem Standing.utf8Length_afterRules (standing : Standing t rules start) :
    ∀ i ≤ rules.length, (utf8Length (afterRules t rules i) : Int) =
      utf8Length t + ((rules.take i).map fun rule =>
        (utf8Length rule.2 : Int) - utf8Length rule.1).sum := by
  intro i
  induction i with
  | zero => simp
  | succ i ih =>
    intro h
    obtain ⟨u, v, before, after, -⟩ := standing.replaces_once i h
    have sizes := ih (by omega)
    rw [before] at sizes
    rw [after, List.take_add_one, List.getElem?_eq_getElem h]
    simp only [utf8Length_append, Option.toList_some, List.map_append, List.map_cons,
      List.map_nil, List.sum_append, List.sum_cons, List.sum_nil, Int.natCast_add] at sizes ⊢
    omega

end Run

/-! ### Shielded text -/

open Unicode

/-- Every character of `text` equal to `o` up to case is followed, inside `text`, by one equal
to `c` up to case. -/
def Shielded (o c : Char) (text : List Char) : Prop :=
  ∀ front x rest, text = front ++ x :: rest → foldEq o x = true →
    ∃ y more, rest = y :: more ∧ foldEq c y = true

/-- A pattern that opens with a character equal to `o` and goes on with one not equal to `c`. -/
def StaysOpen (o c : Char) (pattern : List Char) : Prop :=
  ∃ first second more, pattern = first :: second :: more ∧ foldEq o first = true ∧
    foldEq c second = false

section Shielding

variable {o c : Char}

theorem shielded_of_forall {text : List Char} (plain : ∀ x ∈ text, foldEq o x = false) :
    Shielded o c text := by
  intro front x rest spelled opens
  have := plain x (by simp [spelled])
  simp [this] at opens

theorem Shielded.append {front back : List Char} (first : Shielded o c front)
    (second : Shielded o c back) : Shielded o c (front ++ back) := by
  intro pre x rest spelled opens
  rcases List.append_eq_append_iff.mp spelled with ⟨middle, rfl, rest_back⟩ | ⟨middle, front_eq, tail⟩
  · exact second middle x rest rest_back opens
  · cases middle with
    | nil =>
      simp only [List.append_nil] at front_eq
      exact second [] x rest (by simpa using tail.symm) opens
    | cons z middle =>
      simp only [List.cons_append, List.cons.injEq] at tail
      obtain ⟨rfl, rfl⟩ := tail
      obtain ⟨y, more, rfl, closes⟩ := first pre x middle front_eq opens
      exact ⟨y, more ++ back, rfl, closes⟩

theorem StaysOpen.take {text : List Char} (open_text : StaysOpen o c text) {n : Nat}
    (long : 2 ≤ n) : StaysOpen o c (text.take n) := by
  obtain ⟨first, second, more, rfl, opens, stays⟩ := open_text
  obtain ⟨k, rfl⟩ := Nat.exists_eq_add_of_le long
  refine ⟨first, second, more.take k, ?_, opens, stays⟩
  rw [show 2 + k = k + 1 + 1 by omega]
  simp

private theorem Shielded.no_occurrence {front pattern : List Char} (shielded : Shielded o c front)
    (open_pattern : StaysOpen o c pattern) (back a b : List Char)
    (spelled : front ++ back = a ++ pattern ++ b) : front.length ≤ a.length := by
  obtain ⟨first, second, more, rfl, opens, stays⟩ := open_pattern
  rw [List.append_assoc] at spelled
  rcases List.append_eq_append_iff.mp spelled with ⟨middle, rfl, -⟩ | ⟨middle, front_eq, tail⟩
  · simp
  · cases middle with
    | nil => simp [front_eq]
    | cons z middle =>
      simp only [List.cons_append, List.cons.injEq] at tail
      obtain ⟨rfl, tail⟩ := tail
      obtain ⟨y, rest, rfl, closes⟩ := shielded a first middle front_eq opens
      simp only [List.cons_append, List.cons.injEq] at tail
      rw [tail.1] at stays
      simp [stays] at closes

/-- A place in text ahead of which a rule cannot match changes nothing before it. -/
theorem replaceFirst_in_place {done gap pattern replacement rest : List Char}
    (shielded : Shielded o c (done ++ gap)) (open_pattern : StaysOpen o c pattern) :
    replaceFirst pattern replacement (done ++ gap ++ pattern ++ rest) =
      done ++ gap ++ replacement ++ rest :=
  replaceFirst_eq_of_first fun a b spelled =>
    shielded.no_occurrence open_pattern (pattern ++ rest) a b (by simpa using spelled)

end Shielding

theorem Standing.prefix_afterRules {o c : Char} {t : List Char}
    {rules : List (List Char × List Char)} {start : Nat → Nat} (standing : Standing t rules start)
    {front : List Char} (shielded : Shielded o c front) (leading : front <+: t)
    (open_patterns : ∀ i (h : i < rules.length), StaysOpen o c rules[i].1) :
    ∀ i ≤ rules.length, front <+: afterRules t rules i := by
  intro i
  induction i with
  | zero => simpa using leading
  | succ i ih =>
    intro h
    have kept := ih (by omega)
    obtain ⟨w, spelled⟩ := standing.suffix_afterRules i (by omega)
    rw [standing.stands i (by omega), ← List.append_assoc] at spelled
    rw [afterRules_succ (by omega), ← spelled]
    rw [← spelled] at kept
    obtain ⟨back, front_spelled⟩ := kept
    apply prefix_replaceFirst _ (by rw [← front_spelled]; exact List.prefix_append _ _)
    intro a b other
    exact shielded.no_occurrence (open_patterns i (by omega)) back a b (front_spelled.trans other)

end Stencil
