import Mathlib.Data.List.Forall2
import Stencil.Marker

/-! Where a marker matches, and the leftmost match its search finds. -/

namespace Stencil.Marker

open Unicode

/-- The characters at the start of `text` equal those of `pattern`, one by one, up to case. -/
def PrefixMatch (pattern text : List Char) : Prop :=
  List.Forall₂ (fun p c => foldEq p c = true) pattern (text.take pattern.length)

/-- The marker matches `text` at character index `i`. -/
def MatchesAt (m : Marker) (text : List Char) (i : Nat) : Prop :=
  PrefixMatch m.chars (text.drop i)

@[simp] theorem prefixMatch_nil (text : List Char) : PrefixMatch [] text := by
  simp [PrefixMatch]

@[simp] theorem not_prefixMatch_cons_nil (p : Char) (ps : List Char) :
    ¬ PrefixMatch (p :: ps) [] := by
  simp [PrefixMatch]

@[simp] theorem prefixMatch_cons_cons (p c : Char) (ps cs : List Char) :
    PrefixMatch (p :: ps) (c :: cs) ↔ foldEq p c = true ∧ PrefixMatch ps cs := by
  simp [PrefixMatch]

private theorem PrefixMatch.length_le {pattern text : List Char} (h : PrefixMatch pattern text) :
    pattern.length ≤ text.length := by
  have same := h.length_eq
  simp only [List.length_take] at same
  omega

theorem prefixMatch_append_iff {pattern front back : List Char}
    (long : pattern.length ≤ front.length) :
    PrefixMatch pattern (front ++ back) ↔ PrefixMatch pattern front := by
  simp only [PrefixMatch, List.take_append_of_le_length long]

theorem prefixMatch_append_of {pattern front : List Char} (back : List Char)
    (h : PrefixMatch pattern front) : PrefixMatch pattern (front ++ back) :=
  (prefixMatch_append_iff h.length_le).mpr h

theorem prefixMatch_self (pattern : List Char) : PrefixMatch pattern pattern := by
  induction pattern with
  | nil => simp
  | cons p ps ih => simp [ih, foldEq]

@[simp] theorem matchesAt_append_left (m : Marker) (front back : List Char) (i : Nat) :
    m.MatchesAt (front ++ back) (front.length + i) ↔ m.MatchesAt back i := by
  simp [MatchesAt, List.drop_append, List.drop_eq_nil_of_le]

theorem matchesAt_drop {m : Marker} {text : List Char} {n i : Nat} :
    m.MatchesAt (text.drop n) i ↔ m.MatchesAt text (n + i) := by
  simp [MatchesAt]

theorem matchesAt_single {m : Marker} {x : Char} (single : m.chars = [x]) {text : List Char}
    {i : Nat} : m.MatchesAt text i ↔ ∃ y rest, text.drop i = y :: rest ∧ foldEq x y = true := by
  unfold MatchesAt
  rw [single]
  cases text.drop i with
  | nil => simp
  | cons y rest => simp

theorem exists_matchesAt_of_mem {m : Marker} {x : Char} (single : m.chars = [x])
    {text front back : List Char} {k : Nat} (at_k : text.drop k = front ++ back) {y : Char}
    (member : y ∈ front) (same : foldEq x y = true) :
    ∃ r, k ≤ r ∧ r < k + front.length ∧ m.MatchesAt text r := by
  obtain ⟨before, after, rfl⟩ := List.append_of_mem member
  refine ⟨k + before.length, Nat.le_add_right _ _, by simp,
    (matchesAt_single single).mpr ⟨y, after ++ back, ?_, same⟩⟩
  rw [← List.drop_drop, at_k]
  simp

theorem mem_of_matchesAt {m : Marker} {x : Char} (single : m.chars = [x])
    {text front back : List Char} {k r : Nat} (at_k : text.drop k = front ++ back)
    (from_k : k ≤ r) (within : r < k + front.length) (found : m.MatchesAt text r) :
    ∃ y ∈ front, foldEq x y = true := by
  obtain ⟨y, rest, at_r, same⟩ := (matchesAt_single single).mp found
  have dropped : (front ++ back).drop (r - k) = y :: rest := by
    rw [← at_k, List.drop_drop, Nat.add_sub_cancel' from_k, at_r]
  rw [List.drop_append_of_le_length (by omega)] at dropped
  obtain ⟨z, more, at_z⟩ := List.exists_cons_of_ne_nil
    (List.ne_nil_of_length_pos (by simp; omega : 0 < (front.drop (r - k)).length))
  rw [at_z, List.cons_append, List.cons.injEq] at dropped
  refine ⟨y, ?_, same⟩
  rw [← dropped.1]
  exact List.mem_of_mem_drop (by rw [at_z]; exact List.mem_cons_self)

theorem foldEq_of_foldEq_of_foldEq {a b x : Char} (first : foldEq a x = true)
    (second : foldEq b x = true) : foldEq a b = true := by
  simp only [foldEq, beq_iff_eq] at first second ⊢
  rw [first, second]

theorem MatchesAt.le_length {m : Marker} {text : List Char} {i : Nat} (h : m.MatchesAt text i) :
    i + m.chars.length ≤ text.length := by
  have long := PrefixMatch.length_le h
  have nonempty := List.length_pos_iff.mpr m.nonempty
  simp only [List.length_drop] at long
  omega

theorem MatchesAt.append_right {m : Marker} {front : List Char} {i : Nat}
    (here : m.MatchesAt front i) (back : List Char) : m.MatchesAt (front ++ back) i := by
  have bound := here.le_length
  unfold MatchesAt at here ⊢
  rw [List.drop_append_of_le_length (by omega)]
  exact prefixMatch_append_of back here

private theorem matchPrefix_eq_some_iff {pattern text found rest : List Char} :
    matchPrefix pattern text = some (found, rest) ↔
      text = found ++ rest ∧ List.Forall₂ (fun p c => foldEq p c = true) pattern found := by
  induction pattern generalizing text found rest with
  | nil =>
    simp only [matchPrefix, Option.some.injEq, Prod.mk.injEq, List.forall₂_nil_left_iff]
    constructor
    · rintro ⟨rfl, rfl⟩
      simp
    · rintro ⟨same, rfl⟩
      simp [same]
  | cons p ps ih =>
    cases text with
    | nil =>
      simp only [matchPrefix, reduceCtorEq, false_iff, not_and]
      intro empty
      obtain ⟨rfl, rfl⟩ := List.append_eq_nil_iff.mp empty.symm
      simp
    | cons t ts =>
      cases found with
      | nil => cases h : foldEq p t <;> simp [matchPrefix, h]
      | cons f fs =>
        by_cases h : foldEq p t = true
        · simp only [matchPrefix, h, ↓reduceIte, Option.map_eq_some_iff, Prod.exists,
            Prod.mk.injEq, List.cons_append, List.cons.injEq, List.forall₂_cons]
          constructor
          · rintro ⟨found', rest', hm, ⟨rfl, rfl⟩, rfl⟩
            obtain ⟨split, related⟩ := ih.mp hm
            exact ⟨⟨rfl, split⟩, h, related⟩
          · rintro ⟨⟨rfl, split⟩, -, related⟩
            exact ⟨fs, rest, ih.mpr ⟨split, related⟩, ⟨rfl, rfl⟩, rfl⟩
        · simp only [Bool.not_eq_true] at h
          simp only [matchPrefix, h, Bool.false_eq_true, ↓reduceIte, reduceCtorEq, false_iff,
            List.cons_append, List.cons.injEq, List.forall₂_cons, not_and]
          rintro ⟨rfl, -⟩ agree
          simp [h] at agree

private theorem matchPrefix_eq_none_iff {pattern text : List Char} :
    matchPrefix pattern text = none ↔ ¬ PrefixMatch pattern text := by
  induction pattern generalizing text with
  | nil => simp [matchPrefix]
  | cons p ps ih =>
    cases text with
    | nil => simp [matchPrefix]
    | cons t ts =>
      by_cases h : foldEq p t = true
      · simp [matchPrefix, h, ih]
      · simp only [Bool.not_eq_true] at h
        simp [matchPrefix, h]

/-- The leftmost match: where `findIn` answers, the pattern matches, and nowhere before. -/
theorem findIn_eq_some_leftmost {pattern text : List Char} {o : Occurrence}
    (h : findIn pattern text = some o) :
    text = o.before ++ o.found ++ o.after ∧
      List.Forall₂ (fun p c => foldEq p c = true) pattern o.found ∧
      ∀ i < o.before.length, ¬ PrefixMatch pattern (text.drop i) := by
  induction text generalizing o with
  | nil =>
    simp only [findIn, Option.map_eq_some_iff, Prod.exists] at h
    obtain ⟨found, rest, hm, rfl⟩ := h
    obtain ⟨split, related⟩ := matchPrefix_eq_some_iff.mp hm
    obtain ⟨rfl, rfl⟩ := List.append_eq_nil_iff.mp split.symm
    simp [related]
  | cons t ts ih =>
    simp only [findIn] at h
    split at h
    · rename_i found rest hm
      simp only [Option.some.injEq] at h
      subst h
      obtain ⟨split, related⟩ := matchPrefix_eq_some_iff.mp hm
      simp [split, related]
    · rename_i none_here
      obtain ⟨o', found, rfl⟩ := Option.map_eq_some_iff.mp h
      obtain ⟨split, related, earlier⟩ := ih found
      refine ⟨by simp [split], related, ?_⟩
      intro i before
      cases i with
      | zero => simpa using matchPrefix_eq_none_iff.mp none_here
      | succ i =>
        simp only [List.length_cons, Nat.add_lt_add_iff_right] at before
        simpa using earlier i before

private theorem findIn_eq_none {pattern text : List Char} (h : findIn pattern text = none)
    (i : Nat) :
    ¬ PrefixMatch pattern (text.drop i) := by
  induction text generalizing i with
  | nil =>
    simp only [findIn, Option.map_eq_none_iff] at h
    simpa using matchPrefix_eq_none_iff.mp h
  | cons t ts ih =>
    simp only [findIn] at h
    split at h
    · simp at h
    · rename_i absent
      cases i with
      | zero => simpa using matchPrefix_eq_none_iff.mp absent
      | succ i => simpa using ih (Option.map_eq_none_iff.mp h) i

/-- What the marker's search tells about the text it searched. -/
theorem find?_eq_some_leftmost {m : Marker} {text : List Char} {o : Occurrence}
    (h : m.find? text = some o) :
    text = o.before ++ o.found ++ o.after ∧ o.found.length = m.chars.length ∧
      m.MatchesAt text o.before.length ∧ ∀ i < o.before.length, ¬ m.MatchesAt text i := by
  obtain ⟨split, related, earlier⟩ := findIn_eq_some_leftmost h
  refine ⟨split, related.length_eq.symm, ?_, earlier⟩
  have whole : o.found.take m.chars.length = o.found :=
    List.take_of_length_le (Nat.le_of_eq related.length_eq.symm)
  rw [MatchesAt, split, List.append_assoc, List.drop_left,
    prefixMatch_append_iff (Nat.le_of_eq related.length_eq)]
  simpa [PrefixMatch, whole] using related

theorem not_matchesAt_of_find?_eq_none {m : Marker} {text : List Char} (h : m.find? text = none) (i : Nat) :
    ¬ m.MatchesAt text i :=
  findIn_eq_none h i

theorem erase_of_forall_not_matchesAt {m : Marker} {text : List Char}
    (none_anywhere : ∀ i, ¬ m.MatchesAt text i) : m.erase text = text := by
  have absent : m.find? text = none := by
    cases h : m.find? text with
    | none => rfl
    | some o => exact absurd (find?_eq_some_leftmost h).2.2.1 (none_anywhere _)
  rw [erase]
  split
  · rfl
  · rename_i o h
    simp [absent] at h

end Stencil.Marker
