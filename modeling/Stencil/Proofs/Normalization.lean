import Stencil.Modifier

/-! The normal form of modifier names, trimmed then lowercased, is its own normal form. -/

namespace Stencil.Unicode

private theorem lastAtMost_mem {α : Type} {key : α → Nat} {table : Array α} {n : Nat} {a : α}
    (found : lastAtMost key table n = some a) : a ∈ table := by
  unfold lastAtMost at found
  suffices read : ∀ lo hi, lastAtMost.go key table n lo hi = some a → a ∈ table from
    read _ _ found
  intro lo hi
  fun_induction lastAtMost.go key table n lo hi with
  | case1 lo hi _ _ _ _ _ ih => exact ih
  | case2 lo hi _ _ _ _ _ ih => exact ih
  | case3 => simp
  | case4 lo hi _ entry at_lo _ =>
    intro answer
    simp only [Option.some.injEq] at answer
    exact answer ▸ Array.mem_of_getElem? at_lo
  | case5 => simp
  | case6 => simp

def CaseRun.images (run : CaseRun) : List Nat :=
  (List.range run.count).map fun k => Int.toNat (↑(run.start + run.stride * k) + run.shift)

private theorem CaseRun.image?_mem_images {run : CaseRun} {n m : Nat} (h : run.image? n = some m) :
    m ∈ run.images := by
  unfold CaseRun.image? at h
  split at h
  · rename_i inside
    obtain ⟨from_start, aligned, counted⟩ := inside
    simp only [Option.some.injEq] at h
    have at_step : n = run.start + run.stride * ((n - run.start) / run.stride) := by
      rw [Nat.mul_div_cancel' (Nat.dvd_of_mod_eq_zero aligned)]
      omega
    refine List.mem_map.mpr ⟨(n - run.start) / run.stride, List.mem_range.mpr counted, ?_⟩
    rw [← h, ← at_step]
  · simp at h

private theorem CaseRun.lookup_mem {runs : Array CaseRun} {n m : Nat}
    (h : CaseRun.lookup runs n = some m) :
    ∃ run ∈ runs, m ∈ run.images := by
  obtain ⟨run, found, image⟩ := Option.bind_eq_some_iff.mp h
  exact ⟨run, lastAtMost_mem found, CaseRun.image?_mem_images image⟩

/-- A character that lowercasing may bring in: it lowercases to itself, and it is neither the
capital sigma, white space nor a separator of modifier chains. -/
def lowerSettled (x : Char) : Bool :=
  toLowerChars x == [x] && x != 'Σ' && !isWhiteSpace x && !isReserved x

private theorem lowerRuns_settled :
    lowerRuns.toList.all (fun run => run.images.all fun m => lowerSettled (Char.ofNat m)) = true := by
  decide +kernel

private theorem lowerExpansions_settled :
    lowerExpansions.toList.all
      (fun entry => !entry.2.isEmpty && entry.2.all fun m => lowerSettled (Char.ofNat m)) = true := by
  decide +kernel

/-- A case mapping gives the character itself, or a non-empty list of characters that pass `p`,
when every character its runs give and every expansion it lists passes `p`, the expansions being
non-empty. -/
theorem caseMap_self_or_all {runs : Array CaseRun} {expansions : Array (Nat × List Nat)}
    (p : Char → Bool)
    (runs_pass : runs.toList.all (fun run => run.images.all fun m => p (Char.ofNat m)) = true)
    (expansions_pass : expansions.toList.all
      (fun entry => !entry.2.isEmpty && entry.2.all fun m => p (Char.ofNat m)) = true)
    (c : Char) :
    caseMap runs expansions c = [c] ∨
      (caseMap runs expansions c ≠ [] ∧ ∀ x ∈ caseMap runs expansions c, p x = true) := by
  have by_run : [(CaseRun.lookup runs c.toNat).elim c Char.ofNat] = [c] ∨
      ([(CaseRun.lookup runs c.toNat).elim c Char.ofNat] ≠ [] ∧
        ∀ x ∈ [(CaseRun.lookup runs c.toNat).elim c Char.ofNat], p x = true) := by
    cases h : CaseRun.lookup runs c.toNat with
    | none => exact .inl rfl
    | some m =>
      obtain ⟨run, member, image⟩ := CaseRun.lookup_mem h
      have passes := List.all_eq_true.mp
        (List.all_eq_true.mp runs_pass run (Array.mem_def.mp member)) m image
      exact .inr ⟨by simp, by simpa using passes⟩
  unfold caseMap
  split
  · rename_i n image found
    split
    · have member := Array.mem_def.mp (lastAtMost_mem found)
      have entry := List.all_eq_true.mp expansions_pass _ member
      simp only [Bool.and_eq_true, Bool.not_eq_true', List.isEmpty_eq_false_iff, List.all_eq_true]
        at entry
      refine .inr ⟨by simpa using entry.1, ?_⟩
      intro x inside
      obtain ⟨m, from_table, rfl⟩ := List.mem_map.mp inside
      exact entry.2 m from_table
    · exact by_run
  · exact by_run

private theorem toLowerChars_self_or_settled (c : Char) :
    toLowerChars c = [c] ∨ (toLowerChars c ≠ [] ∧ ∀ x ∈ toLowerChars c, lowerSettled x = true) :=
  caseMap_self_or_all lowerSettled lowerRuns_settled lowerExpansions_settled c

private theorem lowerSettled_sigma (before after : List Char) :
    lowerSettled (Text.lowerSigma before after) = true := by
  unfold Text.lowerSigma
  split <;> decide +kernel

end Stencil.Unicode

namespace Stencil.Text

open Unicode

private theorem stable_of_lowerSettled {x : Char} (settled : lowerSettled x = true) :
    toLowerChars x = [x] ∧ x ≠ 'Σ' := by
  simp only [lowerSettled, Bool.and_eq_true, beq_iff_eq, bne_iff_ne, ne_eq] at settled
  exact ⟨settled.1.1.1, settled.1.1.2⟩

private theorem lowerChars_cons (before after : List Char) (x : Char) :
    lowerChars before (x :: after) =
      (if x = 'Σ' then [lowerSigma before after] else toLowerChars x) ++
        lowerChars (x :: before) after := rfl

private theorem mem_lowerChars {before xs : List Char} {y : Char}
    (member : y ∈ lowerChars before xs) :
    (y ∈ xs ∧ toLowerChars y = [y] ∧ y ≠ 'Σ') ∨ lowerSettled y = true := by
  induction xs generalizing before with
  | nil => simp [lowerChars] at member
  | cons x xs ih =>
    rw [lowerChars_cons, List.mem_append] at member
    rcases member with here | later
    · by_cases sigma : x = 'Σ'
      · rw [if_pos sigma, List.mem_singleton] at here
        exact .inr (here ▸ lowerSettled_sigma before xs)
      · rw [if_neg sigma] at here
        rcases toLowerChars_self_or_settled x with same | ⟨-, settled⟩
        · rw [same, List.mem_singleton] at here
          subst here
          exact .inl ⟨List.mem_cons_self, same, sigma⟩
        · exact .inr (settled y here)
    · rcases ih later with ⟨inside, stable⟩ | settled
      · exact .inl ⟨List.mem_cons_of_mem _ inside, stable⟩
      · exact .inr settled

private theorem lowerChars_of_stable {before xs : List Char}
    (stable : ∀ y ∈ xs, toLowerChars y = [y] ∧ y ≠ 'Σ') : lowerChars before xs = xs := by
  induction xs generalizing before with
  | nil => rfl
  | cons x xs ih =>
    obtain ⟨same, sigma⟩ := stable x List.mem_cons_self
    rw [lowerChars_cons, if_neg sigma, same, ih fun y member => stable y (List.mem_cons_of_mem _ member)]
    rfl

/-- Lowercasing twice is lowercasing once. -/
theorem toLower_toLower (s : String) : toLower (toLower s) = toLower s := by
  simp only [toLower, String.toList_ofList]
  rw [lowerChars_of_stable]
  intro y member
  rcases mem_lowerChars member with ⟨-, stable⟩ | settled
  · exact stable
  · exact stable_of_lowerSettled settled

private theorem lowerImage_ne_nil (before after : List Char) (x : Char) :
    (if x = 'Σ' then [lowerSigma before after] else toLowerChars x) ≠ [] := by
  split
  · simp
  · rcases toLowerChars_self_or_settled x with same | ⟨nonempty, -⟩
    · simp [same]
    · exact nonempty

private theorem lowerChars_eq_nil_iff {before xs : List Char} :
    lowerChars before xs = [] ↔ xs = [] := by
  cases xs with
  | nil => simp [lowerChars]
  | cons x xs =>
    simp only [lowerChars_cons, List.append_eq_nil_iff, reduceCtorEq, iff_false, not_and]
    intro empty
    exact absurd empty (lowerImage_ne_nil before xs x)

private theorem not_reserved_lowerChars {before xs : List Char}
    (plain : ∀ x ∈ xs, isReserved x = false) : ∀ y ∈ lowerChars before xs, isReserved y = false := by
  intro y member
  rcases mem_lowerChars member with ⟨inside, -⟩ | settled
  · exact plain y inside
  · simp only [lowerSettled, Bool.and_eq_true, Bool.not_eq_true'] at settled
    exact settled.2

/-! ### The ends of lowercased text -/

/-- Neither the first nor the last character is white space. -/
def EndsNotWhite (cs : List Char) : Prop :=
  (∀ x ∈ cs.head?, isWhiteSpace x = false) ∧ ∀ x ∈ cs.getLast?, isWhiteSpace x = false

private theorem not_white_of_lowerSettled {y : Char} (settled : lowerSettled y = true) :
    isWhiteSpace y = false := by
  simp only [lowerSettled, Bool.and_eq_true, Bool.not_eq_true'] at settled
  exact settled.1.2

theorem not_white_of_toLowerChars {x y : Char} (plain : isWhiteSpace x = false)
    (member : y ∈ toLowerChars x) : isWhiteSpace y = false := by
  rcases toLowerChars_self_or_settled x with same | ⟨-, settled⟩
  · rw [same, List.mem_singleton] at member
    exact member ▸ plain
  · exact not_white_of_lowerSettled (settled y member)

private theorem not_white_of_lowerImage {before after : List Char} {x y : Char}
    (plain : isWhiteSpace x = false)
    (member : y ∈ if x = 'Σ' then [lowerSigma before after] else toLowerChars x) :
    isWhiteSpace y = false := by
  split at member
  · rw [List.mem_singleton] at member
    exact not_white_of_lowerSettled (member ▸ lowerSettled_sigma before after)
  · exact not_white_of_toLowerChars plain member

private theorem lowerChars_append_singleton (before xs : List Char) (z : Char) :
    ∃ front previous, lowerChars before (xs ++ [z]) =
      front ++ (if z = 'Σ' then [lowerSigma previous []] else toLowerChars z) := by
  induction xs generalizing before with
  | nil => exact ⟨[], before, by simp [lowerChars]⟩
  | cons x xs ih =>
    obtain ⟨front, previous, spelled⟩ := ih (x :: before)
    refine ⟨(if x = 'Σ' then [lowerSigma before (xs ++ [z])] else toLowerChars x) ++ front,
      previous, ?_⟩
    rw [List.cons_append, lowerChars_cons, spelled, List.append_assoc]

private theorem lowerChars_ends {before xs : List Char} (ends : EndsNotWhite xs) :
    EndsNotWhite (lowerChars before xs) := by
  constructor
  · cases xs with
    | nil => simp [lowerChars]
    | cons x xs =>
      intro y first
      rw [lowerChars_cons, List.head?_append, List.head?_eq_some_head (lowerImage_ne_nil before xs x),
        Option.some_or, Option.mem_def, Option.some.injEq] at first
      exact not_white_of_lowerImage (ends.1 x rfl) (first ▸ List.head_mem _)
  · rcases List.eq_nil_or_concat xs with rfl | ⟨init, z, rfl⟩
    · simp [lowerChars]
    · intro y last
      rw [List.concat_eq_append] at ends last
      obtain ⟨front, previous, spelled⟩ := lowerChars_append_singleton before init z
      rw [spelled, List.getLast?_append,
        List.getLast?_eq_some_getLast (lowerImage_ne_nil previous [] z), Option.some_or,
        Option.mem_def, Option.some.injEq] at last
      exact not_white_of_lowerImage (ends.2 z (by simp)) (last ▸ List.getLast_mem _)

/-! ### Trimming -/

private theorem dropWhile_eq_self {p : Char → Bool} {cs : List Char}
    (first : ∀ x ∈ cs.head?, p x = false) :
    cs.dropWhile p = cs := by
  cases cs with
  | nil => rfl
  | cons x xs => exact List.dropWhile_cons_of_neg (by simp [first x rfl])

private theorem not_of_mem_head?_dropWhile {p : Char → Bool} {cs : List Char} {x : Char}
    (first : x ∈ (cs.dropWhile p).head?) : p x = false := by
  have kept := List.head?_dropWhile_not p cs
  rw [Option.mem_def.mp first] at kept
  exact kept

private theorem trimChars_ends (cs : List Char) : EndsNotWhite (trimChars cs) := by
  unfold trimChars EndsNotWhite
  rw [List.head?_reverse, List.getLast?_reverse]
  refine ⟨?_, fun x first => not_of_mem_head?_dropWhile first⟩
  intro x last
  have whole := List.takeWhile_append_dropWhile (p := isWhiteSpace)
    (l := (cs.dropWhile isWhiteSpace).reverse)
  have kept : x ∈ (cs.dropWhile isWhiteSpace).reverse.getLast? := by
    rw [← whole, List.getLast?_append, Option.mem_def.mp last]
    rfl
  rw [List.getLast?_reverse] at kept
  exact not_of_mem_head?_dropWhile kept

theorem trimChars_of_ends {cs : List Char} (ends : EndsNotWhite cs) : trimChars cs = cs := by
  unfold trimChars
  rw [dropWhile_eq_self ends.1, dropWhile_eq_self (by rw [List.head?_reverse]; exact ends.2),
    List.reverse_reverse]

/-- Lowercasing trimmed text leaves nothing to trim. -/
theorem trim_toLower_trim (s : String) : trim (toLower (trim s)) = toLower (trim s) := by
  have ends : EndsNotWhite (lowerChars [] (trimChars s.toList)) :=
    lowerChars_ends (trimChars_ends s.toList)
  simp only [trim, toLower, String.toList_ofList]
  rw [trimChars_of_ends ends]

private theorem toLower_eq_empty_iff {s : String} : toLower s = "" ↔ s = "" := by
  rw [toLower, String.ofList_eq_empty_iff, lowerChars_eq_nil_iff, String.toList_eq_nil_iff]

end Stencil.Text

namespace Stencil

open Text

/-- A normalized name is its own normal form. -/
theorem normalizeName_normalizeName (name : String) :
    normalizeName (normalizeName name) = normalizeName name := by
  rw [normalizeName, normalizeName, trim_toLower_trim, toLower_toLower]

theorem normalizeName_named {name : String} (named : Text.trim name ≠ "")
    (plain : ∀ x ∈ (Text.trim name).toList, isReserved x = false) :
    normalizeName name ≠ "" ∧ ∀ x ∈ (normalizeName name).toList, isReserved x = false := by
  refine ⟨fun empty => named (toLower_eq_empty_iff.mp empty), ?_⟩
  simp only [normalizeName, toLower, String.toList_ofList]
  exact not_reserved_lowerChars plain

end Stencil
