import Stencil.Data.Path
import Stencil.Template.Placeholder

/-! Walking a path is taking its steps one after another. -/

namespace Stencil.Data

def BracketFree (cs : List Char) : Prop := ∀ c ∈ cs, isBracket c = false

def bracketed (keys : List String) : List Char :=
  keys.flatMap fun key => '[' :: key.toList ++ [']']

/-- A part of a path written as a name and one or more bracketed keys, none holding a bracket. -/
def IndexedForm (text name : String) (keys : List String) : Prop :=
  keys ≠ [] ∧ BracketFree name.toList ∧ (∀ k ∈ keys, BracketFree k.toList) ∧
    text.toList = name.toList ++ bracketed keys

/-- The steps a segment takes: the name unless it is empty, then each key; a member name used as
it is takes one step. -/
def Segment.steps : Segment → List String
  | .member name => [name]
  | .indexed name keys => (if name.isEmpty then [] else [name]) ++ keys

/-- The steps of a path, segment after segment. -/
def pathSteps (path : String) : List String := (segments path).flatMap Segment.steps

@[simp] theorem bracketed_nil : bracketed [] = [] := rfl

@[simp] theorem bracketed_cons (key : String) (keys : List String) :
    bracketed (key :: keys) = '[' :: (key.toList ++ ']' :: bracketed keys) := by
  simp [bracketed]

private theorem not_isBracket {c : Char} (plain : isBracket c = false) : c ≠ '[' ∧ c ≠ ']' := by
  simpa [isBracket] using plain

/-! ### Reading bracketed keys -/

def pendingChars : Option (List Char) → List Char
  | none => []
  | some key => '[' :: key.reverse

private theorem bracketKeys_sound {pending : Option (List Char)} {cs : List Char}
    {keys : List String}
    (plain : ∀ key, pending = some key → BracketFree key)
    (read : bracketKeys pending cs = some keys) :
    pendingChars pending ++ cs = bracketed keys ∧ ∀ k ∈ keys, BracketFree k.toList := by
  fun_induction bracketKeys pending cs generalizing keys with
  | case1 pending closed =>
    cases Option.some.inj read
    simp [Option.isNone_iff_eq_none.mp closed, pendingChars]
  | case2 => cases read
  | case3 rest ih => exact ih (by simp [BracketFree]) read
  | case4 => cases read
  | case5 rest key ih =>
    obtain ⟨later, found, rfl⟩ := Option.map_eq_some_iff.mp read
    obtain ⟨spelled, later_plain⟩ := ih (by simp) found
    refine ⟨by simp [pendingChars, ← spelled], ?_⟩
    intro k member
    rcases List.mem_cons.mp member with rfl | later_member
    · intro c inside
      exact plain key rfl c (by simpa using inside)
    · exact later_plain k later_member
  | case6 => cases read
  | case7 c rest key not_close not_open ih =>
    have key_plain := plain key rfl
    have extended : BracketFree (c :: key) := by
      intro d member
      rcases List.mem_cons.mp member with rfl | inside
      · simp [isBracket, not_close, not_open]
      · exact key_plain d inside
    obtain ⟨spelled, keys_plain⟩ := ih (fun _ same => Option.some.inj same ▸ extended) read
    exact ⟨by simpa [pendingChars] using spelled, keys_plain⟩

private theorem bracketKeys_key {key : List Char} (plain : BracketFree key)
    (pending rest : List Char) :
    bracketKeys (some pending) (key ++ ']' :: rest) =
      (bracketKeys none rest).map (String.ofList (pending.reverse ++ key) :: ·) := by
  induction key generalizing pending with
  | nil => simp [bracketKeys]
  | cons c key ih =>
    obtain ⟨not_open, not_close⟩ := not_isBracket (plain c List.mem_cons_self)
    simp only [List.cons_append, bracketKeys, not_close, not_open, if_false]
    rw [ih (fun d member => plain d (List.mem_cons_of_mem _ member)) (c :: pending)]
    simp

private theorem bracketKeys_bracketed {keys : List String}
    (plain : ∀ k ∈ keys, BracketFree k.toList) :
    bracketKeys none (bracketed keys) = some keys := by
  induction keys with
  | nil => rfl
  | cons k keys ih =>
    simp only [bracketed_cons, bracketKeys, if_true]
    rw [bracketKeys_key (plain k List.mem_cons_self),
      ih (fun k' member => plain k' (List.mem_cons_of_mem _ member))]
    simp

/-! ### Reading a segment -/

private theorem ofString_eq_indexed_iff {text name : String} {keys : List String} :
    Segment.ofString text = .indexed name keys ↔ IndexedForm text name keys := by
  constructor
  · intro read
    unfold Segment.ofString at read
    dsimp only at read
    split at read
    · rename_i key more found
      simp only [Segment.indexed.injEq] at read
      obtain ⟨rfl, rfl⟩ := read
      obtain ⟨spelled, plain⟩ := bracketKeys_sound (by simp) found
      refine ⟨List.cons_ne_nil _ _, ?_, plain, ?_⟩
      · intro c member
        have taken := List.all_eq_true.mp List.all_takeWhile c (by simpa using member)
        simpa using taken
      · simp only [pendingChars, List.nil_append] at spelled
        rw [String.toList_ofList, ← spelled, List.takeWhile_append_dropWhile]
    · cases read
  · rintro ⟨nonempty, name_plain, keys_plain, spelled⟩
    obtain ⟨k, ks, rfl⟩ := List.exists_cons_of_ne_nil nonempty
    have plain_name : ∀ c ∈ name.toList, (!isBracket c) = true := fun c member => by
      simp [name_plain c member]
    have before : text.toList.takeWhile (!isBracket ·) = name.toList := by
      rw [spelled, List.takeWhile_append_of_pos plain_name]
      simp [isBracket]
    have after : text.toList.dropWhile (!isBracket ·) = bracketed (k :: ks) := by
      rw [spelled, List.dropWhile_append_of_pos plain_name]
      simp [isBracket]
    simp only [Segment.ofString, before, after, bracketKeys_bracketed keys_plain,
      String.ofList_toList]

private theorem ofString_eq_member {text name : String}
    (read : Segment.ofString text = .member name) :
    name = text := by
  unfold Segment.ofString at read
  dsimp only at read
  split at read
  · cases read
  · exact (Segment.member.inj read).symm

private theorem steps_ofString_of_indexed {text name : String} {keys : List String}
    (form : IndexedForm text name keys) :
    (Segment.ofString text).steps = (if name = "" then [] else [name]) ++ keys := by
  rw [ofString_eq_indexed_iff.mpr form]
  simp [Segment.steps]

private theorem steps_ofString_of_not_indexed {text : String}
    (literal : ∀ name keys, ¬ IndexedForm text name keys) :
    (Segment.ofString text).steps = [text] := by
  cases read : Segment.ofString text with
  | member name => rw [ofString_eq_member read, Segment.steps]
  | indexed name keys => exact absurd (ofString_eq_indexed_iff.mp read) (literal name keys)

/-! ### Walking a path -/

private theorem foldl_bind_eq_bind_foldlM {α β : Type} (f : β → α → Option β) (xs : List α)
    (start : Option β) :
    xs.foldl (fun found x => found.bind (f · x)) start = start.bind (xs.foldlM f ·) := by
  induction xs generalizing start with
  | nil => cases start <;> rfl
  | cons x xs ih =>
    rw [List.foldl_cons, ih]
    cases start with
    | none => rfl
    | some v => simp [List.foldlM_cons]

private theorem Segment.resolve_eq_foldlM (value : Json) (segment : Segment) :
    segment.resolve value = segment.steps.foldlM step value := by
  cases segment with
  | member name => simp [Segment.resolve, Segment.steps]
  | indexed name keys =>
    by_cases empty : name.isEmpty
    · simp [Segment.resolve, Segment.steps, empty, foldl_bind_eq_bind_foldlM]
    · simp [Segment.resolve, Segment.steps, empty, foldl_bind_eq_bind_foldlM, List.foldlM_cons]

private theorem foldlM_resolve_eq_foldlM_steps (segments : List Segment) (value : Json) :
    segments.foldlM (fun found segment => segment.resolve found) value =
      (segments.flatMap Segment.steps).foldlM step value := by
  induction segments generalizing value with
  | nil => rfl
  | cons segment segments ih =>
    simp only [List.foldlM_cons, List.flatMap_cons, List.foldlM_append, ih]
    rw [Segment.resolve_eq_foldlM]

/-- Walking a path is taking its steps in order. -/
theorem resolvePath_eq_foldlM (path : String) (data : Json) :
    resolvePath path data = (pathSteps path).foldlM step data := by
  rw [resolvePath, foldl_bind_eq_bind_foldlM, pathSteps, ← foldlM_resolve_eq_foldlM_steps]
  rfl

private theorem pathSteps_eq_flatMap (path : String) :
    pathSteps path =
      (path.toList.splitOn '.').flatMap fun part => (Segment.ofString (String.ofList part)).steps := by
  simp [pathSteps, segments, List.flatMap_map]

/-! ### Joining paths -/

private theorem segments_append_dot (p q : String) :
    segments (p ++ "." ++ q) = segments p ++ segments q := by
  have spelled : (p ++ "." ++ q).toList = p.toList ++ '.' :: q.toList := by simp
  simp only [segments, spelled, List.splitOn_append_cons_self, List.map_append]

/-- A path joined to another by a dot walks the first, then the second from where it ended. -/
theorem resolvePath_append_dot (p q : String) (data : Json) :
    resolvePath (p ++ "." ++ q) data = (resolvePath p data).bind (resolvePath q) := by
  rw [resolvePath_eq_foldlM, resolvePath_eq_foldlM, pathSteps, pathSteps, segments_append_dot,
    List.flatMap_append, List.foldlM_append]
  exact congrArg (Option.bind _) (funext fun v => (resolvePath_eq_foldlM q v).symm)

private theorem dotFree_or_last_part (xs : List Char) :
    '.' ∉ xs ∨ ∃ front last, '.' ∉ last ∧ xs = front ++ '.' :: last := by
  induction xs with
  | nil => exact .inl List.not_mem_nil
  | cons c rest ih =>
    rcases ih with free | ⟨front, last, free, rfl⟩
    · by_cases dot : c = '.'
      · exact .inr ⟨[], rest, free, by simp [dot]⟩
      · exact .inl (by simp [free, Ne.symm dot])
    · exact .inr ⟨c :: front, last, free, rfl⟩

private theorem splitOn_append_of_dotFree (xs ys : List Char) (free : '.' ∉ ys) :
    ∃ front last, last <:+ xs ∧ xs.splitOn '.' = front ++ [last] ∧
      (xs ++ ys).splitOn '.' = front ++ [last ++ ys] := by
  rcases dotFree_or_last_part xs with no_dot | ⟨front, last, last_free, rfl⟩
  · refine ⟨[], xs, List.suffix_refl xs, List.splitOn_eq_singleton no_dot, ?_⟩
    exact List.splitOn_eq_singleton (by simp [no_dot, free])
  · refine ⟨front.splitOn '.', last, ⟨front ++ ['.'], by simp⟩, ?_, ?_⟩
    · rw [List.splitOn_append_cons_self, List.splitOn_eq_singleton last_free]
    · have joined : (last ++ ys).splitOn '.' = [last ++ ys] :=
        List.splitOn_eq_singleton (by simp [last_free, free])
      rw [List.append_assoc, List.cons_append, List.splitOn_append_cons_self, joined]

private theorem not_indexedForm_of_not_mem {text : String}
    (absent : '[' ∉ text.toList) (name : String)
    (keys : List String) : ¬ IndexedForm text name keys := by
  rintro ⟨nonempty, -, -, spelled⟩
  obtain ⟨k, ks, rfl⟩ := List.exists_cons_of_ne_nil nonempty
  exact absent (by simp [spelled])

private theorem steps_ofString_of_not_mem {text : String} (absent : '[' ∉ text.toList) :
    (Segment.ofString text).steps = [text] :=
  steps_ofString_of_not_indexed (not_indexedForm_of_not_mem absent)

private theorem not_mem_of_bracketFree {cs : List Char} (plain : BracketFree cs) : '[' ∉ cs := by
  intro member
  have := plain '[' member
  simp [isBracket] at this

private theorem steps_ofString_of_bracketFree {text : String} (plain : BracketFree text.toList) :
    (Segment.ofString text).steps = [text] :=
  steps_ofString_of_not_mem (not_mem_of_bracketFree plain)

/-- A key in brackets after a name walks like the key after a dot. -/
theorem resolvePath_bracket_eq_dot {x i : String} (x_plain : BracketFree x.toList)
    (named : (x.toList.splitOn '.').getLast? ≠ some []) (i_plain : BracketFree i.toList)
    (i_free : '.' ∉ i.toList) (data : Json) :
    resolvePath (x ++ "[" ++ i ++ "]") data = resolvePath (x ++ "." ++ i) data := by
  obtain ⟨front, last, suffix, parts, parts'⟩ :=
    splitOn_append_of_dotFree x.toList ('[' :: i.toList ++ [']']) (by simp [i_free])
  have last_ne : last ≠ [] := by simpa [parts] using named
  have last_plain : BracketFree last := fun c member => x_plain c (suffix.subset member)
  have form :
      IndexedForm (String.ofList (last ++ ('[' :: i.toList ++ [']']))) (String.ofList last) [i] :=
    ⟨List.cons_ne_nil _ _, by simpa using last_plain, by simpa using i_plain, by simp⟩
  have bracket_spelled : (x ++ "[" ++ i ++ "]").toList = x.toList ++ ('[' :: i.toList ++ [']']) := by
    simp
  have dot_spelled : (x ++ "." ++ i).toList = x.toList ++ '.' :: i.toList := by simp
  rw [resolvePath_eq_foldlM, resolvePath_eq_foldlM, pathSteps_eq_flatMap, pathSteps_eq_flatMap,
    bracket_spelled, dot_spelled, parts', List.splitOn_append_cons_self, parts,
    List.splitOn_eq_singleton i_free]
  simp only [List.flatMap_append, List.flatMap_cons, List.flatMap_nil, List.append_nil]
  rw [steps_ofString_of_indexed form, steps_ofString_of_bracketFree (by simpa using last_plain),
    steps_ofString_of_bracketFree (by simpa using i_plain)]
  simp [last_ne]

/-! ### Keys that are one member -/

theorem lookupKey_eq_resolvePath {key : String} (no_dot : '.' ∉ key.toList)
    (no_open : '[' ∉ key.toList) (data : Json) : lookupKey key data = resolvePath key data := by
  rw [resolvePath_eq_foldlM, pathSteps_eq_flatMap, List.splitOn_eq_singleton no_dot]
  simp [steps_ofString_of_not_mem (by simpa using no_open), lookupKey]

private theorem found_eq_resolvePath (p : Template.Placeholder) (data : Json) :
    (if p.isPath then resolvePath p.key data else lookupKey p.key data) = resolvePath p.key data := by
  by_cases path : p.isPath = true
  · rw [if_pos path]
  · rw [if_neg path]
    simp only [Template.Placeholder.isPath, Bool.or_eq_true, not_or, String.contains_char_eq,
      decide_eq_true_eq] at path
    exact lookupKey_eq_resolvePath path.1 path.2 data

/-- Resolving a path is a left fold of one step over its steps: for each part between dots,
empty ones included, the name (left out when empty) and then each key when the part is written as
a name and one or more bracketed keys, none of which holds a bracket, and the part itself
otherwise. Each step is an object's member by its exact key or an array's item at the position
the key writes, and the first step that cannot be taken ends the walk with nothing. So a path
joined to another by a dot walks the first and then the second; a key in brackets after a name
walks like the key after a dot, when the last part of the name is not empty and the key holds no
bracket and no dot; and a key without dots and opening brackets walks like one member lookup, so
looking a placeholder's key up the way its shape asks is always walking it as a path. -/
theorem resolvePath_takes_steps :
    (∀ path data, resolvePath path data = (pathSteps path).foldlM step data) ∧
    (∀ path, pathSteps path = (path.toList.splitOn '.').flatMap
      fun part => (Segment.ofString (String.ofList part)).steps) ∧
    (∀ text name keys, IndexedForm text name keys →
      (Segment.ofString text).steps = (if name = "" then [] else [name]) ++ keys) ∧
    (∀ text, (∀ name keys, ¬ IndexedForm text name keys) →
      (Segment.ofString text).steps = [text]) ∧
    (∀ p q data, resolvePath (p ++ "." ++ q) data = (resolvePath p data).bind (resolvePath q)) ∧
    (∀ x i data, BracketFree x.toList → (x.toList.splitOn '.').getLast? ≠ some [] →
      BracketFree i.toList → '.' ∉ i.toList →
      resolvePath (x ++ "[" ++ i ++ "]") data = resolvePath (x ++ "." ++ i) data) ∧
    (∀ key data, '.' ∉ key.toList → '[' ∉ key.toList → lookupKey key data = resolvePath key data) ∧
    (∀ (p : Template.Placeholder) data,
      (if p.isPath then resolvePath p.key data else lookupKey p.key data) = resolvePath p.key data) :=
  ⟨resolvePath_eq_foldlM, pathSteps_eq_flatMap, fun _ _ _ => steps_ofString_of_indexed,
    fun _ => steps_ofString_of_not_indexed, resolvePath_append_dot,
    fun _ _ data x_plain named i_plain i_free =>
      resolvePath_bracket_eq_dot x_plain named i_plain i_free data,
    fun _ data no_dot no_open => lookupKey_eq_resolvePath no_dot no_open data, found_eq_resolvePath⟩

example : (["user.addresses[1].city", "[1]", "x]"].map fun path => (pathSteps path).map String.toList) =
    [["user".toList, "addresses".toList, "1".toList, "city".toList], ["1".toList], ["x]".toList]] := by
  decide +kernel

end Stencil.Data
