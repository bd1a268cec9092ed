import Mathlib
import Stencil.Proofs.Normalization

/-! Title case by maximal runs of white space and of other characters. -/

namespace Stencil.Unicode

private theorem upperRuns_plain :
    upperRuns.toList.all (fun run => run.images.all fun m => !isWhiteSpace (Char.ofNat m)) = true := by
  decide +kernel

private theorem upperExpansions_plain :
    upperExpansions.toList.all
      (fun entry => !entry.2.isEmpty && entry.2.all fun m => !isWhiteSpace (Char.ofNat m)) = true := by
  decide +kernel

private theorem toUpperChars_self_or_plain (c : Char) :
    toUpperChars c = [c] ∨ (toUpperChars c ≠ [] ∧ ∀ x ∈ toUpperChars c, (!isWhiteSpace x) = true) :=
  caseMap_self_or_all (fun x => !isWhiteSpace x) upperRuns_plain upperExpansions_plain c

private theorem toUpperChars_ne_nil (c : Char) : toUpperChars c ≠ [] := by
  rcases toUpperChars_self_or_plain c with same | ⟨nonempty, -⟩
  · simp [same]
  · exact nonempty

private theorem not_white_of_toUpperChars {x y : Char} (plain : isWhiteSpace x = false)
    (member : y ∈ toUpperChars x) : isWhiteSpace y = false := by
  rcases toUpperChars_self_or_plain x with same | ⟨-, passes⟩
  · rw [same, List.mem_singleton] at member
    exact member ▸ plain
  · simpa using passes y member

end Stencil.Unicode

namespace Stencil.Text

open Unicode

def sameKind (a b : Char) : Bool := isWhiteSpace a == isWhiteSpace b

/-- The maximal runs of white space and of other characters, in order. -/
def kindRuns (cs : List Char) : List (List Char) := cs.splitBy sameKind

/-- A run in title case: white space as it is; a word with its first character in upper case
and each other character in lower case, one by one. -/
def titleRun : List Char → List Char
  | [] => []
  | c :: rest => if isWhiteSpace c then c :: rest else toUpperChars c ++ rest.flatMap toLowerChars

/-- A non-empty run, of white space when `blank` holds and of other characters when not. -/
def OfKind (blank : Bool) (run : List Char) : Prop := run ≠ [] ∧ ∀ c ∈ run, isWhiteSpace c = blank

def RunsAlternate (runs : List (List Char)) : Prop :=
  [] ∉ runs ∧ (∀ run ∈ runs, run.IsChain fun x y => sameKind x y) ∧
    runs.IsChain fun a b => ∃ ha hb, sameKind (a.getLast ha) (b.head hb) = false

private theorem kindRuns_eq_iff {cs : List Char} {runs : List (List Char)} :
    kindRuns cs = runs ↔ cs = runs.flatten ∧ RunsAlternate runs :=
  List.splitBy_eq_iff

private theorem kindRuns_alternate (cs : List Char) : RunsAlternate (kindRuns cs) :=
  (kindRuns_eq_iff.mp rfl).2

private theorem RunsAlternate.tail {run : List Char} {runs : List (List Char)}
    (alternate : RunsAlternate (run :: runs)) : RunsAlternate runs :=
  ⟨fun empty => alternate.1 (List.mem_cons_of_mem run empty),
    fun r inside => alternate.2.1 r (List.mem_cons_of_mem run inside), alternate.2.2.tail⟩

/-! ### Runs of one kind -/

private theorem ofKind_of_isChain {run : List Char} (nonempty : run ≠ [])
    (chain : run.IsChain fun x y => sameKind x y) : ∃ blank, OfKind blank run := by
  obtain ⟨c, rest, rfl⟩ := List.exists_cons_of_ne_nil nonempty
  refine ⟨isWhiteSpace c, nonempty, ?_⟩
  induction rest generalizing c with
  | nil => simp
  | cons d rest ih =>
    rw [List.isChain_cons_cons] at chain
    have same : isWhiteSpace d = isWhiteSpace c := (beq_iff_eq.mp chain.1).symm
    intro e member
    rcases List.mem_cons.mp member with rfl | later
    · rfl
    · exact (ih d (by simp) chain.2 e later).trans same

private theorem RunsAlternate.ofKind {runs : List (List Char)} (alternate : RunsAlternate runs)
    {run : List Char} (inside : run ∈ runs) : ∃ blank, OfKind blank run :=
  ofKind_of_isChain (fun empty => alternate.1 (empty ▸ inside)) (alternate.2.1 run inside)

private theorem OfKind.isChain {blank : Bool} {run : List Char} (kind : OfKind blank run) :
    run.IsChain fun x y => sameKind x y :=
  List.Pairwise.isChain <| List.pairwise_of_forall_mem_list fun a inside b inside' => by
    simp [sameKind, kind.2 a inside, kind.2 b inside']

private theorem boundary_iff {blank blank' : Bool} {a b : List Char} (first : OfKind blank a)
    (second : OfKind blank' b) :
    (∃ ha hb, sameKind (a.getLast ha) (b.head hb) = false) ↔ blank ≠ blank' := by
  constructor
  · rintro ⟨ha, hb, differ⟩
    rw [sameKind, first.2 _ (List.getLast_mem ha), second.2 _ (List.head_mem hb)] at differ
    simpa using differ
  · intro differ
    refine ⟨first.1, second.1, ?_⟩
    rw [sameKind, first.2 _ (List.getLast_mem first.1), second.2 _ (List.head_mem second.1)]
    simpa using differ

private theorem OfKind.titleRun {blank : Bool} {run : List Char} (kind : OfKind blank run) :
    OfKind blank (titleRun run) := by
  obtain ⟨c, rest, rfl⟩ := List.exists_cons_of_ne_nil kind.1
  have first := kind.2 c List.mem_cons_self
  cases blank with
  | true => simpa [Stencil.Text.titleRun, first] using kind
  | false =>
    simp only [Stencil.Text.titleRun, first, Bool.false_eq_true, if_false]
    refine ⟨by simp [toUpperChars_ne_nil], fun d member => ?_⟩
    rcases List.mem_append.mp member with raised | lowered
    · exact not_white_of_toUpperChars first raised
    · obtain ⟨e, inside, image⟩ := List.mem_flatMap.mp lowered
      exact not_white_of_toLowerChars (kind.2 e (List.mem_cons_of_mem c inside)) image

/-! ### Title case along the runs -/

private theorem titleChars_blank_run {c : Char} {run : List Char} (start : Bool)
    (blank : ∀ d ∈ c :: run, isWhiteSpace d = true) (rest : List Char) :
    titleChars start (c :: run ++ rest) = c :: run ++ titleChars true rest := by
  induction run generalizing c start with
  | nil => simp [titleChars, blank c List.mem_cons_self]
  | cons d run ih =>
    rw [List.cons_append, titleChars, if_pos (blank c List.mem_cons_self), List.cons_append,
      ← List.cons_append, ih true fun e member => blank e (List.mem_cons_of_mem c member)]
    rfl

private theorem titleChars_word_tail {run : List Char} (word : ∀ d ∈ run, isWhiteSpace d = false)
    (rest : List Char) :
    titleChars false (run ++ rest) = run.flatMap toLowerChars ++ titleChars false rest := by
  induction run with
  | nil => rfl
  | cons d run ih =>
    rw [List.cons_append, titleChars, if_neg (by simp [word d List.mem_cons_self]),
      if_neg Bool.false_ne_true, ih fun e member => word e (List.mem_cons_of_mem d member)]
    simp

private theorem titleChars_false_of_blank {cs : List Char}
    (blank : ∀ c ∈ cs.head?, isWhiteSpace c = true) :
    titleChars false cs = titleChars true cs := by
  cases cs with
  | nil => rfl
  | cons c rest => simp [titleChars, blank c rfl]

private theorem titleChars_run {blank : Bool} {run : List Char} (kind : OfKind blank run)
    (rest : List Char) :
    titleChars true (run ++ rest) = titleRun run ++ titleChars blank rest := by
  obtain ⟨c, word, rfl⟩ := List.exists_cons_of_ne_nil kind.1
  have first := kind.2 c List.mem_cons_self
  cases blank with
  | true =>
    rw [titleChars_blank_run true kind.2 rest]
    simp [titleRun, first]
  | false =>
    rw [List.cons_append, titleChars, if_neg (by simp [first]), if_pos rfl,
      titleChars_word_tail (fun d member => kind.2 d (List.mem_cons_of_mem c member)) rest]
    simp [titleRun, first]

private theorem titleChars_flatten {runs : List (List Char)} (alternate : RunsAlternate runs) :
    titleChars true runs.flatten = runs.flatMap titleRun := by
  induction runs with
  | nil => rfl
  | cons run runs ih =>
    obtain ⟨blank, kind⟩ := alternate.ofKind List.mem_cons_self
    rw [List.flatten_cons, List.flatMap_cons, titleChars_run kind, ← ih alternate.tail]
    cases blank with
    | true => rfl
    | false =>
      suffices next_blank : ∀ c ∈ runs.flatten.head?, isWhiteSpace c = true by
        rw [titleChars_false_of_blank next_blank]
      cases runs with
      | nil => simp
      | cons next runs =>
        obtain ⟨kind', next_kind⟩ := alternate.ofKind (List.mem_cons_of_mem run List.mem_cons_self)
        have differ := (boundary_iff kind next_kind).mp (List.isChain_cons_cons.mp alternate.2.2).1
        intro c first
        rw [List.flatten_cons, List.head?_append, List.head?_eq_some_head next_kind.1] at first
        simp only [Option.some_or, Option.mem_def, Option.some.injEq] at first
        rw [next_kind.2 c (first ▸ List.head_mem next_kind.1)]
        simpa using Ne.symm differ

/-! ### Title case of a text -/

theorem toTitle_toList (x : String) : (toTitle x).toList = (kindRuns x.toList).flatMap titleRun := by
  have spelled : (kindRuns x.toList).flatten = x.toList := List.flatten_splitBy _ _
  calc (toTitle x).toList = titleChars true x.toList := String.toList_ofList
    _ = titleChars true (kindRuns x.toList).flatten := by rw [spelled]
    _ = (kindRuns x.toList).flatMap titleRun := titleChars_flatten (kindRuns_alternate _)

private theorem ofKind_of_mem_kindRuns {cs run : List Char} (inside : run ∈ kindRuns cs) :
    ∃ blank, OfKind blank run :=
  (kindRuns_alternate cs).ofKind inside

/-- The maximal runs of titled text are the titled runs of the text. -/
theorem kindRuns_toTitle (x : String) :
    kindRuns (toTitle x).toList = (kindRuns x.toList).map titleRun := by
  have boundaries := (kindRuns_alternate x.toList).2.2
  rw [kindRuns_eq_iff, toTitle_toList, List.flatMap_def]
  refine ⟨rfl, ?_, ?_, ?_⟩
  · intro empty
    obtain ⟨run, inside, titled⟩ := List.mem_map.mp empty
    obtain ⟨blank, kind⟩ := ofKind_of_mem_kindRuns inside
    exact kind.titleRun.1 titled
  · intro titled member
    obtain ⟨run, inside, rfl⟩ := List.mem_map.mp member
    obtain ⟨blank, kind⟩ := ofKind_of_mem_kindRuns inside
    exact kind.titleRun.isChain
  · rw [List.isChain_map]
    refine boundaries.imp_of_mem_imp fun a b a_inside b_inside boundary => ?_
    obtain ⟨blank, a_kind⟩ := ofKind_of_mem_kindRuns a_inside
    obtain ⟨blank', b_kind⟩ := ofKind_of_mem_kindRuns b_inside
    exact (boundary_iff a_kind.titleRun b_kind.titleRun).mpr ((boundary_iff a_kind b_kind).mp boundary)

def isBlankRun (run : List Char) : Bool := run.all isWhiteSpace

private theorem OfKind.isBlankRun {blank : Bool} {run : List Char} (kind : OfKind blank run) :
    isBlankRun run = blank := by
  obtain ⟨c, rest, rfl⟩ := List.exists_cons_of_ne_nil kind.1
  cases blank with
  | true => simpa [Stencil.Text.isBlankRun] using kind.2
  | false => simp [Stencil.Text.isBlankRun, kind.2 c List.mem_cons_self]

private theorem titleRun_of_blank {run : List Char}
    (kind : OfKind true run) : titleRun run = run := by
  obtain ⟨c, rest, rfl⟩ := List.exists_cons_of_ne_nil kind.1
  simp [titleRun, kind.2 c List.mem_cons_self]

private theorem blankRuns_toTitle (x : String) :
    (kindRuns (toTitle x).toList).filter isBlankRun = (kindRuns x.toList).filter isBlankRun := by
  rw [kindRuns_toTitle, List.filter_map]
  have kept : (kindRuns x.toList).filter (isBlankRun ∘ titleRun) =
      (kindRuns x.toList).filter isBlankRun := by
    refine List.filter_congr fun run inside => ?_
    obtain ⟨blank, kind⟩ := ofKind_of_mem_kindRuns inside
    rw [Function.comp_apply, kind.titleRun.isBlankRun, kind.isBlankRun]
  rw [kept]
  refine (List.map_congr_left fun run member => ?_).trans (List.map_id _)
  obtain ⟨inside, blank_run⟩ := List.mem_filter.mp member
  obtain ⟨blank, kind⟩ := ofKind_of_mem_kindRuns inside
  rw [kind.isBlankRun] at blank_run
  exact titleRun_of_blank (blank_run ▸ kind)

/-- Title case splits the text into maximal runs of white space and of other characters, keeps
each run of white space, and writes each word as its first character in upper case followed by
each other character in lower case on its own; the runs of the result are those titled runs, so
its runs of white space are the text's, in order. -/
theorem toTitle_titles_each_run (x : String) :
    (toTitle x).toList = (kindRuns x.toList).flatMap titleRun ∧
    kindRuns (toTitle x).toList = (kindRuns x.toList).map titleRun ∧
    (kindRuns (toTitle x).toList).filter isBlankRun = (kindRuns x.toList).filter isBlankRun :=
  ⟨toTitle_toList x, kindRuns_toTitle x, blankRuns_toTitle x⟩

-- A capital sigma ending a word: title case lowers it on its own, lowercasing the text gives `ς`.
example : (toTitle "\u039F\u0394\u039F\u03A3").toList = "\u039F\u03B4\u03BF\u03C3".toList := by
  decide +kernel

example : (toLower "\u039F\u0394\u039F\u03A3").toList = "\u03BF\u03B4\u03BF\u03C2".toList := by
  decide +kernel

end Stencil.Text
