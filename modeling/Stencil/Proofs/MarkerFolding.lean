import Stencil.Engine

/-! Markers equal up to simple case folding fill every template alike. -/

namespace Stencil

/-- Markers that match the same text: as many characters, equal one by one after simple case
folding. -/
def Marker.FoldAlike (m m' : Marker) : Prop :=
  m.chars.map Unicode.simpleFold = m'.chars.map Unicode.simpleFold

namespace Marker

private theorem matchPrefix_congr {pattern pattern' : List Char}
    (alike : pattern.map Unicode.simpleFold = pattern'.map Unicode.simpleFold) (text : List Char) :
    matchPrefix pattern text = matchPrefix pattern' text := by
  induction pattern generalizing pattern' text with
  | nil =>
    rw [List.map_nil, eq_comm, List.map_eq_nil_iff] at alike
    rw [alike]
  | cons p ps ih =>
    obtain ⟨p', ps', rfl, same, rest⟩ := List.map_eq_cons_iff.mp alike.symm
    cases text with
    | nil => rfl
    | cons t ts =>
      have compared : Unicode.foldEq p t = Unicode.foldEq p' t := by
        simp [Unicode.foldEq, same]
      simp only [matchPrefix, compared, ih rest.symm]

private theorem findIn_congr {pattern pattern' : List Char}
    (alike : pattern.map Unicode.simpleFold = pattern'.map Unicode.simpleFold) (text : List Char) :
    findIn pattern text = findIn pattern' text := by
  induction text with
  | nil => simp only [findIn, matchPrefix_congr alike]
  | cons t ts ih => simp only [findIn, matchPrefix_congr alike, ih]

private theorem find?_congr {m m' : Marker} (alike : m.FoldAlike m') : m.find? = m'.find? :=
  funext (findIn_congr alike)

private theorem erase_congr {m m' : Marker} (searches : m.find? = m'.find?) (text : List Char) :
    m.erase text = m'.erase text := by
  fun_induction m.erase text with
  | case1 text found =>
    rw [erase, ← searches]
    split <;> simp_all
  | case2 text o found ih =>
    conv => rhs; rw [erase, ← searches]
    split <;> simp_all

end Marker

namespace Template

private theorem scanFrom_congr {O O' C C' : Marker} (opening : O.find? = O'.find?)
    (closing : C.find? = C'.find?) (gap rest : List Char) :
    scanFrom O C gap rest = scanFrom O' C' gap rest := by
  fun_induction scanFrom O C gap rest with
  | case1 gap rest found =>
    rw [scanFrom, ← opening]
    split <;> simp_all
  | case2 gap rest o found unclosed =>
    rw [scanFrom, ← opening, ← closing]
    split
    · simp_all
    · split <;> simp_all
  | case3 gap rest o found c closed first others empty starts ih =>
    conv => rhs; rw [scanFrom, ← opening, ← closing]
    split
    · simp_all
    · split
      · simp_all
      · split <;> simp_all
  | case4 gap rest o found c closed empty starts =>
    rw [scanFrom, ← opening, ← closing]
    split
    · simp_all
    · split
      · simp_all
      · split <;> simp_all
  | case5 gap rest o found c closed x xs inner later ih =>
    conv => rhs; rw [scanFrom, ← opening, ← closing]
    split
    · simp_all
    · split
      · simp_all
      · split <;> simp_all [later]

private theorem placeholders_congr {O O' C C' : Marker} (opening : O.FoldAlike O')
    (closing : C.FoldAlike C') (template : String) :
    placeholders O C template = placeholders O' C' template := by
  have stripped : strip O C = strip O' C' := by
    funext cs
    simp only [strip, Marker.erase_congr (Marker.find?_congr opening),
      Marker.erase_congr (Marker.find?_congr closing)]
  simp only [placeholders, scan, scanFrom_congr (Marker.find?_congr opening)
    (Marker.find?_congr closing), Placeholder.ofSpan, stripped]

end Template

/-- Filling depends on the markers only up to case folding. -/
theorem fill_congr_markers {O O' C C' : Marker} (opening : O.FoldAlike O')
    (closing : C.FoldAlike C') (registry : Registry) (aliases : AliasTable) (template : String)
    (data : Json) :
    fill O C registry aliases template data = fill O' C' registry aliases template data := by
  simp only [fill, Template.placeholders_congr opening closing]

namespace Engine

/-- A change made to an engine once it is set up. -/
inductive Change where
  | registerModifier (name : String) (transform : Transform)
  | addAlias (key : String) (target : AliasTarget)
  | removeAlias (key : String)

/-- The engine after a change; a registration that is refused leaves it as it was. -/
def change (e : Engine) : Change → Engine
  | .registerModifier name transform =>
    match e.registerModifier name transform with
    | .ok e' => e'
    | .error _ => e
  | .addAlias key target => e.addAlias key target
  | .removeAlias key => e.removeAlias key

def changeAll (e : Engine) (changes : List Change) : Engine := changes.foldl change e

private theorem change_markers (e : Engine) (o : Options) (O C : Marker) (c : Change) :
    ({ e with options := o, opening := O, closing := C } : Engine).change c =
      { e.change c with options := o, opening := O, closing := C } := by
  cases c with
  | registerModifier name transform =>
    simp only [change, registerModifier]
    cases e.registry.register name transform <;> rfl
  | addAlias key target => rfl
  | removeAlias key => rfl

private theorem changeAll_markers (e : Engine) (o : Options) (O C : Marker)
    (changes : List Change) :
    ({ e with options := o, opening := O, closing := C } : Engine).changeAll changes =
      { e.changeAll changes with options := o, opening := O, closing := C } := by
  induction changes generalizing e with
  | nil => rfl
  | cons c changes ih =>
    simp only [changeAll, List.foldl_cons] at ih ⊢
    rw [change_markers, ih]

theorem changeAll_reports (e : Engine) (changes : List Change) :
    (e.changeAll changes).options = e.options ∧ (e.changeAll changes).opening = e.opening ∧
      (e.changeAll changes).closing = e.closing := by
  have same : e = { e with options := e.options, opening := e.opening, closing := e.closing } := rfl
  rw [same, changeAll_markers]
  exact ⟨rfl, rfl, rfl⟩

end Engine

private theorem Marker.ofString?_of_ne {s : String} (named : s ≠ "") :
    ∃ m, Marker.ofString? s = some m ∧ m.chars = s.toList ∧ m.text = s := by
  have nonempty : s.toList ≠ [] := fun empty => named (String.toList_eq_nil_iff.mp empty)
  exact ⟨⟨s.toList, nonempty⟩, by simp [Marker.ofString?, nonempty], rfl, by simp [Marker.text]⟩

private theorem ne_empty_of_fold_alike {s s' : String} (named : s ≠ "")
    (alike : s.toList.map Unicode.simpleFold = s'.toList.map Unicode.simpleFold) : s' ≠ "" := by
  rintro rfl
  simp only [String.toList_empty, List.map_nil, List.map_eq_nil_iff] at alike
  exact named (String.toList_eq_nil_iff.mp alike)

private theorem Marker.ofString?_fold_alike {s s' : String} (named : s ≠ "")
    (alike : s.toList.map Unicode.simpleFold = s'.toList.map Unicode.simpleFold) :
    ∃ m m', Marker.ofString? s = some m ∧ Marker.ofString? s' = some m' ∧
      m.text = s ∧ m'.text = s' ∧ m.FoldAlike m' := by
  obtain ⟨m, found, chars, text⟩ := Marker.ofString?_of_ne named
  obtain ⟨m', found', chars', text'⟩ := Marker.ofString?_of_ne (ne_empty_of_fold_alike named alike)
  exact ⟨m, m', found, found', text, text', by rw [Marker.FoldAlike, chars, chars', alike]⟩

/-- Two engines set up with markers of as many characters, equal one by one after simple case
folding (`ß` and `ẞ`, `k` and the Kelvin sign, `s` and the long `ſ`), and then changed alike by
registering modifiers and adding or removing aliases, fill every template with every data alike:
the same output and the same report of each placeholder. The second engine is the first with
the other options and markers, so these, as reported, are all that tells them apart. -/
theorem withOptions_fold_alike (o o' : Options) (opening_named : o.opening ≠ "")
    (closing_named : o.closing ≠ "")
    (opening_alike : o.opening.toList.map Unicode.simpleFold = o'.opening.toList.map Unicode.simpleFold)
    (closing_alike : o.closing.toList.map Unicode.simpleFold = o'.closing.toList.map Unicode.simpleFold) :
    ∃ e e', Engine.withOptions o = .ok e ∧ Engine.withOptions o' = .ok e' ∧
      ∀ changes : List Engine.Change,
        e'.changeAll changes =
          { e.changeAll changes with options := o', opening := e'.opening, closing := e'.closing } ∧
        (e.changeAll changes).options = o ∧ (e'.changeAll changes).options = o' ∧
        ((e.changeAll changes).opening.text, (e.changeAll changes).closing.text) =
          (o.opening, o.closing) ∧
        ((e'.changeAll changes).opening.text, (e'.changeAll changes).closing.text) =
          (o'.opening, o'.closing) ∧
        ∀ template data,
          (e'.changeAll changes).parse template data = (e.changeAll changes).parse template data ∧
          ((e'.changeAll changes).render template data).substitutions =
            ((e.changeAll changes).render template data).substitutions := by
  obtain ⟨O, O', found_O, found_O', text_O, text_O', opening⟩ :=
    Marker.ofString?_fold_alike opening_named opening_alike
  obtain ⟨C, C', found_C, found_C', text_C, text_C', closing⟩ :=
    Marker.ofString?_fold_alike closing_named closing_alike
  let e : Engine := ⟨o, O, C, Registry.builtins, AliasTable.empty⟩
  refine ⟨e, { e with options := o', opening := O', closing := C' },
    by simp [Engine.withOptions, found_O, found_C, e],
    by simp [Engine.withOptions, found_O', found_C', e], fun changes => ?_⟩
  have primed := Engine.changeAll_markers e o' O' C' changes
  obtain ⟨options, opened, closed⟩ := Engine.changeAll_reports e changes
  have filled : ∀ template data,
      ({ e.changeAll changes with options := o', opening := O', closing := C' } : Engine).render
        template data = (e.changeAll changes).render template data := by
    intro template data
    simp only [Engine.render, opened, closed]
    exact (fill_congr_markers opening closing _ _ template data).symm
  refine ⟨primed, options, ?_, ?_, ?_, fun template data => ?_⟩
  · rw [primed]
  · rw [opened, closed, text_O, text_C]
  · rw [primed, text_O', text_C']
  · rw [primed]
    exact ⟨congrArg Rendering.output (filled template data),
      congrArg Rendering.substitutions (filled template data)⟩

/-- Markers `<k` and `ſ>` against `<K` (the Kelvin sign) and `S>`. -/
theorem kelvin_and_long_s_markers_fill_alike :
    "<k" ≠ "" ∧ "ſ>" ≠ "" ∧
    "<k".toList.map Unicode.simpleFold = "<K".toList.map Unicode.simpleFold ∧
    "ſ>".toList.map Unicode.simpleFold = "S>".toList.map Unicode.simpleFold ∧
    ∃ e e', Engine.withOptions ⟨"<k", "ſ>"⟩ = .ok e ∧ Engine.withOptions ⟨"<K", "S>"⟩ = .ok e' ∧
      ∀ changes : List Engine.Change,
        e'.changeAll changes =
          { e.changeAll changes with
            options := ⟨"<K", "S>"⟩, opening := e'.opening, closing := e'.closing } ∧
        (e.changeAll changes).options = ⟨"<k", "ſ>"⟩ ∧
        (e'.changeAll changes).options = ⟨"<K", "S>"⟩ ∧
        ((e.changeAll changes).opening.text, (e.changeAll changes).closing.text) = ("<k", "ſ>") ∧
        ((e'.changeAll changes).opening.text, (e'.changeAll changes).closing.text) =
          ("<K", "S>") ∧
        ∀ template data,
          (e'.changeAll changes).parse template data = (e.changeAll changes).parse template data ∧
          ((e'.changeAll changes).render template data).substitutions =
            ((e.changeAll changes).render template data).substitutions := by
  have named_opening : "<k" ≠ "" := by decide
  have named_closing : "ſ>" ≠ "" := by decide
  have opening_alike : "<k".toList.map Unicode.simpleFold = "<K".toList.map Unicode.simpleFold := by
    decide +kernel
  have closing_alike : "ſ>".toList.map Unicode.simpleFold = "S>".toList.map Unicode.simpleFold := by
    decide +kernel
  exact ⟨named_opening, named_closing, opening_alike, closing_alike,
    withOptions_fold_alike ⟨"<k", "ſ>"⟩ ⟨"<K", "S>"⟩ named_opening named_closing opening_alike
      closing_alike⟩

end Stencil
