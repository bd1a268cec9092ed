import Stencil.Proofs.Pipeline

/-! The fallback chain of a placeholder: alias, data, alternative, then the key itself. -/

namespace Stencil

open Template

/-! ### Rendered values -/

private theorem Decimal.layout_ne_empty (d : Decimal) : d.layout ≠ "" := by
  unfold Decimal.layout
  dsimp only
  repeat' split
  all_goals simp [String.append_eq_empty_iff]

private theorem Binary64.toText_ne_empty (x : Binary64) : x.toText ≠ "" := by
  have magnitude : (if x.isZero then "0.0" else x.shortestDecimal.layout) ≠ "" := by
    split
    · decide
    · exact Decimal.layout_ne_empty _
  unfold Binary64.toText
  dsimp only
  by_cases negative : x.sign = true
  · simp [negative, String.append_eq_empty_iff]
  · simpa [negative] using magnitude

private theorem Int.toString_ne_empty (n : Int) : toString n ≠ "" := by
  cases n with
  | ofNat m => exact Nat.repr_ne_empty
  | negSucc m => simp [toString, Int.repr, String.append_eq_empty_iff]

private theorem Data.renderNumber_ne_empty (n : Number) : Data.renderNumber n ≠ "" := by
  cases n with
  | nat m => exact Nat.repr_ne_empty
  | negInt m => exact Int.toString_ne_empty m
  | float x =>
    simp only [Data.renderNumber]
    split
    · split
      · simp [String.append_eq_empty_iff]
      · exact Nat.repr_ne_empty
    · exact Binary64.toText_ne_empty x

theorem Data.render_ne_empty {v : Json} (present : Data.isTruthy v = true) : Data.render v ≠ "" := by
  cases v with
  | null => simp [Data.isTruthy] at present
  | bool b =>
    simp only [Data.isTruthy] at present
    subst present
    decide
  | number n => exact Data.renderNumber_ne_empty n
  | string s => simpa [Data.isTruthy, Data.render] using present
  | array items => simp [Data.render, Json.compact, String.append_eq_empty_iff]
  | object members => simp [Data.render, Json.compact, String.append_eq_empty_iff]

/-! ### Finding the value -/

/-- What a placeholder's key finds in the data before presence is asked: along a path when the
key has a dot or a bracket, else as one member. -/
def Template.Placeholder.dataValue (p : Placeholder) (data : Json) : Option Json :=
  if p.isPath then Data.resolvePath p.key data else Data.lookupKey p.key data

def NoAliasValue (aliases : AliasTable) (p : Placeholder) (data : Json) : Prop :=
  ∀ t v, aliases.get? p.key = some t → t.resolve data = some v → Data.isTruthy v = false

def NoDataValue (p : Placeholder) (data : Json) : Prop :=
  ∀ v, p.dataValue data = some v → Data.isTruthy v = false

variable {aliases : AliasTable} {p : Placeholder} {data : Json}

private theorem aliasValue_eq_none (none_present : NoAliasValue aliases p data) :
    ((aliases.get? p.key).bind (·.resolve data)).filter Data.isTruthy = none := by
  cases target : aliases.get? p.key with
  | none => rfl
  | some t =>
    cases resolved : t.resolve data with
    | none => simp [resolved]
    | some v => simp [resolved, none_present t v target resolved]

private theorem findValue_of_alias {t : AliasTarget} {v : Json}
    (target : aliases.get? p.key = some t)
    (resolved : t.resolve data = some v) (present : Data.isTruthy v = true) :
    findValue aliases p data = some (v, .alias) := by
  simp [findValue, target, resolved, Option.filter_some, present]

private theorem findValue_of_data {v : Json} (no_alias : NoAliasValue aliases p data)
    (found : p.dataValue data = some v) (present : Data.isTruthy v = true) :
    findValue aliases p data = some (v, .data) := by
  unfold Placeholder.dataValue at found
  simp [findValue, aliasValue_eq_none no_alias, found, present]

private theorem findValue_of_none (no_alias : NoAliasValue aliases p data)
    (no_data : NoDataValue p data) :
    findValue aliases p data = none := by
  have absent : (p.dataValue data).filter Data.isTruthy = none := by
    cases found : p.dataValue data with
    | none => rfl
    | some v => simp [no_data v found]
  unfold Placeholder.dataValue at absent
  simp [findValue, aliasValue_eq_none no_alias, absent]

theorem findValue_eq_some {v : Json} {source : Source}
    (found : findValue aliases p data = some (v, source)) :
    (source = .alias ∨ source = .data) ∧ Data.isTruthy v = true := by
  unfold findValue at found
  split at found
  · rename_i w aliased
    simp only [Option.some.injEq, Prod.mk.injEq] at found
    obtain ⟨rfl, rfl⟩ := found
    exact ⟨.inl rfl, (Option.filter_eq_some_iff.mp aliased).2⟩
  · obtain ⟨w, kept, same⟩ := Option.map_eq_some_iff.mp found
    simp only [Prod.mk.injEq] at same
    obtain ⟨rfl, rfl⟩ := same
    exact ⟨.inr rfl, (Option.filter_eq_some_iff.mp kept).2⟩

/-! ### The replacement -/

/-- The text a placeholder's modifier chain starts from: the value found, rendered; else a
non-empty alternative; else the key. -/
def chainInput (aliases : AliasTable) (data : Json) (p : Placeholder) : String :=
  match findValue aliases p data with
  | some (v, _) => Data.render v
  | none => if p.alternative.isEmpty then p.key else p.alternative

variable {registry : Registry}

private theorem substitute_of_found {v : Json} {source : Source}
    (found : findValue aliases p data = some (v, source)) :
    (substitute registry aliases data p).source = source ∧
      (substitute registry aliases data p).replacement =
        (pipe (registry.slots p.modifiers) (Data.render v) data).text ∧
      (substitute registry aliases data p).modifierFailed =
        (pipe (registry.slots p.modifiers) (Data.render v) data).failed := by
  refine ⟨?_, ?_, ?_⟩ <;> simp [substitute, found]

private theorem substitute_of_alternative (nothing : findValue aliases p data = none)
    (alternative : p.alternative ≠ "") :
    (substitute registry aliases data p).source = .alternative ∧
      (substitute registry aliases data p).replacement =
        (pipe (registry.slots p.modifiers) p.alternative data).text ∧
      (substitute registry aliases data p).modifierFailed =
        (pipe (registry.slots p.modifiers) p.alternative data).failed := by
  refine ⟨?_, ?_, ?_⟩ <;> simp [substitute, nothing, alternative]

private theorem substitute_of_key (nothing : findValue aliases p data = none)
    (no_alternative : p.alternative = "")
    (changed : (pipe (registry.slots p.modifiers) p.key data).text ≠ p.key) :
    (substitute registry aliases data p).source = .key ∧
      (substitute registry aliases data p).replacement =
        (pipe (registry.slots p.modifiers) p.key data).text ∧
      (substitute registry aliases data p).modifierFailed =
        (pipe (registry.slots p.modifiers) p.key data).failed := by
  refine ⟨?_, ?_, ?_⟩ <;> simp [substitute, nothing, no_alternative, changed]

private theorem substitute_of_removed (nothing : findValue aliases p data = none)
    (no_alternative : p.alternative = "")
    (kept : (pipe (registry.slots p.modifiers) p.key data).text = p.key) :
    (substitute registry aliases data p).source = .removed ∧
      (substitute registry aliases data p).replacement = "" ∧
      (substitute registry aliases data p).modifierFailed =
        (pipe (registry.slots p.modifiers) p.key data).failed := by
  refine ⟨?_, ?_, ?_⟩ <;> simp [substitute, nothing, no_alternative, kept]

/-- Everything a substitution can be, by the source it reports. -/
theorem substitute_cases (registry : Registry) (aliases : AliasTable) (data : Json)
    (p : Placeholder) :
    let s := substitute registry aliases data p
    let chain := fun input => pipe (registry.slots p.modifiers) input data
    (∃ v source, findValue aliases p data = some (v, source) ∧ s.source = source ∧
      s.replacement = (chain (Data.render v)).text ∧
      s.modifierFailed = (chain (Data.render v)).failed) ∨
    (findValue aliases p data = none ∧ p.alternative ≠ "" ∧ s.source = .alternative ∧
      s.replacement = (chain p.alternative).text ∧ s.modifierFailed = (chain p.alternative).failed) ∨
    (findValue aliases p data = none ∧ p.alternative = "" ∧ (chain p.key).text ≠ p.key ∧
      s.source = .key ∧ s.replacement = (chain p.key).text ∧
      s.modifierFailed = (chain p.key).failed) ∨
    (findValue aliases p data = none ∧ p.alternative = "" ∧ (chain p.key).text = p.key ∧
      s.source = .removed ∧ s.replacement = "" ∧ s.modifierFailed = (chain p.key).failed) := by
  intro s chain
  cases found : findValue aliases p data with
  | some pair => exact .inl ⟨pair.1, pair.2, rfl, substitute_of_found found⟩
  | none =>
    by_cases alternative : p.alternative = ""
    · by_cases kept : (chain p.key).text = p.key
      · exact .inr (.inr (.inr ⟨rfl, alternative, kept,
          substitute_of_removed found alternative kept⟩))
      · exact .inr (.inr (.inl ⟨rfl, alternative, kept,
          substitute_of_key found alternative kept⟩))
    · exact .inr (.inl ⟨rfl, alternative, substitute_of_alternative found alternative⟩)

private theorem chainInput_of_found {v : Json} {source : Source}
    (found : findValue aliases p data = some (v, source)) :
    chainInput aliases data p = Data.render v := by
  simp [chainInput, found]

private theorem chainInput_of_alternative (nothing : findValue aliases p data = none)
    (alternative : p.alternative ≠ "") : chainInput aliases data p = p.alternative := by
  simp [chainInput, nothing, alternative]

/-! ### What every substitution satisfies -/

private theorem replacement_of_removed
    (removed : (substitute registry aliases data p).source = .removed) :
    (substitute registry aliases data p).replacement = "" := by
  rcases substitute_cases registry aliases data p with
    ⟨v, source, found, same, -⟩ | ⟨-, -, other, -⟩ | ⟨-, -, -, other, -⟩ | ⟨-, -, -, -, empty, -⟩
  · rw [same] at removed
    rcases (findValue_eq_some found).1 with rfl | rfl <;> cases removed
  · rw [other] at removed
    cases removed
  · rw [other] at removed
    cases removed
  · exact empty

private theorem replacement_of_key (key : (substitute registry aliases data p).source = .key) :
    (substitute registry aliases data p).modifierFailed = false ∧
      (substitute registry aliases data p).replacement ≠ p.key := by
  rcases substitute_cases registry aliases data p with
    ⟨v, source, found, same, -⟩ | ⟨-, -, other, -⟩ | ⟨-, -, changed, -, text, flag⟩ |
    ⟨-, -, -, other, -⟩
  · rw [same] at key
    rcases (findValue_eq_some found).1 with rfl | rfl <;> cases key
  · rw [other] at key
    cases key
  · refine ⟨?_, text ▸ changed⟩
    rw [flag]
    cases failed : (pipe (registry.slots p.modifiers) p.key data).failed with
    | false => rfl
    | true => exact absurd (pipe_text_of_failed failed) changed
  · rw [other] at key
    cases key

private theorem replacement_of_failed
    (failed : (substitute registry aliases data p).modifierFailed = true) :
    (substitute registry aliases data p).replacement =
      if (substitute registry aliases data p).source = .removed then ""
      else chainInput aliases data p := by
  rcases substitute_cases registry aliases data p with
    ⟨v, source, found, same, text, flag⟩ | ⟨nothing, alternative, other, text, flag⟩ |
    ⟨-, -, changed, -, -, flag⟩ | ⟨-, -, -, removed, empty, -⟩
  · rw [same, chainInput_of_found found, text, pipe_text_of_failed (flag ▸ failed)]
    rcases (findValue_eq_some found).1 with rfl | rfl <;> rfl
  · rw [other, chainInput_of_alternative nothing alternative, text,
      pipe_text_of_failed (flag ▸ failed)]
    rfl
  · exact absurd (pipe_text_of_failed (flag ▸ failed)) changed
  · rw [removed, empty]
    rfl

private theorem chainInput_ne_empty_of_value
    (valued : (substitute registry aliases data p).source = .alias ∨
      (substitute registry aliases data p).source = .data) :
    chainInput aliases data p ≠ "" := by
  rcases substitute_cases registry aliases data p with
    ⟨v, source, found, -⟩ | ⟨-, -, other, -⟩ | ⟨-, -, -, other, -⟩ | ⟨-, -, -, other, -⟩
  · rw [chainInput_of_found found]
    exact Data.render_ne_empty (findValue_eq_some found).2
  all_goals
    rw [other] at valued
    simp at valued

/-- The fallback chain of a placeholder. The alias of its key comes first: when its target finds
a present value, that value, rendered, runs through the modifier chain. Otherwise a present value
the key finds in the data does, also when an alias exists but finds nothing present. Without
either, a non-empty alternative runs through the chain; without one the key does, and the
placeholder is replaced by the chain's text when that differs from the key, and removed when it
does not. The failure flag is the chain's. So a removed placeholder leaves nothing; a replacement
by the key comes from a chain that did not fail and differs from the key; a failed chain leaves
the text it started from, or nothing when the placeholder is removed; and a value found never
starts the chain from empty text. -/
theorem substitute_follows_fallback_chain (registry : Registry) (aliases : AliasTable)
    (data : Json) (p : Placeholder) :
    let s := substitute registry aliases data p
    let chain := fun input => pipe (registry.slots p.modifiers) input data
    (∀ t v, aliases.get? p.key = some t → t.resolve data = some v → Data.isTruthy v = true →
      s.source = .alias ∧ s.replacement = (chain (Data.render v)).text ∧
        s.modifierFailed = (chain (Data.render v)).failed) ∧
    (NoAliasValue aliases p data → ∀ v, p.dataValue data = some v → Data.isTruthy v = true →
      s.source = .data ∧ s.replacement = (chain (Data.render v)).text ∧
        s.modifierFailed = (chain (Data.render v)).failed) ∧
    (NoAliasValue aliases p data → NoDataValue p data →
      (p.alternative ≠ "" → s.source = .alternative ∧
        s.replacement = (chain p.alternative).text ∧
        s.modifierFailed = (chain p.alternative).failed) ∧
      (p.alternative = "" → (chain p.key).text ≠ p.key → s.source = .key ∧
        s.replacement = (chain p.key).text ∧ s.modifierFailed = (chain p.key).failed) ∧
      (p.alternative = "" → (chain p.key).text = p.key → s.source = .removed ∧
        s.replacement = "" ∧ s.modifierFailed = (chain p.key).failed)) ∧
    (s.source = .removed → s.replacement = "") ∧
    (s.source = .key → s.modifierFailed = false ∧ s.replacement ≠ p.key) ∧
    (s.modifierFailed = true →
      s.replacement = if s.source = .removed then "" else chainInput aliases data p) ∧
    (s.source = .alias ∨ s.source = .data → chainInput aliases data p ≠ "") := by
  intro s chain
  refine ⟨fun t v target resolved present => ?_, fun no_alias v found present => ?_,
    fun no_alias no_data => ?_, replacement_of_removed, replacement_of_key, replacement_of_failed,
    chainInput_ne_empty_of_value⟩
  · exact substitute_of_found (findValue_of_alias target resolved present)
  · exact substitute_of_found (findValue_of_data no_alias found present)
  · have nothing := findValue_of_none no_alias no_data
    exact ⟨substitute_of_alternative nothing, substitute_of_key nothing,
      substitute_of_removed nothing⟩

end Stencil
