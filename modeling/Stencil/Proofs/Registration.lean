import Stencil.Proofs.Normalization
import Stencil.Engine

/-! Registering modifiers call after call keeps the built-ins first and every name in normal form.
-/

namespace Stencil

open Text

namespace Registry

/-- Whether registration takes a name: trimmed, it is not blank and holds no separator of
modifier chains. -/
def acceptsName (name : String) : Bool :=
  !(Text.trim name).isEmpty && (Text.trim name).toList.all (!isReserved ·)

/-- The registry after one registration; a refused one leaves it as it was. -/
def registerOrKeep (r : Registry) (call : String × Transform) : Registry :=
  match r.register call.1 call.2 with
  | .ok r' => r'
  | .error _ => r

/-- The registry after a sequence of registrations, each refused one leaving it as it was. -/
def registerAll (r : Registry) : List (String × Transform) → Registry
  | [] => r
  | call :: calls => (r.registerOrKeep call).registerAll calls

/-- What registration keeps of a registry: the built-ins first, then names that are not empty,
hold no separator of modifier chains and are their own normal form. -/
structure WellFormed (r : Registry) : Prop where
  builtins_first : r.names.take 3 = ["uppercase", "lowercase", "title"]
  named : ∀ n ∈ r.names, n ≠ "" ∧ (∀ x ∈ n.toList, isReserved x = false) ∧ normalizeName n = n

variable {r r' : Registry} {name : String} {f : Transform}

private theorem acceptsName_iff :
    acceptsName name = true ↔
      Text.trim name ≠ "" ∧ ∀ x ∈ (Text.trim name).toList, isReserved x = false := by
  simp [acceptsName]

/-! ### One registration -/

private theorem register_of_accepts (accepts : acceptsName name = true) :
    r.register name f = .ok ⟨r.entries ++ [⟨normalizeName name, f⟩]⟩ := by
  obtain ⟨named, plain⟩ := acceptsName_iff.mp accepts
  have absent : (Text.trim name).toList.find? isReserved = none :=
    List.find?_eq_none.mpr fun x member => by simp [plain x member]
  simp [register, String.isEmpty_iff, named, absent, normalizeName]

private theorem register_of_refuses (refuses : acceptsName name = false) :
    ∃ err, r.register name f = .error err := by
  by_cases blank : (Text.trim name).isEmpty = true
  · exact ⟨.missingName, by simp [register, blank]⟩
  · cases found : (Text.trim name).toList.find? isReserved with
    | some c => exact ⟨.reservedCharacter (Text.trim name) c, by simp [register, blank, found]⟩
    | none =>
      have plain : ∀ x ∈ (Text.trim name).toList, isReserved x = false := fun x member => by
        simpa using List.find?_eq_none.mp found x member
      have := acceptsName_iff.mpr ⟨by simpa [String.isEmpty_iff] using blank, plain⟩
      simp [this] at refuses

private theorem register_eq_error_iff :
    (∃ err, r.register name f = .error err) ↔ acceptsName name = false := by
  constructor
  · rintro ⟨err, refused⟩
    cases accepts : acceptsName name with
    | false => rfl
    | true => simp [register_of_accepts accepts] at refused
  · exact register_of_refuses

private theorem register_eq_ok_iff :
    r.register name f = .ok r' ↔
      acceptsName name = true ∧ r' = ⟨r.entries ++ [⟨normalizeName name, f⟩]⟩ := by
  cases accepts : acceptsName name with
  | true =>
    rw [register_of_accepts accepts]
    simp [eq_comm]
  | false =>
    obtain ⟨err, refused⟩ := register_of_refuses (r := r) (f := f) accepts
    simp [refused]

private theorem entries_registerOrKeep (r : Registry) (name : String) (f : Transform) :
    (r.registerOrKeep (name, f)).entries =
      if acceptsName name then r.entries ++ [⟨normalizeName name, f⟩] else r.entries := by
  cases accepts : acceptsName name with
  | true => simp [registerOrKeep, register_of_accepts accepts]
  | false =>
    obtain ⟨err, refused⟩ := register_of_refuses (r := r) (f := f) accepts
    simp [registerOrKeep, refused]

private theorem names_registerOrKeep (r : Registry) (name : String) (f : Transform) :
    (r.registerOrKeep (name, f)).names =
      if acceptsName name then r.names ++ [normalizeName name] else r.names := by
  rw [names, entries_registerOrKeep]
  split <;> simp [names]

private theorem WellFormed.registerOrKeep (wf : r.WellFormed) (call : String × Transform) :
    (r.registerOrKeep call).WellFormed := by
  obtain ⟨name, f⟩ := call
  have names := names_registerOrKeep r name f
  split at names
  · rename_i accepts
    obtain ⟨named, plain⟩ := acceptsName_iff.mp accepts
    have long : 3 ≤ r.names.length := by
      have := congrArg List.length wf.builtins_first
      simp only [List.length_take, List.length_cons, List.length_nil] at this
      omega
    constructor
    · rw [names, List.take_append_of_le_length long, wf.builtins_first]
    · rw [names]
      intro n member
      rcases List.mem_append.mp member with old | added
      · exact wf.named n old
      · rw [List.mem_singleton] at added
        subst added
        exact ⟨(normalizeName_named named plain).1, (normalizeName_named named plain).2,
          normalizeName_normalizeName name⟩
  · constructor
    · rw [names]
      exact wf.builtins_first
    · rw [names]
      exact wf.named

private theorem WellFormed.registerAll (wf : r.WellFormed) (calls : List (String × Transform)) :
    (r.registerAll calls).WellFormed := by
  induction calls generalizing r with
  | nil => exact wf
  | cons call calls ih =>
    rw [registerAll]
    exact ih (wf.registerOrKeep call)

private theorem named_of_chars {n : String} (nonempty : n.toList ≠ [])
    (plain : n.toList.all (!isReserved ·) = true) (normal : (normalizeName n).toList = n.toList) :
    n ≠ "" ∧ (∀ x ∈ n.toList, isReserved x = false) ∧ normalizeName n = n := by
  refine ⟨fun empty => nonempty (String.toList_eq_nil_iff.mpr empty), ?_,
    String.toList_injective normal⟩
  simpa using List.all_eq_true.mp plain

private theorem builtins_wellFormed : builtins.WellFormed := by
  constructor
  · rfl
  · intro n member
    simp only [names, builtins, List.map_cons, List.map_nil, List.mem_cons, List.not_mem_nil,
      or_false] at member
    rcases member with rfl | rfl | rfl <;>
      exact named_of_chars (by decide +kernel) (by decide +kernel) (by decide +kernel)

private theorem names_registerAll (r : Registry) (calls : List (String × Transform)) :
    r.names <+: (r.registerAll calls).names ∧
      ∀ call ∈ calls, acceptsName call.1 = true → normalizeName call.1 ∈ (r.registerAll calls).names := by
  induction calls generalizing r with
  | nil => simp [registerAll]
  | cons call calls ih =>
    obtain ⟨name, f⟩ := call
    obtain ⟨kept, added⟩ := ih (r.registerOrKeep (name, f))
    have step := names_registerOrKeep r name f
    have grows : r.names <+: (r.registerOrKeep (name, f)).names := by
      rw [step]
      split
      · exact List.prefix_append _ _
      · exact List.prefix_refl _
    rw [registerAll]
    refine ⟨grows.trans kept, ?_⟩
    rintro call (_ | ⟨_, later⟩) accepts
    · rw [step, if_pos accepts] at kept
      exact kept.subset (List.mem_append_right _ (List.mem_singleton.mpr rfl))
    · exact added call later accepts

/-! ### Lookups -/

private theorem lookup_eq_some_iff (q : String) (m : Modifier) :
    r.lookup q = some m ↔ ∃ i, ∃ h : i < r.entries.length, r.entries[i] = m ∧
      m.name = normalizeName q ∧ ∀ j, ∀ hj : j < i, r.entries[j].name ≠ normalizeName q := by
  simp only [lookup, List.find?_eq_some_iff_getElem, beq_iff_eq, Bool.not_eq_true',
    beq_eq_false_iff_ne, ne_eq]
  constructor
  · rintro ⟨named, i, h, at_i, earlier⟩
    exact ⟨i, h, at_i, named, fun j hj => earlier j hj⟩
  · rintro ⟨i, h, at_i, named, earlier⟩
    exact ⟨named, i, h, at_i, fun j hj => earlier j hj⟩

private theorem lookup_of_mem_names {n : String} (member : n ∈ r.names)
    (normal : normalizeName n = n) :
    ∃ m, r.lookup n = some m ∧ m.name = n := by
  obtain ⟨entry, present, rfl⟩ := List.mem_map.mp member
  cases found : r.lookup entry.name with
  | none =>
    simp only [lookup, normal, List.find?_eq_none] at found
    simp at found
    exact absurd rfl (found entry present)
  | some m =>
    have := List.find?_some found
    simp only [normal, beq_iff_eq] at this
    exact ⟨m, rfl, this⟩

private theorem lookup_normalizeName (q : String) : r.lookup (normalizeName q) = r.lookup q := by
  simp only [lookup, normalizeName_normalizeName]

/-- A registration under a name already present changes no lookup: the earlier entry answers
for that name, and no other name reaches the new one. -/
theorem lookup_register_of_mem (present : normalizeName name ∈ r.names)
    (registered : r.register name f = .ok r') : r'.lookup = r.lookup := by
  obtain ⟨-, rfl⟩ := register_eq_ok_iff.mp registered
  funext q
  simp only [lookup, List.find?_append]
  cases found : r.entries.find? (·.name == normalizeName q) with
  | some m => rfl
  | none =>
    have other : normalizeName name ≠ normalizeName q := by
      obtain ⟨entry, old, named⟩ := List.mem_map.mp present
      intro same
      have := List.find?_eq_none.mp found entry old
      simp [named, same] at this
    simpa using other

end Registry

private theorem fill_congr_lookup {registry registry' : Registry}
    (same : registry'.lookup = registry.lookup)
    (opening closing : Marker) (aliases : AliasTable) (template : String) (data : Json) :
    fill opening closing registry' aliases template data =
      fill opening closing registry aliases template data := by
  have each : substitute registry' aliases data = substitute registry aliases data := by
    funext p
    have slots : registry'.slots p.modifiers = registry.slots p.modifiers := by
      simp only [Registry.slots, congrFun same]
    unfold substitute
    rw [slots]
  simp only [fill, fillFound, each]

theorem render_registerModifier_of_mem {e e' : Engine} {name : String} {f : Transform}
    (present : normalizeName name ∈ e.registry.names) (registered : e.registerModifier name f = .ok e')
    (template : String) (data : Json) : e'.render template data = e.render template data := by
  unfold Engine.registerModifier at registered
  cases accepted : e.registry.register name f with
  | error err => simp [accepted, Except.map] at registered
  | ok registry' =>
    simp only [accepted, Except.map, Except.ok.injEq] at registered
    subst registered
    exact fill_congr_lookup (Registry.lookup_register_of_mem present accepted) _ _ _ _ _

/-- From the built-ins on, whatever names are registered: the registry stays well formed, with
the built-ins first and only non-empty names in normal form that hold no separator; each call
appends its name's normal form when the trimmed name is neither blank nor holds a separator,
and is refused, changing nothing, exactly otherwise; a lookup answers with the first entry under
the normal form of the name asked, so every stored name, and every accepted name as it was
registered, finds an entry under its normal form; and registering a name already present, a
built-in included, leaves every filled template as it was. -/
theorem registry_keeps_builtins_and_normal_names (calls : List (String × Transform)) :
    let r := Registry.builtins.registerAll calls
    r.WellFormed ∧
    (∀ name f, (r.registerOrKeep (name, f)).entries =
      if Registry.acceptsName name then r.entries ++ [⟨normalizeName name, f⟩] else r.entries) ∧
    (∀ name f, (∃ err, r.register name f = .error err) ↔ Registry.acceptsName name = false) ∧
    (∀ q m, r.lookup q = some m ↔ ∃ i, ∃ h : i < r.entries.length, r.entries[i] = m ∧
      m.name = normalizeName q ∧ ∀ j, ∀ hj : j < i, r.entries[j].name ≠ normalizeName q) ∧
    (∀ n ∈ r.names, ∃ m, r.lookup n = some m ∧ m.name = n) ∧
    (∀ call ∈ calls, Registry.acceptsName call.1 = true →
      ∃ m, r.lookup call.1 = some m ∧ m.name = normalizeName call.1) ∧
    (∀ (e e' : Engine) name f, e.registry = r → e.registerModifier name f = .ok e' →
      normalizeName name ∈ r.names →
        ∀ template data, e'.render template data = e.render template data) := by
  intro r
  have wf : r.WellFormed := Registry.builtins_wellFormed.registerAll calls
  refine ⟨wf, Registry.entries_registerOrKeep r, fun _ _ => Registry.register_eq_error_iff,
    Registry.lookup_eq_some_iff, fun n member => Registry.lookup_of_mem_names member
      (wf.named n member).2.2, ?_, ?_⟩
  · intro call member accepts
    have stored := (Registry.names_registerAll Registry.builtins calls).2 call member accepts
    rw [← Registry.lookup_normalizeName]
    exact Registry.lookup_of_mem_names stored (normalizeName_normalizeName call.1)
  · intro e e' name f same registered present template data
    rw [← same] at present
    exact render_registerModifier_of_mem present registered template data

end Stencil
