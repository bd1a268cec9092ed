import Stencil.Substitution

/-! The modifier chain runs the composite of its known modifiers in the error monad. -/

namespace Stencil

/-- The modifiers run one after another from `text`, each on the previous one's output, the
first error ending the run. -/
def runModifiers (modifiers : List Modifier) (text : String) (data : Json) :
    Except ModifierError String :=
  modifiers.foldlM (fun text m => m.transform text data) text

/-- What a chain run from `input` reports for the outcome of its modifiers: their output, or
its own input marked as failed. -/
def Piped.ofResult (input : String) : Except ModifierError String → Piped
  | .ok output => ⟨output, false⟩
  | .error _ => ⟨input, true⟩

@[simp] theorem runModifiers_nil (text : String) (data : Json) :
    runModifiers [] text data = .ok text := rfl

private theorem runModifiers_cons (m : Modifier) (modifiers : List Modifier) (text : String)
    (data : Json) :
    runModifiers (m :: modifiers) text data =
      (m.transform text data).bind fun next => runModifiers modifiers next data := rfl

private theorem runModifiers_append_of_ok {pre : List Modifier} {text mid : String} {data : Json}
    (ran : runModifiers pre text data = .ok mid) (post : List Modifier) :
    runModifiers (pre ++ post) text data = runModifiers post mid data := by
  simp only [runModifiers, List.foldlM_append] at ran ⊢
  rw [ran]
  rfl

private theorem runModifiers_cons_of_error {m : Modifier} {text : String} {data : Json}
    {err : ModifierError} (failed : m.transform text data = .error err) (rest : List Modifier) :
    runModifiers (m :: rest) text data = .error err := by
  rw [runModifiers_cons, failed]
  rfl

private theorem applyModifiers_eq_ofResult (data : Json) (input : String) (current : Option String)
    (slots : List ModifierSlot) :
    applyModifiers data input current slots =
      Piped.ofResult input (runModifiers (slots.filterMap (·.modifier)) (current.getD input) data) := by
  fun_induction applyModifiers data input current slots with
  | case1 current => rfl
  | case2 current slot slots unknown ih => simp only [List.filterMap_cons, unknown, ih]
  | case3 current slot slots m found next ran ih =>
    simp only [List.filterMap_cons, found, runModifiers_cons, ran, ih, Option.getD_some]
    rfl
  | case4 current slot slots m found err failed =>
    simp only [List.filterMap_cons, found, runModifiers_cons, failed]
    rfl

private theorem pipe_eq_applyModifiers (slots : List ModifierSlot) (input : String) (data : Json) :
    pipe slots input data = applyModifiers data input none slots := by
  cases slots with
  | nil => rfl
  | cons slot slots => simp [pipe]

private theorem pipe_eq_ofResult (slots : List ModifierSlot) (input : String) (data : Json) :
    pipe slots input data =
      Piped.ofResult input (runModifiers (slots.filterMap (·.modifier)) input data) := by
  rw [pipe_eq_applyModifiers, applyModifiers_eq_ofResult, Option.getD_none]

theorem pipe_text_of_failed {slots : List ModifierSlot} {input : String} {data : Json}
    (failed : (pipe slots input data).failed = true) : (pipe slots input data).text = input := by
  rw [pipe_eq_ofResult] at failed ⊢
  cases ran : runModifiers (slots.filterMap (·.modifier)) input data with
  | ok output => simp [ran, Piped.ofResult] at failed
  | error err => rfl

theorem applyModifiers_unknown (data : Json) (input : String) (pre post : List ModifierSlot)
    (name : String) :
    applyModifiers data input none (pre ++ ⟨name, none⟩ :: post) =
      applyModifiers data input none (pre ++ post) := by
  simp only [applyModifiers_eq_ofResult, List.filterMap_append, List.filterMap_cons]

private theorem applyModifiers_of_failure {data : Json} {input : String} {pre : List ModifierSlot}
    {slot : ModifierSlot} {m : Modifier} {text : String} {err : ModifierError}
    (ran : runModifiers (pre.filterMap (·.modifier)) input data = .ok text)
    (found : slot.modifier = some m) (failed : m.transform text data = .error err)
    (post : List ModifierSlot) :
    applyModifiers data input none (pre ++ slot :: post) = ⟨input, true⟩ := by
  simp only [applyModifiers_eq_ofResult, Option.getD_none, List.filterMap_append,
    List.filterMap_cons, found]
  rw [runModifiers_append_of_ok ran, runModifiers_cons_of_error failed]
  rfl

/-- The modifier chain is all or nothing: run from `input`, it gives the output of the known
modifiers composed left to right when they all succeed, and `input` itself, marked as failed,
when one of them fails, never a text some earlier modifier produced. The shortcut taken for a
placeholder without modifiers is the loop over no slots; a slot whose name finds no modifier
acts as the identity wherever it stands; and once a known modifier fails, no slot after it
changes the outcome. -/
theorem pipe_composes_known_modifiers (slots : List ModifierSlot) (input : String) (data : Json) :
    (∀ output, runModifiers (slots.filterMap (·.modifier)) input data = .ok output →
      pipe slots input data = ⟨output, false⟩) ∧
    (∀ err, runModifiers (slots.filterMap (·.modifier)) input data = .error err →
      pipe slots input data = ⟨input, true⟩) ∧
    pipe slots input data = applyModifiers data input none slots ∧
    (∀ pre post name, slots = pre ++ ⟨name, none⟩ :: post →
      pipe slots input data = applyModifiers data input none (pre ++ post)) ∧
    (∀ pre slot post m text err, slots = pre ++ slot :: post →
      runModifiers (pre.filterMap (·.modifier)) input data = .ok text →
      slot.modifier = some m → m.transform text data = .error err →
      ∀ post', pipe slots input data = applyModifiers data input none (pre ++ slot :: post') ∧
        pipe slots input data = ⟨input, true⟩) := by
  refine ⟨fun output ran => ?_, fun err failed => ?_, pipe_eq_applyModifiers slots input data,
    ?_, ?_⟩
  · rw [pipe_eq_ofResult, ran]
    rfl
  · rw [pipe_eq_ofResult, failed]
    rfl
  · rintro pre post name rfl
    rw [pipe_eq_applyModifiers, applyModifiers_unknown]
  · rintro pre slot post m text err rfl ran found failed post'
    rw [pipe_eq_applyModifiers, applyModifiers_of_failure ran found failed,
      applyModifiers_of_failure ran found failed]
    exact ⟨rfl, rfl⟩

example : pipe [⟨"uppercase", Registry.builtins.lookup "uppercase"⟩,
    ⟨"explode", some ⟨"explode", fun _ _ => .error ⟨"boom"⟩⟩⟩] "dan" Json.null = ⟨"dan", true⟩ := by
  decide +kernel

end Stencil
