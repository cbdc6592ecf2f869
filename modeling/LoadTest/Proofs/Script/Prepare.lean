/-
**The variables of a step.**

A step asks for the variables that its URL, the values of its headers and its body name, a JSON body
in its texts at any depth. It can be sent exactly if all of them are known, and what names none is
sent as it stands.

* `Variables.names`, `Json.texts`, `ScriptStep.names`: the variables that something asks for;
* `Variables.render_iff`, `Variables.renderJson_iff`: when it can be filled in;
* `ScriptStep.prepare_iff`: when a step can be sent;
* `ScriptStep.prepare_eq_some`: what is sent.
-/

import LoadTest.Proofs.Text.Parts
import LoadTest.Proofs.Text.Placeholder
import LoadTest.Script.Basic

namespace LoadTest

open Text

/-! ### Texts -/

namespace Variables

variable {known : Variables} {text : String}

/-- **The variables that a text names**, without the blanks around them. -/
def names (text : String) : List String :=
  (Placeholder.names captureMarks text.toList).map fun name => String.ofList (trim name)

/-- Whether some variables are all known. -/
def Knows (known : Variables) (names : List String) : Prop :=
  ∀ name ∈ names, ∃ value, known.get? name = some value

theorem knows_append {first second : List String} :
    known.Knows (first ++ second) ↔ known.Knows first ∧ known.Knows second :=
  List.forall_mem_append

theorem find_iff {name : List Char} : (∃ value, known.find name = .ok value) ↔
    ∃ value, known.get? (String.ofList (trim name)) = some value := by
  unfold find
  cases known.get? (String.ofList (trim name)) with
  | none => exact ⟨fun ⟨_, same⟩ => by contradiction, fun ⟨_, same⟩ => by contradiction⟩
  | some value => exact ⟨fun _ => ⟨value, rfl⟩, fun _ => ⟨value.toList, rfl⟩⟩

/-- **A text can be filled in if and only if its variables are known.** -/
theorem render_iff : (∃ filled, known.render text = some filled) ↔ known.Knows (names text) := by
  have filled : (∃ filled, known.render text = some filled) ↔
      ∃ filled, Placeholder.fill captureMarks known.find text.toList = .ok filled := by
    unfold render
    cases Placeholder.fill captureMarks known.find text.toList with
    | error fault => exact ⟨fun ⟨_, same⟩ => by contradiction, fun ⟨_, same⟩ => by contradiction⟩
    | ok filled => exact ⟨fun _ => ⟨filled, rfl⟩, fun _ => ⟨String.ofList filled, rfl⟩⟩
  unfold Knows names
  rw [filled, Placeholder.fill_iff, List.forall_mem_map]
  exact forall₂_congr fun name _ => find_iff

theorem render_plain (plain : names text = []) : known.render text = some text := by
  unfold render
  rw [Placeholder.fill_plain (List.map_eq_nil_iff.mp plain)]
  exact congrArg some String.ofList_toList

end Variables

/-! ### JSON -/

mutual

/-- The texts in a value, at any depth; keys are none. -/
def Json.texts : Json → List String
  | .string text => [text]
  | .array items => Json.textsOfItems items
  | .object members => Json.textsOfMembers members
  | _ => []

/-- The texts in the items of an array. -/
def Json.textsOfItems : List Json → List String
  | [] => []
  | item :: rest => item.texts ++ Json.textsOfItems rest

/-- The texts in the members of an object. -/
def Json.textsOfMembers : List (String × Json) → List String
  | [] => []
  | (_, value) :: rest => value.texts ++ Json.textsOfMembers rest

end

namespace Variables

theorem knows_texts_append {known : Variables} {first second : List String} :
    known.Knows ((first ++ second).flatMap names) ↔
      known.Knows (first.flatMap names) ∧ known.Knows (second.flatMap names) := by
  rw [List.flatMap_append, knows_append]

theorem exists_map_iff {α β : Type} {f : α → β} {result : Option α} :
    (∃ value, result.map f = some value) ↔ ∃ value, result = some value := by
  cases result with
  | none => exact ⟨fun ⟨_, same⟩ => by contradiction, fun ⟨_, same⟩ => by contradiction⟩
  | some value => exact ⟨fun _ => ⟨value, rfl⟩, fun _ => ⟨f value, rfl⟩⟩

theorem both_eq_some_iff {α β γ : Type} {f : α → β → γ} {first : Option α} {second : Option β}
    {value : γ} : (do some (f (← first) (← second))) = some value ↔
      ∃ one other, first = some one ∧ second = some other ∧ f one other = value := by
  cases first with
  | none => exact ⟨fun same => by contradiction, fun ⟨_, _, same, _⟩ => by contradiction⟩
  | some one =>
    cases second with
    | none => exact ⟨fun same => by contradiction, fun ⟨_, _, _, same, _⟩ => by contradiction⟩
    | some other =>
      constructor
      · exact fun same => ⟨one, other, rfl, rfl, Option.some.inj same⟩
      · rintro ⟨_, _, isOne, isOther, same⟩
        obtain rfl := Option.some.inj isOne
        obtain rfl := Option.some.inj isOther
        exact congrArg some same

theorem exists_both_iff {α β γ : Type} {f : α → β → γ} {first : Option α} {second : Option β} :
    (∃ value, (do some (f (← first) (← second))) = some value) ↔
      (∃ value, first = some value) ∧ ∃ value, second = some value := by
  simp only [both_eq_some_iff]
  constructor
  · rintro ⟨_, one, other, rfl, rfl, -⟩
    exact ⟨⟨one, rfl⟩, other, rfl⟩
  · rintro ⟨⟨one, rfl⟩, other, rfl⟩
    exact ⟨_, one, other, rfl, rfl, rfl⟩

mutual

/-- **JSON can be filled in if and only if the variables of all its texts are known.** -/
theorem renderJson_iff (known : Variables) : (value : Json) →
    ((∃ filled, known.renderJson value = some filled) ↔ known.Knows (value.texts.flatMap names))
  | .string text => by
    unfold renderJson Json.texts
    rw [exists_map_iff, render_iff, List.flatMap_singleton]
  | .array items => by
    unfold renderJson Json.texts
    rw [exists_map_iff, renderItems_iff]
  | .object members => by
    unfold renderJson Json.texts
    rw [exists_map_iff, renderMembers_iff]
  | .null => ⟨fun _ _ member => absurd member List.not_mem_nil, fun _ => ⟨_, rfl⟩⟩
  | .bool _ => ⟨fun _ _ member => absurd member List.not_mem_nil, fun _ => ⟨_, rfl⟩⟩
  | .number _ => ⟨fun _ _ member => absurd member List.not_mem_nil, fun _ => ⟨_, rfl⟩⟩

theorem renderItems_iff (known : Variables) : (items : List Json) →
    ((∃ filled, known.renderItems items = some filled) ↔
      known.Knows ((Json.textsOfItems items).flatMap names))
  | [] => ⟨fun _ _ member => absurd member List.not_mem_nil, fun _ => ⟨[], rfl⟩⟩
  | item :: rest => by
    unfold renderItems Json.textsOfItems
    rw [knows_texts_append, ← renderJson_iff known item, ← renderItems_iff known rest]
    exact exists_both_iff (f := fun item rest => item :: rest)

theorem renderMembers_iff (known : Variables) : (members : List (String × Json)) →
    ((∃ filled, known.renderMembers members = some filled) ↔
      known.Knows ((Json.textsOfMembers members).flatMap names))
  | [] => ⟨fun _ _ member => absurd member List.not_mem_nil, fun _ => ⟨[], rfl⟩⟩
  | (key, value) :: rest => by
    unfold renderMembers Json.textsOfMembers
    rw [knows_texts_append, ← renderJson_iff known value, ← renderMembers_iff known rest]
    exact exists_both_iff (f := fun value rest => (key, value) :: rest)

end

end Variables

/-! ### Steps -/

/-- The texts of a body in which variables are filled in. -/
def StepBody.texts : StepBody → List String
  | .json value => value.texts
  | .text value => [value]

namespace ScriptStep

variable {step : ScriptStep} {known : Variables}

/-- The texts of a step in which variables are filled in. -/
def texts (step : ScriptStep) : List String :=
  step.headers.map Prod.snd ++ ((step.body.map StepBody.texts).getD [] ++ [step.url])

/-- **The variables that a step asks for.** -/
def names (step : ScriptStep) : List String := step.texts.flatMap Variables.names

theorem renderHeaders_iff {headers : List (String × String)} :
    (∃ filled, headers.mapM known.renderHeader = some filled) ↔
      known.Knows ((headers.map Prod.snd).flatMap Variables.names) := by
  rw [exists_mapM_some_iff]
  unfold Variables.renderHeader Variables.Knows
  constructor
  · intro all name member
    obtain ⟨text, inside, own⟩ := List.mem_flatMap.mp member
    obtain ⟨header, here, rfl⟩ := List.mem_map.mp inside
    exact Variables.render_iff.mp (Variables.exists_map_iff.mp (all header here)) name own
  · intro all header member
    refine Variables.exists_map_iff.mpr (Variables.render_iff.mpr fun name own => all name ?_)
    exact List.mem_flatMap.mpr ⟨header.2, List.mem_map_of_mem member, own⟩

theorem renderBody_iff {body : StepBody} : (∃ filled, known.renderBody body = some filled) ↔
    known.Knows (body.texts.flatMap Variables.names) := by
  cases body with
  | json value =>
    unfold Variables.renderBody StepBody.texts
    rw [Variables.exists_map_iff, Variables.renderJson_iff]
  | text value =>
    unfold Variables.renderBody StepBody.texts
    rw [Variables.exists_map_iff, Variables.render_iff, List.flatMap_singleton]

/-- The body of a step with its variables filled in. -/
def renderedBody (step : ScriptStep) (known : Variables) : Option (Option StepBody) :=
  match step.body with
  | none => some none
  | some body => (known.renderBody body).map some

theorem renderedBody_iff : (∃ filled, step.renderedBody known = some filled) ↔
    known.Knows (((step.body.map StepBody.texts).getD []).flatMap Variables.names) := by
  unfold renderedBody
  cases step.body with
  | none => exact ⟨fun _ _ member => absurd member List.not_mem_nil, fun _ => ⟨none, rfl⟩⟩
  | some body => exact Variables.exists_map_iff.trans renderBody_iff

/-- **The step that a request comes to.** -/
theorem ofRequest_eq_ok {declared : RequestStep} (made : ofRequest declared = .ok step) :
    ∃ checks, declared.checks.mapM ResponseCheck.ofSpec = .ok checks ∧
      step = ⟨declared.method.map Char.toUpper, declared.url, declared.name.getD declared.url,
        declared.headers.toList, bodyOf declared, checks, declared.captures⟩ := by
  unfold ofRequest at made
  cases method : isMethod (declared.method.map Char.toUpper) with
  | false =>
    simp only [method] at made
    contradiction
  | true =>
    simp only [method] at made
    obtain ⟨checks, areChecks, made⟩ := ok_of_bind made
    exact ⟨checks, areChecks, (Except.ok.inj made).symm⟩

theorem prepare_eq (step : ScriptStep) (known : Variables) : step.prepare known =
    (step.headers.mapM known.renderHeader).bind fun headers =>
      (step.renderedBody known).bind fun body => (known.render step.url).bind fun url =>
        some (({ Request.of step.method url with headers }.named step.name).withBody body) := by
  unfold prepare renderedBody
  cases step.body with
  | none => rfl
  | some body => rfl

/-- **What is sent of a step.** -/
theorem prepare_eq_some {request : Request} (ready : step.prepare known = some request) :
    ∃ headers body url, step.headers.mapM known.renderHeader = some headers ∧
      step.renderedBody known = some body ∧ known.render step.url = some url ∧
      request = ({ Request.of step.method url with headers }.named step.name).withBody body := by
  rw [prepare_eq] at ready
  obtain ⟨headers, areHeaders, ready⟩ := Option.bind_eq_some_iff.mp ready
  obtain ⟨body, isBody, ready⟩ := Option.bind_eq_some_iff.mp ready
  obtain ⟨url, isUrl, same⟩ := Option.bind_eq_some_iff.mp ready
  exact ⟨headers, body, url, areHeaders, isBody, isUrl, (Option.some.inj same).symm⟩

/-- **A step can be sent if and only if its variables are known.** -/
theorem prepare_iff :
    (∃ request, step.prepare known = some request) ↔ known.Knows step.names := by
  unfold names texts
  rw [Variables.knows_texts_append, Variables.knows_texts_append, List.flatMap_singleton,
    ← renderHeaders_iff, ← renderedBody_iff, ← Variables.render_iff]
  constructor
  · rintro ⟨request, ready⟩
    obtain ⟨headers, body, url, areHeaders, isBody, isUrl, -⟩ := prepare_eq_some ready
    exact ⟨⟨headers, areHeaders⟩, ⟨body, isBody⟩, url, isUrl⟩
  · rintro ⟨⟨headers, areHeaders⟩, ⟨body, isBody⟩, url, isUrl⟩
    rw [prepare_eq, areHeaders, isBody, isUrl]
    exact ⟨_, rfl⟩

end ScriptStep

end LoadTest
