/-
**What variables can do to a text and to JSON.**

A text has one set of places for variables, which its marks alone decide. Values are put into these
places as they are, and whatever they hold is not looked at again. In JSON only texts have such
places, so the value of a variable ends up inside a text: keys, items, numbers and all else stay.

* `Variables.render_of_values`, `Variables.render_eq_none_iff`: what a text is filled in to;
* `Json.Alike`: two values of the same shape whose texts go together;
* `Variables.renderJson_eq_some_iff`, `Variables.renderJson_eq_none_iff`: what JSON is filled in to;
* `Variables.fills_in_place`: texts, JSON and the body of a step.
-/

import LoadTest.Proofs.Json.Scan
import LoadTest.Proofs.Script.Prepare
import LoadTest.Proofs.Text.Decomposition

namespace LoadTest

open Text
open Placeholder (Decomposes replaced)

/-! ### Texts -/

namespace Variables

variable {known : Variables} {text : String}

/-- A text names a variable that is not known. -/
def Unbound (known : Variables) (text : String) : Prop :=
  ∃ parts name, Decomposes captureMarks text.toList parts ∧ .name name ∈ parts ∧
    known.get? (String.ofList (trim name)) = none

/-- **A text whose variables are known is filled in with their values.** -/
theorem render_of_values (value : List Char → String)
    (found : ∀ name, .name name ∈ Placeholder.split captureMarks text.toList →
      known.get? (String.ofList (trim name)) = some (value name)) :
    known.render text = some (String.ofList (replaced (fun name => (value name).toList)
      (Placeholder.split captureMarks text.toList))) := by
  have filled : Placeholder.fill captureMarks known.find text.toList = .ok (replaced _ _) :=
    Placeholder.fill_of_values (fun name => (value name).toList) fun name member => by
      unfold find
      rw [found name member]
  unfold render
  rw [filled]

/-- Some variable is not known. -/
theorem not_knows_iff {names : List String} :
    ¬ known.Knows names ↔ ∃ name ∈ names, known.get? name = none := by
  unfold Knows
  constructor
  · intro unknown
    by_contra all
    refine unknown fun name member => Option.ne_none_iff_exists'.mp fun none => ?_
    exact all ⟨name, member, none⟩
  · rintro ⟨name, member, none⟩ all
    obtain ⟨value, found⟩ := all name member
    rw [none] at found
    contradiction

theorem unbound_iff : known.Unbound text ↔ ¬ known.Knows (names text) := by
  rw [not_knows_iff]
  unfold Unbound names
  constructor
  · rintro ⟨parts, name, isParts, member, none⟩
    obtain rfl := Placeholder.decomposes_iff.mp isParts
    exact ⟨_, List.mem_map_of_mem (Placeholder.mem_names.mpr member), none⟩
  · rintro ⟨_, member, none⟩
    obtain ⟨name, inside, rfl⟩ := List.mem_map.mp member
    exact ⟨_, name, Placeholder.decomposes_split _ _, Placeholder.mem_names.mp inside, none⟩

/-- **A text cannot be filled in if and only if it names a variable that is not known.** -/
theorem render_eq_none_iff : known.render text = none ↔ known.Unbound text := by
  rw [unbound_iff, ← render_iff, ← Option.ne_none_iff_exists', not_not]

end Variables

/-! ### JSON -/

namespace Json

mutual

/-- **Two values of the same shape whose texts go together**: the same keys, items at the same
places, and anything that is neither a text nor has parts is the same. -/
inductive Alike (R : String → String → Prop) : Json → Json → Prop where
  | null : Alike R .null .null
  | bool (value : Bool) : Alike R (.bool value) (.bool value)
  | number (value : Number) : Alike R (.number value) (.number value)
  | string {text other : String} (related : R text other) : Alike R (.string text) (.string other)
  | array {items others : List Json} (each : AlikeItems R items others) :
    Alike R (.array items) (.array others)
  | object {members others : List (String × Json)} (each : AlikeMembers R members others) :
    Alike R (.object members) (.object others)

/-- As many items, each of them alike. -/
inductive AlikeItems (R : String → String → Prop) : List Json → List Json → Prop where
  | nil : AlikeItems R [] []
  | cons {item other : Json} {items others : List Json} (first : Alike R item other)
    (rest : AlikeItems R items others) : AlikeItems R (item :: items) (other :: others)

/-- Members under the same keys, each of them alike. -/
inductive AlikeMembers (R : String → String → Prop) :
    List (String × Json) → List (String × Json) → Prop where
  | nil : AlikeMembers R [] []
  | cons {key : String} {value other : Json} {members others : List (String × Json)}
    (first : Alike R value other) (rest : AlikeMembers R members others) :
    AlikeMembers R ((key, value) :: members) ((key, other) :: others)

end

end Json

namespace Variables

/-- What a text is filled in to. -/
def Renders (known : Variables) (text filled : String) : Prop := known.render text = some filled

mutual

/-- **JSON is filled in to a value of the same shape, with its texts filled in.** -/
theorem renderJson_eq_some_iff (known : Variables) : (value : Json) → {filled : Json} →
    (known.renderJson value = some filled ↔ Json.Alike known.Renders value filled)
  | .null, filled => by
    unfold renderJson
    refine ⟨fun same => Option.some.inj same ▸ .null, fun alike => ?_⟩
    cases alike
    rfl
  | .bool value, filled => by
    unfold renderJson
    refine ⟨fun same => Option.some.inj same ▸ .bool value, fun alike => ?_⟩
    cases alike
    rfl
  | .number value, filled => by
    unfold renderJson
    refine ⟨fun same => Option.some.inj same ▸ .number value, fun alike => ?_⟩
    cases alike
    rfl
  | .string text, filled => by
    unfold renderJson
    rw [Option.map_eq_some_iff]
    constructor
    · rintro ⟨own, rendered, rfl⟩
      exact .string rendered
    · intro alike
      cases alike with
      | string rendered => exact ⟨_, rendered, rfl⟩
  | .array items, filled => by
    unfold renderJson
    rw [Option.map_eq_some_iff]
    constructor
    · rintro ⟨others, rendered, rfl⟩
      exact .array ((renderItems_eq_some_iff known items).mp rendered)
    · intro alike
      cases alike with
      | array each => exact ⟨_, (renderItems_eq_some_iff known items).mpr each, rfl⟩
  | .object members, filled => by
    unfold renderJson
    rw [Option.map_eq_some_iff]
    constructor
    · rintro ⟨others, rendered, rfl⟩
      exact .object ((renderMembers_eq_some_iff known members).mp rendered)
    · intro alike
      cases alike with
      | object each => exact ⟨_, (renderMembers_eq_some_iff known members).mpr each, rfl⟩

theorem renderItems_eq_some_iff (known : Variables) : (items : List Json) →
    {filled : List Json} →
    (known.renderItems items = some filled ↔ Json.AlikeItems known.Renders items filled)
  | [], filled => by
    unfold renderItems
    refine ⟨fun same => Option.some.inj same ▸ .nil, fun alike => ?_⟩
    cases alike
    rfl
  | item :: rest, filled => by
    unfold renderItems
    rw [both_eq_some_iff]
    constructor
    · rintro ⟨other, others, first, more, rfl⟩
      exact .cons ((renderJson_eq_some_iff known item).mp first)
        ((renderItems_eq_some_iff known rest).mp more)
    · intro alike
      cases alike with
      | cons first more =>
        exact ⟨_, _, (renderJson_eq_some_iff known item).mpr first,
          (renderItems_eq_some_iff known rest).mpr more, rfl⟩

theorem renderMembers_eq_some_iff (known : Variables) : (members : List (String × Json)) →
    {filled : List (String × Json)} →
    (known.renderMembers members = some filled ↔ Json.AlikeMembers known.Renders members filled)
  | [], filled => by
    unfold renderMembers
    refine ⟨fun same => Option.some.inj same ▸ .nil, fun alike => ?_⟩
    cases alike
    rfl
  | (key, value) :: rest, filled => by
    unfold renderMembers
    rw [both_eq_some_iff]
    constructor
    · rintro ⟨other, others, first, more, rfl⟩
      exact .cons ((renderJson_eq_some_iff known value).mp first)
        ((renderMembers_eq_some_iff known rest).mp more)
    · intro alike
      cases alike with
      | cons first more =>
        exact ⟨_, _, (renderJson_eq_some_iff known value).mpr first,
          (renderMembers_eq_some_iff known rest).mpr more, rfl⟩

end

theorem knows_flatMap {known : Variables} {texts : List String} :
    known.Knows (texts.flatMap names) ↔ ∀ text ∈ texts, known.Knows (names text) := by
  unfold Knows
  exact List.forall_mem_flatMap

/-- **JSON cannot be filled in if and only if one of its texts names a variable that is not
known.** -/
theorem renderJson_eq_none_iff {known : Variables} {value : Json} :
    known.renderJson value = none ↔ ∃ text ∈ value.texts, known.Unbound text := by
  rw [← not_iff_not, ← ne_eq, Option.ne_none_iff_exists', renderJson_iff, knows_flatMap]
  constructor
  · rintro all ⟨text, member, unbound⟩
    exact unbound_iff.mp unbound (all text member)
  · intro none text member
    by_contra unknown
    exact none ⟨text, member, unbound_iff.mpr unknown⟩

/-! ### Bodies -/

/-- The JSON body of a step is sent as the text of the value that it is filled in to. -/
theorem body_of_prepare {known : Variables} {step : ScriptStep} {value : Json} {request : Request}
    (asked : step.body = some (.json value)) (ready : step.prepare known = some request) :
    ∃ filled, known.renderJson value = some filled ∧
      request.body = some (Utf8.encode filled.compact) := by
  obtain ⟨headers, body, url, -, isBody, -, rfl⟩ := ScriptStep.prepare_eq_some ready
  unfold ScriptStep.renderedBody at isBody
  rw [asked] at isBody
  obtain ⟨own, rendered, rfl⟩ := Option.map_eq_some_iff.mp isBody
  obtain ⟨filled, isFilled, rfl⟩ := Option.map_eq_some_iff.mp rendered
  exact ⟨filled, isFilled, rfl⟩

/-- **Variables are filled in where a text names them, and nowhere else.** A text has one set of
places, whatever is known; it is filled in with the values as they are if all names in it are known,
and not at all otherwise. JSON fails exactly if one of its texts does, and else keeps its shape, its
texts being filled in one by one; and the text that is sent as a JSON body is read as that value. -/
theorem fills_in_place (known : Variables) :
    (∀ text : String, ∃ parts, Decomposes captureMarks text.toList parts ∧
      (∀ others, Decomposes captureMarks text.toList others → others = parts) ∧
      Placeholder.join captureMarks parts = text.toList ∧
      (∀ value : List Char → String,
        (∀ name, .name name ∈ parts →
          known.get? (String.ofList (trim name)) = some (value name)) →
        known.render text =
          some (String.ofList (replaced (fun name => (value name).toList) parts))) ∧
      ∀ name, .name name ∈ parts → known.get? (String.ofList (trim name)) = none →
        known.render text = none) ∧
    (∀ value : Json,
      (known.renderJson value = none ↔ ∃ text ∈ value.texts, known.Unbound text) ∧
      ∀ filled, known.renderJson value = some filled ↔ Json.Alike known.Renders value filled) ∧
    ∀ (step : ScriptStep) (value : Json) (request : Request), step.body = some (.json value) →
      step.prepare known = some request → ∃ filled, Json.Alike known.Renders value filled ∧
        request.body = some (Utf8.encode filled.compact) ∧
        Json.Written.parse? filled.compact = some filled.written := by
  refine ⟨fun text => ?_, fun value => ?_, fun step value request asked ready => ?_⟩
  · have own := Placeholder.decomposes_split captureMarks text.toList
    refine ⟨_, own, fun others isOthers => isOthers.unique own, Placeholder.join_split _ _,
      fun value found => render_of_values value found, fun name member unknown => ?_⟩
    exact render_eq_none_iff.mpr ⟨_, name, own, member, unknown⟩
  · exact ⟨renderJson_eq_none_iff, fun filled => renderJson_eq_some_iff known value⟩
  · obtain ⟨filled, rendered, body⟩ := body_of_prepare asked ready
    exact ⟨filled, (renderJson_eq_some_iff known value).mp rendered, body,
      Json.parse?_compact filled⟩

/-- A value that holds a placeholder, next to marks that are left over; a value that would end its
text and begin another member; and a name that is not known. -/
theorem fills_in_place_marks :
    let known : Variables := .ofList [("a", "\x7b\x7bb\x7d\x7d"), ("b", "x\",\"c\":\"")]
    known.render "l\x7b\x7b a \x7d\x7d\x7d\x7b\x7bb\x7d\x7d\x7b\x7bc" =
        some "l\x7b\x7bb\x7d\x7d\x7dx\",\"c\":\"\x7b\x7bc" ∧
      known.renderJson (.object
        [("\x7b\x7ba\x7d\x7d", .array [.null, .string "\x7b\x7bb\x7d\x7d"])]) =
        some (.object [("\x7b\x7ba\x7d\x7d", .array [.null, .string "x\",\"c\":\""])]) ∧
      known.renderJson (.array [.null, .string "\x7b\x7b\x7ba\x7d\x7d"]) = none := by
  intro known
  obtain ⟨texts, values, -⟩ := fills_in_place known
  have nested : Placeholder.split captureMarks
      "l\x7b\x7b a \x7d\x7d\x7d\x7b\x7bb\x7d\x7d\x7b\x7bc".toList =
        [.literal ['l'], .name [' ', 'a', ' '], .literal ['\x7d'], .name ['b'],
          .literal ['\x7b', '\x7b', 'c']] := by
    cbv
  have whole : Placeholder.split captureMarks "\x7b\x7bb\x7d\x7d".toList =
      [.literal [], .name ['b'], .literal []] := by
    cbv
  have stray : Placeholder.split captureMarks "\x7b\x7b\x7ba\x7d\x7d".toList =
      [.literal [], .name ['\x7b', 'a'], .literal []] := by
    cbv
  refine ⟨?_, ?_, ?_⟩
  · obtain ⟨parts, -, unique, -, bound, -⟩ :=
      texts "l\x7b\x7b a \x7d\x7d\x7d\x7b\x7bb\x7d\x7d\x7b\x7bc"
    obtain rfl := unique _ (Placeholder.decomposes_iff.mpr nested.symm)
    refine (bound (fun name => (known.get? (String.ofList (trim name))).getD "") ?_).trans ?_
    · exact Placeholder.forall_name_iff.mpr (by decide +kernel)
    · decide +kernel
  · have rendered : known.Renders "\x7b\x7bb\x7d\x7d" "x\",\"c\":\"" := by
      obtain ⟨parts, -, unique, -, bound, -⟩ := texts "\x7b\x7bb\x7d\x7d"
      obtain rfl := unique _ (Placeholder.decomposes_iff.mpr whole.symm)
      refine (bound (fun _ => "x\",\"c\":\"") ?_).trans (by decide +kernel)
      exact Placeholder.forall_name_iff.mpr (by decide +kernel)
    refine ((values _).2 _).mpr (.object (.cons (.array ?_) .nil))
    exact .cons .null (.cons (.string rendered) .nil)
  · refine (values _).1.mpr ⟨"\x7b\x7b\x7ba\x7d\x7d", List.mem_singleton.mpr rfl, _, ['\x7b', 'a'],
      Placeholder.decomposes_iff.mpr stray.symm, ?_, ?_⟩
    · exact List.mem_cons_of_mem _ List.mem_cons_self
    · decide +kernel

end Variables

end LoadTest
