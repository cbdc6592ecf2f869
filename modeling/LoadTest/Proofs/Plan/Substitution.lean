/-
**What the environment can do to a request.**

The texts of a request have two kinds of places. Those for variables of the environment are replaced
when the plan is resolved, those for captured values whenever the request is made. A URL, the value
of a header and a text body may have both; in a JSON body the first kind is left as it is, so that
the name of a variable is sent where its value was meant.

* `RequestStep.Expands`: a request with the variables of the environment replaced;
* `RequestStep.expands_of_resolve`: what a request is resolved to;
* `RequestStep.forall₂_texts_iff`: whether all of its texts have been expanded;
* `RequestStep.texts_of_resolve`: which texts have been expanded, and what is sent of the others.
-/

import LoadTest.Proofs.Plan.Accepted
import LoadTest.Proofs.Script.Rendering
import LoadTest.Proofs.Script.Visit

namespace LoadTest

/-! ### Texts -/

/-- What a text is expanded to. -/
def Environment.Expands (environment : Environment) (text expanded : String) : Prop :=
  environment.expand text = .ok expanded

variable {environment : Environment}

theorem Environment.expands_of_resolve {text expanded : String}
    (resolved : environment.resolve text = .ok expanded) : environment.Expands text expanded :=
  ok_of_mapError resolved

theorem expands_of_resolveHeader {header expanded : String × String}
    (resolved : resolveHeader environment header = .ok expanded) :
    header.1 = expanded.1 ∧ environment.Expands header.2 expanded.2 := by
  obtain ⟨value, own, resolved⟩ := ok_of_bind resolved
  obtain ⟨⟨⟩, -, resolved⟩ := ok_of_bind resolved
  obtain rfl : (header.1, value) = expanded := Except.ok.inj resolved
  exact ⟨rfl, Environment.expands_of_resolve own⟩

theorem rel_of_resolveOption {text expanded : Option String}
    (resolved : resolveOption environment.resolve text = .ok expanded) :
    Option.Rel environment.Expands text expanded := by
  cases text with
  | none =>
    obtain rfl := Except.ok.inj resolved
    exact .none
  | some text =>
    obtain ⟨own, made, rfl⟩ := ok_of_map resolved
    exact .some (Environment.expands_of_resolve made)

/-- **Entries that keep their keys keep their order**, so that a table of them has just these. -/
theorem Table.toList_ofList {β γ : Type} {table : Table β} {entries : List (String × γ)}
    (same : entries.map Prod.fst = table.toList.map Prod.fst) :
    (Table.ofList entries).toList = entries := by
  have ascending : entries.Pairwise fun first second => first.1 < second.1 := by
    rw [← List.pairwise_map (f := Prod.fst) (R := (· < ·)), same, List.pairwise_map]
    exact table.ascending
  exact congrArg Table.toList (Table.ofList_toList ⟨entries, ascending⟩)

theorem forall₂_append_iff {α β : Type} {R : α → β → Prop} {front back : List α}
    {fronts backs : List β} (together : List.Forall₂ R front fronts) :
    List.Forall₂ R (front ++ back) (fronts ++ backs) ↔ List.Forall₂ R back backs := by
  induction together with
  | nil => exact Iff.rfl
  | cons first rest ih =>
    rw [List.cons_append, List.cons_append, List.forall₂_cons, ih]
    exact and_iff_right first

/-! ### Requests -/

namespace RequestStep

variable {place : ℕ} {step resolved : RequestStep}

/-- **A request with the variables of the environment replaced**: in its URL, in the values of its
headers and in its text body. All else is kept, but for small letters of the method. -/
structure Expands (environment : Environment) (step resolved : RequestStep) : Prop where
  method : resolved.method = step.method.map Char.toUpper
  url : environment.Expands step.url resolved.url
  name : resolved.name = step.name
  headers : List.Forall₂
    (fun header expanded => header.1 = expanded.1 ∧ environment.Expands header.2 expanded.2)
    step.headers.toList resolved.headers.toList
  json : resolved.json = step.json
  body : Option.Rel environment.Expands step.body resolved.body
  checks : resolved.checks = step.checks
  captures : resolved.captures = step.captures

/-- **What a request is resolved to.** -/
theorem expands_of_resolve (made : step.resolve environment place = .ok resolved) :
    Expands environment step resolved := by
  obtain ⟨-, -, -, headers, url, body, filled, isUrl, isBody, rfl⟩ := resolve_eq_ok_iff.mp made
  have each : List.Forall₂
      (fun header expanded => header.1 = expanded.1 ∧ environment.Expands header.2 expanded.2)
      step.headers.toList headers :=
    (forall₂_of_mapM filled).imp fun _ _ => expands_of_resolveHeader
  have keys : headers.map Prod.fst = step.headers.toList.map Prod.fst := by
    refine List.forall₂_eq_eq_eq ▸ List.forall₂_map_left_iff.mpr (List.forall₂_map_right_iff.mpr ?_)
    exact each.flip.imp fun _ _ together => together.1.symm
  exact {
    method := rfl
    url := Environment.expands_of_resolve isUrl
    name := rfl
    headers := by
      rw [Table.toList_ofList keys]
      exact each
    json := rfl
    body := rel_of_resolveOption isBody
    checks := rfl
    captures := rfl }

/-- **All texts of a request have been expanded if and only if there was nothing to expand in those
of its JSON body.** -/
theorem forall₂_texts_iff (expands : Expands environment step resolved) :
    List.Forall₂ environment.Expands step.texts resolved.texts ↔
      ∀ value ∈ step.json, ∀ text ∈ value.texts, environment.Expands text text := by
  have headers : List.Forall₂ environment.Expands (step.headers.toList.map Prod.snd)
      (resolved.headers.toList.map Prod.snd) := by
    rw [List.forall₂_map_left_iff, List.forall₂_map_right_iff]
    exact expands.headers.imp fun _ _ together => together.2
  have url : List.Forall₂ environment.Expands [step.url] [resolved.url] := .cons expands.url .nil
  have own := expands.body
  unfold texts ScriptStep.bodyOf
  rw [forall₂_append_iff headers, expands.json]
  cases json : step.json with
  | some value =>
    simp only [Option.mem_some_iff, forall_eq', Option.map_some, Option.some_or, Option.getD_some,
      StepBody.texts]
    rw [← List.forall₂_same]
    refine ⟨fun all => ?_, fun each => List.rel_append each url⟩
    have front := List.forall₂_take_append _ _ _ all
    rwa [List.take_left] at front
  | none =>
    refine iff_of_true (List.rel_append ?_ url) fun _ absent => absurd absent (Option.not_mem_none _)
    generalize step.body = text, resolved.body = expanded at own
    cases own with
    | none => exact .nil
    | some own => exact .cons own .nil

/-! ### What is sent -/

/-- A request and the step that it makes have the same texts. -/
theorem texts_of_ofRequest {made : ScriptStep} (same : ScriptStep.ofRequest step = .ok made) :
    made.texts = step.texts := by
  obtain ⟨checks, -, rfl⟩ := ScriptStep.ofRequest_eq_ok same
  rfl

/-- **Which texts of a request are expanded.** Those of its URL, of the values of its headers and of
a text body are; a JSON body is kept as it is. So the texts in which captured values are filled in
are all expanded exactly if those of the JSON body need not be, and what is sent of a JSON body
comes from the value in the plan file, whatever the environment holds. -/
theorem texts_of_resolve (made : step.resolve environment place = .ok resolved) :
    Expands environment step resolved ∧
    (List.Forall₂ environment.Expands step.texts resolved.texts ↔
      ∀ value ∈ step.json, ∀ text ∈ value.texts, environment.Expands text text) ∧
    ∃ script, ScriptStep.ofRequest resolved = .ok script ∧ script.texts = resolved.texts ∧
      ∀ value ∈ step.json, ∀ (known : Variables) (request : Request),
        script.prepare known = some request → ∃ filled, Json.Alike known.Renders value filled ∧
          request.body = some (Text.Utf8.encode filled.compact) := by
  have expands := expands_of_resolve made
  obtain ⟨script, isScript⟩ := exists_ofRequest (accepted_of_resolve made)
  refine ⟨expands, forall₂_texts_iff expands, script, isScript, texts_of_ofRequest isScript,
    fun value member known request ready => ?_⟩
  have body : script.body = some (.json value) := by
    obtain ⟨checks, -, rfl⟩ := ScriptStep.ofRequest_eq_ok isScript
    show ScriptStep.bodyOf resolved = some (.json value)
    rw [ScriptStep.bodyOf, expands.json, Option.mem_def.mp member]
    rfl
  obtain ⟨filled, rendered, sent⟩ := Variables.body_of_prepare body ready
  exact ⟨filled, (Variables.renderJson_eq_some_iff known value).mp rendered, sent⟩

/-- A text with a variable of the environment. -/
def tokenText : String := "$\x7bTOKEN\x7d"

/-- A login whose body names a variable of the environment. -/
def login (json : Option Json) (body : Option String) : RequestStep where
  method := "post"
  url := "/$\x7bAREA\x7d"
  name := none
  headers := .ofList [("X-Id", tokenText)]
  json
  body
  checks := []
  captures := []

/-- An environment in which two variables are set. -/
def secrets : Environment := fun name =>
  if name = "TOKEN" then some "s3cret" else if name = "AREA" then some "login" else none

theorem expand_tokenText : secrets.expand tokenText = .ok "s3cret" := by decide +kernel

/-- The request is resolved, whichever body it has. -/
theorem exists_resolve_login {json : Option Json} {body : Option String} {texts : List String}
    (known : ((login json body).resolve secrets 0).toOption.any
      (fun resolved => resolved.texts = texts) = true) :
    ∃ resolved, (login json body).resolve secrets 0 = .ok resolved ∧ resolved.texts = texts := by
  cases made : (login json body).resolve secrets 0 with
  | error fault =>
    rw [made] at known
    contradiction
  | ok resolved =>
    rw [made] at known
    exact ⟨resolved, rfl, of_decide_eq_true known⟩

/-- In a text body the variable is replaced, and in a JSON body it is sent by its name. -/
theorem texts_of_resolve_login :
    let token := Json.object [("token", .string tokenText)]
    (∃ resolved, (login none (some token.compact)).resolve secrets 0 = .ok resolved ∧
      resolved.texts = ["s3cret", "\x7b\"token\":\"s3cret\"\x7d", "/login"]) ∧
    ∃ resolved, (login (some token) none).resolve secrets 0 = .ok resolved ∧
      resolved.texts = ["s3cret", tokenText, "/login"] ∧
      ¬ List.Forall₂ secrets.Expands (login (some token) none).texts resolved.texts ∧
      ∃ script, ScriptStep.ofRequest resolved = .ok script ∧ ∀ known request,
        script.prepare known = some request →
          request.body = some (Text.Utf8.encode token.compact) := by
  intro token
  refine ⟨exists_resolve_login (by decide +kernel), ?_⟩
  obtain ⟨resolved, made, texts⟩ := @exists_resolve_login (some token) none
    ["s3cret", tokenText, "/login"] (by decide +kernel)
  obtain ⟨-, expanded, script, isScript, -, sent⟩ := texts_of_resolve made
  refine ⟨resolved, made, texts, fun all => ?_, script, isScript, fun known request ready => ?_⟩
  · have kept : secrets.expand tokenText = .ok tokenText :=
      expanded.mp all token rfl tokenText List.mem_cons_self
    rw [expand_tokenText] at kept
    exact absurd (Except.ok.inj kept) (by decide)
  · obtain ⟨filled, alike, body⟩ := sent token rfl known request ready
    have plain : known.render tokenText = some tokenText :=
      Variables.render_plain (by decide +kernel)
    have same : filled = token := by
      have own : known.renderJson token = some token :=
        (Variables.renderJson_eq_some_iff known token).mpr
          (.object (.cons (.string plain) .nil))
      have rendered := (Variables.renderJson_eq_some_iff known token).mpr alike
      exact Option.some.inj (rendered.symm.trans own)
    rw [body, same]

/-- **Not all texts of a request are expanded.** -/
theorem expands_texts_fails : ¬ ∀ (environment : Environment) (place : ℕ)
    (step resolved : RequestStep), step.resolve environment place = .ok resolved →
      List.Forall₂ environment.Expands step.texts resolved.texts := by
  intro all
  obtain ⟨resolved, made, texts⟩ := @exists_resolve_login
    (some (.object [("token", .string tokenText)])) none ["s3cret", tokenText, "/login"]
    (by decide +kernel)
  have each := all secrets 0 _ resolved made
  rw [texts] at each
  obtain ⟨-, each⟩ := List.forall₂_cons.mp each
  obtain ⟨kept, -⟩ := List.forall₂_cons.mp each
  exact absurd (Except.ok.inj (kept.symm.trans expand_tokenText)) (by decide)

end RequestStep

end LoadTest
