/-
**What a step makes of a response.**

A check holds if every condition that is declared does. Captures are made in their order; what the
latest that found something found is the value of the variable, and a capture that finds nothing
leaves it as it is.

* `CheckSpec.Holds`, `ResponseCheck.holds_iff`: what a check asks of a response, as it is declared;
* `ResponseCheck.outcomes`: the checks of a script are those of its requests;
* `latest`, `Variables.get?_capture`: what a variable is bound to by captures.
-/

import LoadTest.Proofs.Sequence
import LoadTest.Proofs.Table
import LoadTest.Script.Iteration

namespace LoadTest

open Text

/-! ### Checks -/

theorem Text.hasPart_iff {part text : List Char} : hasPart part text = true ↔ part <:+: text := by
  induction text with
  | nil =>
    unfold hasPart
    rw [List.isEmpty_iff, List.infix_nil]
  | cons c rest ih =>
    unfold hasPart
    rw [Bool.or_eq_true_iff, ih, List.isPrefixOf_iff_prefix, List.infix_cons_iff]

/-- **What a check asks of a response**: every condition that is declared. -/
structure CheckSpec.Holds (check : CheckSpec) (response : Response) : Prop where
  status : ∀ status, check.status = some status → response.status = status
  statusIn : ∀ set, check.statusIn = some set → response.status ∈ set
  bodyContains : ∀ part, check.bodyContains = some part →
    part.toList <:+: response.text.toList
  maxDuration : ∀ spec longest, check.maxDuration = some spec → spec.resolve = .ok longest →
    response.took ≤ longest

theorem resolveOption_some_iff {β γ : Type} {resolve : β → Except PlanFault γ} {value : Option β}
    {result : Option γ} (made : resolveOption resolve value = .ok result) (found : γ) :
    result = some found ↔ ∃ source, value = some source ∧ resolve source = .ok found := by
  cases value with
  | none =>
    obtain rfl : none = result := Except.ok.inj made
    exact ⟨fun same => by contradiction, fun ⟨_, same, _⟩ => by contradiction⟩
  | some source =>
    change (resolve source).map some = .ok result at made
    cases own : resolve source with
    | error fault =>
      rw [own] at made
      contradiction
    | ok value =>
      rw [own] at made
      obtain rfl : some value = result := Except.ok.inj made
      constructor
      · intro same
        exact ⟨source, rfl, by rw [own, Option.some.inj same]⟩
      · rintro ⟨other, same, resolved⟩
        obtain rfl := Option.some.inj same
        rw [own] at resolved
        exact congrArg some (Except.ok.inj resolved)

theorem ResponseCheck.holds_iff {declared : CheckSpec} {check : ResponseCheck}
    (made : ResponseCheck.ofSpec declared = .ok check) (response : Response) :
    check.holds response = true ↔ declared.Holds response := by
  unfold ofSpec at made
  obtain ⟨longest, resolved, made⟩ := ok_of_bind made
  obtain rfl := Except.ok.inj made
  unfold holds
  simp only [Bool.and_eq_true, Option.all_eq_true, decide_eq_true_eq, List.contains_iff_mem,
    hasPart_iff]
  have spans := resolveOption_some_iff resolved
  constructor
  · rintro ⟨⟨⟨status, statusIn⟩, bodyContains⟩, took⟩
    exact ⟨status, statusIn, bodyContains, fun spec span known found =>
      took span ((spans span).mpr ⟨spec, known, found⟩)⟩
  · intro holds
    refine ⟨⟨⟨holds.status, holds.statusIn⟩, holds.bodyContains⟩, fun span known => ?_⟩
    obtain ⟨spec, declaredSpan, found⟩ := (spans span).mp known
    exact holds.maxDuration spec span declaredSpan found

/-- The sample of a check. -/
def Sample.ofCheck (check : CheckSpec) (passed : Bool) : Sample Float :=
  (Sample.rate BuiltIn.checks passed).tag "check" check.name

theorem ResponseCheck.name_ofSpec {declared : CheckSpec} {check : ResponseCheck}
    (made : ofSpec declared = .ok check) : check.name = declared.name := by
  unfold ofSpec at made
  obtain ⟨longest, -, made⟩ := ok_of_bind made
  obtain rfl := Except.ok.inj made
  rfl

/-- The outcomes of checks are those that are declared. -/
theorem ResponseCheck.outcomes {declared : List CheckSpec} {checks : List ResponseCheck}
    (made : List.Forall₂ (fun spec check => ofSpec spec = .ok check) declared checks)
    (response : Response) :
    List.Forall₂ (fun (spec : CheckSpec) passed => passed = true ↔ spec.Holds response) declared
        (checks.map fun check => check.holds response) ∧
      (checks.map fun check =>
        (Sample.rate BuiltIn.checks (check.holds response)).tag "check" check.name) =
          List.zipWith Sample.ofCheck declared (checks.map fun check => check.holds response) := by
  induction made with
  | nil => exact ⟨.nil, rfl⟩
  | cons first rest ih =>
    refine ⟨.cons (holds_iff first response) ih.1, ?_⟩
    rw [List.map_cons, List.map_cons, List.zipWith_cons_cons, ih.2, name_ofSpec first]
    rfl

theorem metric_of_check {checks : List CheckSpec} {outcomes : List Bool} {sample : Sample Float}
    (member : sample ∈ List.zipWith Sample.ofCheck checks outcomes) :
    sample.metric = BuiltIn.checks := by
  induction checks generalizing outcomes with
  | nil => exact absurd member List.not_mem_nil
  | cons check rest ih =>
    cases outcomes with
    | nil => exact absurd member List.not_mem_nil
    | cons outcome others =>
      rcases List.mem_cons.mp member with rfl | later
      · rfl
      · exact ih later

/-! ### Captures -/

/-- **What a variable is bound to** by captures that found something or not: the latest that found
something counts. -/
def latest (attempts : List (String × Option String)) (name : String) : Option String :=
  attempts.reverse.findSome? fun attempt => if attempt.1 = name then attempt.2 else none

theorem latest_append (earlier later : List (String × Option String)) (name : String) :
    latest (earlier ++ later) name = (latest later name).or (latest earlier name) := by
  unfold latest
  rw [List.reverse_append, List.findSome?_append]

/-- The captures of a step from a response, in their order. -/
def captured (draws : Nat → Nat) (response : Response) (captures : List CaptureSpec) :
    List (String × Option String) :=
  captures.mapIdx fun place capture => (capture.var, capture.value? (draws place) response)

/-- **Captures bind what the latest of them found**, and leave what none of them found. -/
theorem Variables.get?_capture (draws : Nat → Nat) (response : Response)
    (captures : List CaptureSpec) (known : Variables) (name : String) :
    (Variables.capture draws response captures known).get? name =
      (latest (captured draws response captures) name).or (known.get? name) := by
  induction captures generalizing draws known with
  | nil => rfl
  | cons capture rest ih =>
    have split : captured draws response (capture :: rest) =
        [(capture.var, capture.value? (draws 0) response)] ++
          captured (fun place => draws (place + 1)) response rest := by
      unfold captured
      rw [List.mapIdx_cons, List.singleton_append]
    have first : latest [(capture.var, capture.value? (draws 0) response)] name =
        if capture.var = name then capture.value? (draws 0) response else none := by
      unfold latest
      rw [List.reverse_singleton, List.findSome?_singleton]
    rw [split, latest_append, first, Option.or_assoc]
    unfold Variables.capture
    cases capture.value? (draws 0) response with
    | none =>
      dsimp only
      rw [ih, ite_self, Option.none_or]
    | some value =>
      dsimp only
      rw [ih, Table.get?_insert]
      by_cases same : name = capture.var
      · rw [if_pos same, if_pos same.symm, Option.some_or]
      · rw [if_neg same, if_neg (Ne.symm same), Option.none_or]

end LoadTest
