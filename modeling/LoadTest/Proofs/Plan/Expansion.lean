/-
**What the environment can do to a text.**

The places for variables of the environment are those that the marks of a text make, and what is put
into them is the value of the variable as it is. Variables are looked up one after the other, up to
the first that is not set. So the variables that are looked up are names in the text, and their
values decide neither which ones these are nor whether one of them is missing.

* `Environment.asked`: the variables that are looked up;
* `Environment.expand_of_values`, `Environment.expand_of_missing`: what a text is expanded to;
* `Environment.expand_of_asked`, `Environment.expand_unset`: it is decided by the variables that are
  looked up, each of them being needed;
* `Environment.expands_in_place`: all of this for one text.
-/

import LoadTest.Plan.Environment
import LoadTest.Proofs.Text.Decomposition
import LoadTest.Proofs.Text.Placeholder

namespace LoadTest.Environment

open Text
open Placeholder (Decomposes Part replaced)

variable {environment other : Environment} {text : String} {parts : List Part}

/-- **The variables that are looked up**: those in the text, up to the first that is not set. -/
def asked (environment : Environment) : List Part → List String
  | [] => []
  | .literal _ :: rest => environment.asked rest
  | .name name :: rest =>
    String.ofList name ::
      if (environment (String.ofList name)).isSome then environment.asked rest else []

/-- The environment without one of its variables. -/
def unset (environment : Environment) (missing : String) : Environment :=
  fun name => if name = missing then none else environment name

theorem value_of_some {name : List Char} {value : String}
    (found : environment (String.ofList name) = some value) :
    environment.value name = .ok value.toList := by
  unfold Environment.value
  rw [found]

theorem value_of_none {name : List Char} (missing : environment (String.ofList name) = none) :
    environment.value name = .error ⟨String.ofList name⟩ := by
  unfold Environment.value
  rw [missing]

/-- A variable that is looked up is named in the text. -/
theorem exists_of_mem_asked {name : String} (member : name ∈ environment.asked parts) :
    ∃ own, .name own ∈ parts ∧ String.ofList own = name := by
  induction parts with
  | nil => exact absurd member List.not_mem_nil
  | cons part rest ih =>
    cases part with
    | literal _ =>
      obtain ⟨own, inside, same⟩ := ih member
      exact ⟨own, List.mem_cons_of_mem _ inside, same⟩
    | name own =>
      rcases List.mem_cons.mp member with rfl | later
      · exact ⟨own, List.mem_cons_self, rfl⟩
      · split at later
        · obtain ⟨own, inside, same⟩ := ih later
          exact ⟨own, List.mem_cons_of_mem _ inside, same⟩
        · exact absurd later List.not_mem_nil

/-- **Which variables are looked up does not depend on their values**, only on which are set. -/
theorem asked_congr (same : ∀ name, .name name ∈ parts →
    (other (String.ofList name)).isSome = (environment (String.ofList name)).isSome) :
    other.asked parts = environment.asked parts := by
  induction parts with
  | nil => rfl
  | cons part rest ih =>
    have more := ih fun name member => same name (List.mem_cons_of_mem _ member)
    cases part with
    | literal _ => exact more
    | name own =>
      unfold asked
      rw [same own List.mem_cons_self, more]

/-! ### What a text is expanded to -/

/-- **A text whose variables are set is expanded to their values.** -/
theorem expand_of_values (value : List Char → String)
    (found : ∀ name, .name name ∈ Placeholder.split variableMarks text.toList →
      environment (String.ofList name) = some (value name)) :
    environment.expand text = .ok (String.ofList (replaced (fun name => (value name).toList)
      (Placeholder.split variableMarks text.toList))) := by
  unfold expand
  rw [Placeholder.fill_of_values _ fun name member => value_of_some (found name member)]
  rfl

/-- **The first variable that is not set makes a text fail.** -/
theorem expand_of_missing {earlier later : List Part} {name : List Char}
    (parts : Placeholder.split variableMarks text.toList = earlier ++ .name name :: later)
    (found : ∀ name, .name name ∈ earlier → environment (String.ofList name) ≠ none)
    (missing : environment (String.ofList name) = none) :
    environment.expand text = .error ⟨String.ofList name⟩ := by
  unfold expand
  rw [Placeholder.fill_of_fault parts (fun name member => ?_) (value_of_none missing)]
  · rfl
  · obtain ⟨value, isValue⟩ := Option.ne_none_iff_exists'.mp (found name member)
    exact ⟨_, value_of_some isValue⟩

/-! ### What is looked up -/

/-- Parts are filled in by the variables that are looked up. -/
theorem mapM_of_asked (same : ∀ name ∈ environment.asked parts, other name = environment name) :
    parts.mapM (Part.fill other.value) = parts.mapM (Part.fill environment.value) := by
  induction parts with
  | nil => rfl
  | cons part rest ih =>
    rw [List.mapM_cons, List.mapM_cons]
    cases part with
    | literal own =>
      rw [Part.fill_literal, Part.fill_literal, ih same]
    | name own =>
      have first := same _ List.mem_cons_self
      rw [Part.fill_name, Part.fill_name]
      cases found : environment (String.ofList own) with
      | none =>
        rw [value_of_none found, value_of_none (first.trans found)]
        rfl
      | some value =>
        have more : ∀ name ∈ environment.asked rest, other name = environment name := by
          intro name member
          refine same name (List.mem_cons_of_mem _ ?_)
          rw [found]
          exact member
        rw [value_of_some found, value_of_some (first.trans found), ih more]

/-- **The variables that are looked up decide what a text is expanded to.** -/
theorem expand_of_asked
    (same : ∀ name ∈ environment.asked (Placeholder.split variableMarks text.toList),
      other name = environment name) : other.expand text = environment.expand text := by
  unfold expand Placeholder.fill
  rw [mapM_of_asked same]

/-- Without a variable that is looked up parts cannot be filled in. -/
theorem mapM_unset {missing : String} (member : missing ∈ environment.asked parts) :
    parts.mapM (Part.fill (environment.unset missing).value) = .error ⟨missing⟩ := by
  induction parts with
  | nil => exact absurd member List.not_mem_nil
  | cons part rest ih =>
    rw [List.mapM_cons]
    cases part with
    | literal own =>
      rw [Part.fill_literal, ih member]
      rfl
    | name own =>
      rw [Part.fill_name]
      by_cases here : String.ofList own = missing
      · have unknown : environment.unset missing (String.ofList own) = none := if_pos here
        rw [value_of_none unknown, here]
        rfl
      · have later := (List.mem_cons.mp member).resolve_left (Ne.symm here)
        split at later
        · rename_i known
          obtain ⟨value, found⟩ := Option.isSome_iff_exists.mp known
          have kept : environment.unset missing (String.ofList own) = some value :=
            (if_neg here).trans found
          rw [value_of_some kept, ih later]
          rfl
        · exact absurd later List.not_mem_nil

/-- **Each variable that is looked up is needed.** -/
theorem expand_unset {missing : String}
    (member : missing ∈ environment.asked (Placeholder.split variableMarks text.toList)) :
    (environment.unset missing).expand text = .error ⟨missing⟩ := by
  unfold expand Placeholder.fill
  rw [mapM_unset member]
  rfl

/-- **The environment is put where a text names its variables, and nowhere else.** A text has one
set of places, whatever is set. It is expanded with the values as they are if all variables in it
are set, and fails with the first that is not. It is decided by the variables that are looked up,
each of which is needed; these are named in the text, and their values do not matter for which they
are. -/
theorem expands_in_place (environment : Environment) (text : String) :
    ∃ parts, Decomposes variableMarks text.toList parts ∧
      (∀ others, Decomposes variableMarks text.toList others → others = parts) ∧
      Placeholder.join variableMarks parts = text.toList ∧
      (∀ value : List Char → String,
        (∀ name, .name name ∈ parts → environment (String.ofList name) = some (value name)) →
        environment.expand text =
          .ok (String.ofList (replaced (fun name => (value name).toList) parts))) ∧
      (∀ earlier name later, parts = earlier ++ .name name :: later →
        (∀ name, .name name ∈ earlier → environment (String.ofList name) ≠ none) →
        environment (String.ofList name) = none →
        environment.expand text = .error ⟨String.ofList name⟩) ∧
      (∀ other : Environment,
        (∀ name, .name name ∈ parts →
          other (String.ofList name) = environment (String.ofList name)) →
        other.expand text = environment.expand text) ∧
      (∀ other : Environment, (∀ name ∈ environment.asked parts, other name = environment name) →
        other.expand text = environment.expand text) ∧
      (∀ missing ∈ environment.asked parts,
        (environment.unset missing).expand text = .error ⟨missing⟩) ∧
      ∀ other : Environment,
        (∀ name, .name name ∈ parts →
          (other (String.ofList name)).isSome = (environment (String.ofList name)).isSome) →
        other.asked parts = environment.asked parts := by
  have own := Placeholder.decomposes_split variableMarks text.toList
  refine ⟨_, own, fun others isOthers => isOthers.unique own, Placeholder.join_split _ _,
    fun value found => expand_of_values value found, fun earlier name later => expand_of_missing,
    fun other same => expand_of_asked fun name member => ?_, fun other => expand_of_asked,
    fun missing => expand_unset, fun other => asked_congr⟩
  obtain ⟨_, inside, rfl⟩ := exists_of_mem_asked member
  exact same _ inside

/-- A dollar sign before a variable, marks inside a name, a value that names a variable and a mark
that is left open; and the first of two variables that are not set, its blank being part of it. -/
theorem expands_in_place_marks :
    let environment : Environment := fun name =>
      if name = "A" then some "$\x7bB\x7d" else if name = "a$\x7bb" then some "ü" else none
    environment.expand "$$\x7bA\x7d-$\x7ba$\x7bb\x7d$\x7b" = .ok "$$\x7bB\x7d-ü$\x7b" ∧
      environment.expand "$\x7bA\x7d$\x7b A\x7d$\x7bB\x7d" = .error ⟨" A"⟩ := by
  intro environment
  have nested : Placeholder.split variableMarks "$$\x7bA\x7d-$\x7ba$\x7bb\x7d$\x7b".toList =
      [.literal ['$'], .name ['A'], .literal ['-'], .name ['a', '$', '\x7b', 'b'],
        .literal ['$', '\x7b']] := by
    cbv
  have blank : Placeholder.split variableMarks "$\x7bA\x7d$\x7b A\x7d$\x7bB\x7d".toList =
      [.literal [], .name ['A'], .literal []] ++ .name [' ', 'A'] ::
        [.literal [], .name ['B'], .literal []] := by
    cbv
  constructor
  · obtain ⟨parts, -, unique, -, bound, -⟩ :=
      expands_in_place environment "$$\x7bA\x7d-$\x7ba$\x7bb\x7d$\x7b"
    obtain rfl := unique _ (Placeholder.decomposes_iff.mpr nested.symm)
    refine (bound (fun name => (environment (String.ofList name)).getD "") ?_).trans ?_
    · exact Placeholder.forall_name_iff.mpr (by decide +kernel)
    · decide +kernel
  · obtain ⟨parts, -, unique, -, -, missing, -⟩ :=
      expands_in_place environment "$\x7bA\x7d$\x7b A\x7d$\x7bB\x7d"
    obtain rfl := unique _ (Placeholder.decomposes_iff.mpr blank.symm)
    exact missing _ [' ', 'A'] _ rfl (Placeholder.forall_name_iff.mpr (by decide +kernel))
      (by decide +kernel)

end LoadTest.Environment
