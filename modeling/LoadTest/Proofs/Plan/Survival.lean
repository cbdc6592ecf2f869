/-
**Plan files survive being written and read.**

Every part of a plan file is read again from what is written of it, whatever form it was read from:
durations from numbers and texts, thresholds from texts and objects, pauses from durations and
ranges, and all other parts from objects and from arrays of their fields.

* `DurationSpec.survives`, `ThresholdSpec.survives`, `SleepSpec.survives`: what has several forms;
* `StageSpec.survives`, `CaptureSpec.survives`, `CheckSpec.survives`: what lists are made of;
* `RequestStep.survives`, `PlanFile.survives`: a request and the whole file;
* `PlanFile.parse?_json_compact`: the file that is read from a text is read again from its own text.
-/

import LoadTest.Plan.Json
import LoadTest.Proofs.Json.Records
import LoadTest.Proofs.Json.Scan

namespace LoadTest

open Json (Reader)
open Json.Reader
open Decimal

/-! ### Durations -/

namespace DurationSpec

theorem survives : Survives 0 reader json :=
  Survives.firstOf (.wrap seconds survives_float) (.wrap text survives_string)
    (.wrap seconds lasts_float) (.wrap text lasts_string) fun room written value read => by
      obtain ⟨own, -, rfl⟩ := Option.map_eq_some_iff.1 read
      rfl

theorem lasts : Lasts 0 reader json := survives.lasts

theorem again {more : ℕ} {source record : Record} {fields : List (String × Json)} {name : String}
    {value : Option DurationSpec} (again : Again more source fields record)
    (read : source.maybe name reader = some value)
    (inside : (name, .ofOption json value) ∈ fields) : record.maybe name reader = some value :=
  survives.maybe (fun _ => rfl) again read inside (Nat.zero_le _)

/-- An object is no duration. -/
theorem reader_object (room : ℕ) (members : List (List Json.Piece × Json.Written)) :
    reader room (.object members) = none := by
  unfold reader Reader.firstOf
  split <;> rfl

end DurationSpec

/-! ### Stages, checks and captures -/

theorem StageSpec.survives : Survives 1 reader json := by
  refine Restores.record ?_ (by decide)
  intro source stage read
  simp only [Option.bind_eq_bind, Option.bind_eq_some_iff] at read
  obtain ⟨duration, hasDuration, target, hasTarget, same⟩ := read
  obtain rfl := Option.some.inj same
  refine ⟨_, rfl, rfl, fun record again => ?_⟩
  simp only [Option.bind_eq_bind, Option.bind_eq_some_iff]
  exact ⟨duration, DurationSpec.survives.need again hasDuration (by simp) le_rfl,
    target, (survives_nat le_rfl).need again hasTarget (by simp) le_rfl, rfl⟩

theorem CaptureSpec.survives : Survives 1 reader json := by
  refine Restores.record ?_ (by decide)
  intro source capture read
  simp only [Option.bind_eq_bind, Option.bind_eq_some_iff] at read
  obtain ⟨var, hasVar, pointer, hasPointer, random, hasRandom, same⟩ := read
  obtain rfl := Option.some.inj same
  refine ⟨_, rfl, rfl, fun record again => ?_⟩
  simp only [Option.bind_eq_bind, Option.bind_eq_some_iff]
  exact ⟨var, survives_string.need again hasVar (by simp) le_rfl,
    pointer, survives_string.withDefault (fun _ _ => rfl) again hasPointer (by simp) le_rfl,
    random, survives_bool.withDefault (fun _ _ => rfl) again hasRandom (by simp) le_rfl, rfl⟩

/-- Statuses are whole numbers of 16 bits. -/
theorem survives_status : Survives 0 (nat 65535) .ofNat := survives_nat (by decide)

theorem CheckSpec.survives : Survives 2 reader json := by
  refine Restores.record ?_ (by decide)
  intro source check read
  simp only [Option.bind_eq_bind, Option.bind_eq_some_iff] at read
  obtain ⟨name, hasName, status, hasStatus, statusIn, hasStatusIn, bodyContains, hasBody,
    maxDuration, hasMax, same⟩ := read
  obtain rfl := Option.some.inj same
  refine ⟨_, rfl, rfl, fun record again => ?_⟩
  simp only [Option.bind_eq_bind, Option.bind_eq_some_iff]
  exact ⟨name, survives_string.need again hasName (by simp) (Nat.zero_le _),
    status, again.number hasStatus (by simp) (by decide),
    statusIn, survives_status.list.maybe list_null again hasStatusIn (by simp) (Nat.le_refl _),
    bodyContains, again.word hasBody (by simp),
    maxDuration, DurationSpec.again again hasMax (by simp), rfl⟩

/-! ### Thresholds and pauses -/

namespace ThresholdSpec

theorem survives : Survives 1 reader json := by
  refine Survives.firstOf ((Survives.wrap expression survives_string).mono (Nat.zero_le _))
    (Restores.object ?_ (by decide))
    ((Lasts.wrap expression lasts_string).mono (Nat.zero_le _)) ?_ ?_
  · intro source threshold read
    simp only [Option.bind_eq_bind, Option.bind_eq_some_iff] at read
    obtain ⟨text, hasText, abortOnFail, hasAbort, delay, hasDelay, same⟩ := read
    obtain rfl := Option.some.inj same
    refine ⟨_, rfl, rfl, fun record again => ?_⟩
    simp only [Option.bind_eq_bind, Option.bind_eq_some_iff]
    exact ⟨text, survives_string.need again hasText (by simp) le_rfl,
      abortOnFail, survives_bool.withDefault (fun _ _ => rfl) again hasAbort (by simp) le_rfl,
      delay, DurationSpec.again again hasDelay (by simp), rfl⟩
  · -- Of the details only the delay can be illegible, and it has been read.
    intro room text value _ read exact
    obtain ⟨source, rfl, own⟩ := source_of_object read
    simp only [Option.bind_eq_bind, Option.bind_eq_some_iff] at own
    obtain ⟨text, -, abortOnFail, -, delay, hasDelay, same⟩ := own
    obtain rfl := Option.some.inj same
    have legible : Legible source.room (Json.ofOption DurationSpec.json delay).written := by
      refine legible_option fun span there => ?_
      subst there
      obtain ⟨text, own⟩ := exists_of_maybe hasDelay
      exact DurationSpec.lasts _ text span (Nat.zero_le _) own
        (exact.member ("delayAbortEval", span.json) (by simp [Json.ofOption]))
    refine legible_object ?_
    simp only [List.forall_mem_cons]
    exact ⟨legible_string _ _, ⟨_, rfl⟩, legible, fun _ absent => absurd absent List.not_mem_nil⟩
  · intro room text value read
    obtain ⟨source, -, own⟩ := source_of_object read
    simp only [Option.bind_eq_bind, Option.bind_eq_some_iff] at own
    obtain ⟨text, -, abortOnFail, -, delay, -, same⟩ := own
    obtain rfl := Option.some.inj same
    rfl

end ThresholdSpec

namespace SleepSpec

theorem survives : Survives 1 reader json := by
  refine Survives.firstOf ((Survives.wrap fixed DurationSpec.survives).mono (Nat.zero_le _))
    (Restores.object ?_ (by decide))
    ((Lasts.wrap fixed DurationSpec.lasts).mono (Nat.zero_le _)) ?_ ?_
  · intro source pause read
    simp only [Option.bind_eq_bind, Option.bind_eq_some_iff] at read
    obtain ⟨least, hasLeast, most, hasMost, same⟩ := read
    obtain rfl := Option.some.inj same
    refine ⟨_, rfl, rfl, fun record again => ?_⟩
    simp only [Option.bind_eq_bind, Option.bind_eq_some_iff]
    exact ⟨least, DurationSpec.survives.need again hasLeast (by simp) le_rfl,
      most, DurationSpec.survives.need again hasMost (by simp) le_rfl, rfl⟩
  · intro room text value _ read exact
    obtain ⟨source, rfl, own⟩ := source_of_object read
    simp only [Option.bind_eq_bind, Option.bind_eq_some_iff] at own
    obtain ⟨least, hasLeast, most, hasMost, same⟩ := own
    obtain rfl := Option.some.inj same
    obtain ⟨lower, isLower⟩ := exists_of_need hasLeast
    obtain ⟨upper, isUpper⟩ := exists_of_need hasMost
    refine legible_object ?_
    simp only [List.forall_mem_cons]
    exact ⟨DurationSpec.lasts _ lower least (Nat.zero_le _) isLower
        (exact.member ("min", least.json) (by simp)),
      DurationSpec.lasts _ upper most (Nat.zero_le _) isUpper
        (exact.member ("max", most.json) (by simp)),
      fun _ absent => absurd absent List.not_mem_nil⟩
  · intro room text value read
    obtain ⟨source, -, own⟩ := source_of_object read
    simp only [Option.bind_eq_bind, Option.bind_eq_some_iff] at own
    obtain ⟨least, -, most, -, same⟩ := own
    obtain rfl := Option.some.inj same
    exact congrArg (Option.map fixed) (DurationSpec.reader_object room _)

theorem reader_null (room : ℕ) : reader room .null = none := by
  cases room <;> rfl

end SleepSpec

/-! ### Requests and the whole file -/

theorem RequestStep.survives : Survives 4 reader toJson := by
  refine Restores.record ?_ (by decide)
  intro source step read
  simp only [Option.bind_eq_bind, Option.bind_eq_some_iff] at read
  obtain ⟨method, hasMethod, url, hasUrl, name, hasName, headers, hasHeaders, body, hasBody,
    raw, hasRaw, checks, hasChecks, captures, hasCaptures, same⟩ := read
  obtain rfl := Option.some.inj same
  refine ⟨_, rfl, rfl, fun record again => ?_⟩
  have isBody : ("json", Json.ofOption id body) ∈ [("json", body.getD .null)] := by
    cases body <;> simp [Json.ofOption]
  simp only [Option.bind_eq_bind, Option.bind_eq_some_iff]
  exact ⟨method, survives_string.withDefault (fun _ _ => rfl) again hasMethod (by simp) (by decide),
    url, survives_string.need again hasUrl (by simp) (by decide),
    name, again.word hasName (by simp),
    headers, again.words hasHeaders (by simp),
    body, (survives_json.nullable present_json).withDefault (fun _ _ => rfl) again hasBody
      (by simpa using isBody) (by decide),
    raw, again.word hasRaw (by simp),
    checks, CheckSpec.survives.list.withDefault list_nil again hasChecks (by simp) (by decide),
    captures, CaptureSpec.survives.list.withDefault list_nil again hasCaptures (by simp)
      (by decide), rfl⟩

namespace PlanFile

theorem survives : Survives 6 reader json := by
  refine Restores.record ?_ (by decide)
  intro source file read
  -- The fields are taken one by one: as a whole they are too many for the simplifier.
  obtain ⟨name, hasName, read⟩ := Option.bind_eq_some_iff.1 read
  obtain ⟨stages, hasStages, read⟩ := Option.bind_eq_some_iff.1 read
  obtain ⟨startUsers, hasStart, read⟩ := Option.bind_eq_some_iff.1 read
  obtain ⟨thresholds, hasThresholds, read⟩ := Option.bind_eq_some_iff.1 read
  obtain ⟨baseUrl, hasBase, read⟩ := Option.bind_eq_some_iff.1 read
  obtain ⟨headers, hasHeaders, read⟩ := Option.bind_eq_some_iff.1 read
  obtain ⟨sleep, hasSleep, read⟩ := Option.bind_eq_some_iff.1 read
  obtain ⟨maxUsers, hasMax, read⟩ := Option.bind_eq_some_iff.1 read
  obtain ⟨tick, hasTick, read⟩ := Option.bind_eq_some_iff.1 read
  obtain ⟨gracefulStop, hasGraceful, read⟩ := Option.bind_eq_some_iff.1 read
  obtain ⟨timeout, hasTimeout, read⟩ := Option.bind_eq_some_iff.1 read
  obtain ⟨interval, hasInterval, read⟩ := Option.bind_eq_some_iff.1 read
  obtain ⟨tags, hasTags, read⟩ := Option.bind_eq_some_iff.1 read
  obtain ⟨requests, hasRequests, same⟩ := Option.bind_eq_some_iff.1 read
  obtain rfl := Option.some.inj same
  refine ⟨_, rfl, rfl, fun record again => ?_⟩
  refine Option.bind_eq_some_iff.2 ⟨_, again.word hasName (by simp), ?_⟩
  refine Option.bind_eq_some_iff.2 ⟨_, StageSpec.survives.list.withDefault list_nil again hasStages
    (by simp) (by decide), ?_⟩
  refine Option.bind_eq_some_iff.2 ⟨_, again.number hasStart (by simp) le_rfl, ?_⟩
  refine Option.bind_eq_some_iff.2 ⟨_, ThresholdSpec.survives.list.table.withDefault table_empty
    again hasThresholds (by simp) (by decide), ?_⟩
  refine Option.bind_eq_some_iff.2 ⟨_, again.word hasBase (by simp), ?_⟩
  refine Option.bind_eq_some_iff.2 ⟨_, again.words hasHeaders (by simp), ?_⟩
  refine Option.bind_eq_some_iff.2 ⟨_, SleepSpec.survives.maybe SleepSpec.reader_null again hasSleep
    (by simp) (by decide), ?_⟩
  refine Option.bind_eq_some_iff.2 ⟨_, again.number hasMax (by simp) le_rfl, ?_⟩
  refine Option.bind_eq_some_iff.2 ⟨_, DurationSpec.again again hasTick (by simp), ?_⟩
  refine Option.bind_eq_some_iff.2 ⟨_, DurationSpec.again again hasGraceful (by simp), ?_⟩
  refine Option.bind_eq_some_iff.2 ⟨_, DurationSpec.again again hasTimeout (by simp), ?_⟩
  refine Option.bind_eq_some_iff.2 ⟨_, DurationSpec.again again hasInterval (by simp), ?_⟩
  refine Option.bind_eq_some_iff.2 ⟨_, again.words hasTags (by simp), ?_⟩
  refine Option.bind_eq_some_iff.2 ⟨_, RequestStep.survives.list.withDefault list_nil again
    hasRequests (by simp) (by decide), ?_⟩
  rfl

/-- **A plan file that is read from a text is read again from its own text.** What is assumed is
that the finite floats in it, which are durations and numbers of bodies, are read from their own
texts. -/
theorem parse?_json_compact (text : String) (file : PlanFile) (read : parse? text = some file)
    (floats : ∀ x ∈ file.json.floats, x.isFinite = true →
      Json.numberOf? (Json.layout.finite x).toList = some (.float x)) :
    parse? file.json.compact = some file := by
  obtain ⟨written, -, own⟩ := Option.bind_eq_some_iff.1 read
  have again : reader Json.maxDepth file.json.written = some file :=
    survives Json.maxDepth written file (by decide) own floats
  unfold parse? Json.read?
  rw [Json.parse?_compact, Option.bind_some, again]

/-- A plan with arrays for a stage and a request, a number for a duration, both forms of a threshold
and a range for a pause is read again. -/
theorem parse?_json_compact_forms :
    let text := "\x7b\"stages\":[[1.5,3]]," ++
      "\"thresholds\":\x7b\"vus\":[\"max<9\",\x7b\"threshold\":\"p\"\x7d]\x7d," ++
      "\"sleep\":\x7b\"max\":\"2s\",\"min\":1\x7d," ++
      "\"requests\":[[\"POST\",\"/\",null,\x7b\x7d,\x7b\"a\":0.1\x7d]]\x7d"
    ∃ file, parse? text = some file ∧ file.json.floats = [1.5, 1.0, 0.1] ∧
      (∀ x ∈ file.json.floats, x.isFinite = true →
        Json.numberOf? (Json.layout.finite x).toList = some (.float x)) ∧
      parse? file.json.compact = some file := by
  intro text
  have known : (parse? text).any (fun file => file.json.floats = [1.5, 1.0, 0.1]) = true := by
    decide +kernel
  cases read : parse? text with
  | none =>
    rw [read] at known
    contradiction
  | some file =>
    rw [read] at known
    have floats : file.json.floats = [1.5, 1.0, 0.1] := of_decide_eq_true known
    have exact : ∀ x ∈ file.json.floats, x.isFinite = true →
        Json.numberOf? (Json.layout.finite x).toList = some (.float x) := by
      rw [floats]
      decide +kernel
    exact ⟨file, rfl, floats, exact, parse?_json_compact text file read exact⟩

end PlanFile

end LoadTest
