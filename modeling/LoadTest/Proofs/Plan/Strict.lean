/-
**Members that a plan file does not know.**

A setting that is misspelt has a name that the part of the plan where it stands does not know. The
plan itself, its stages, requests, checks and captures refuse such a member wherever they stand in a
text, however deep and whether the parts around them are written as objects or as arrays. The details
of a threshold and the ends of a pause skip it: they are read as if it were not there. Tables and free
JSON take every name.

* `PlanFile.Part`, `PlanFile.Stands`: the parts of a plan and where they stand in a text;
* `PlanFile.Part.Stray`: a member that a part does not know;
* `PlanFile.Stands.reads`: every part of a text that is read is read by its own reader;
* `PlanFile.strays_refused`: where such members are refused, and what becomes of the others;
* `PlanFile.none_of_stray_fails`: a misspelt setting that nobody notices.
-/

import LoadTest.Proofs.Plan.Survival

namespace LoadTest

open Json (Piece Reader Written decodeString pieces writtenMembers)
open Json.Reader

/-! ### Records and their members -/

namespace Json.Reader

variable {β : Type} {names : List String} {unknown : Unknown} {read : Record → Option β}
  {room : ℕ} {value field : Written} {members : List (List Piece × Written)} {name : String}

/-- **A value stands for a field of a record**: as a member with the name of the field, or in an array
at the place of the field. -/
inductive HasField (names : List String) : Written → String → Written → Prop
  | member {members : List (List Piece × Written)} {key : List Piece} {name : String}
      {field : Written} (inside : (key, field) ∈ members) (spelled : decodeString key = some name)
      (known : name ∈ names) : HasField names (.object members) name field
  | place {items : List Written} {place : ℕ} {name : String} {field : Written}
      (named : names[place]? = some name) (there : items[place]? = some field) :
    HasField names (.array items) name field

/-- What was known before is known after further members. -/
theorem lookup_knownMembers {known before : List (String × Written)}
    (taken : knownMembers names unknown members before = some known)
    (found : before.lookup name = some field) : known.lookup name = some field := by
  induction members generalizing before with
  | nil =>
    obtain rfl := Option.some.inj taken
    exact found
  | cons member rest ih =>
    obtain ⟨key, value⟩ := member
    obtain ⟨own, -, taken⟩ := Option.bind_eq_some_iff.1 taken
    split at taken
    · split at taken
      · contradiction
      · rename_i fresh
        refine ih taken ?_
        have differs : name ≠ own := by
          rintro rfl
          exact fresh (by rw [found]; rfl)
        rw [Table.lookup_cons_eq, if_neg differs, found]
    · split at taken
      · contradiction
      · exact ih taken found

/-- **Every member of an object that is taken is known by its name**, or may be skipped. -/
theorem mem_knownMembers {known before : List (String × Written)}
    (taken : knownMembers names unknown members before = some known) {member : List Piece × Written}
    (inside : member ∈ members) : ∃ name, decodeString member.1 = some name ∧
      (name ∈ names → known.lookup name = some member.2) ∧
      (name ∉ names → unknown = .skipped) := by
  induction members generalizing before with
  | nil => exact absurd inside List.not_mem_nil
  | cons head rest ih =>
    obtain ⟨key, value⟩ := head
    obtain ⟨own, spelled, taken⟩ := Option.bind_eq_some_iff.1 taken
    rcases List.mem_cons.1 inside with rfl | later
    · refine ⟨own, spelled, fun isKnown => ?_, fun strange => ?_⟩
      · rw [if_pos (List.contains_iff_mem.2 isKnown)] at taken
        split at taken
        · contradiction
        · exact lookup_knownMembers taken (by rw [Table.lookup_cons_eq, if_pos rfl])
      · rw [if_neg (fun isKnown => strange (List.contains_iff_mem.1 isKnown))] at taken
        cases unknown with
        | refused => contradiction
        | skipped => rfl
    · split at taken
      · split at taken
        · contradiction
        · exact ih taken later
      · split at taken
        · contradiction
        · exact ih taken later

/-- The fields in an array are found by their names. -/
theorem lookup_zip {items : List Written} (apart : names.Nodup) {place : ℕ}
    (named : names[place]? = some name) (there : items[place]? = some field) :
    (names.zip items).lookup name = some field := by
  induction names generalizing items place with
  | nil => contradiction
  | cons first rest ih =>
    obtain ⟨absent, apart⟩ := List.nodup_cons.1 apart
    cases items with
    | nil => contradiction
    | cons item more =>
      rw [List.zip_cons_cons, Table.lookup_cons_eq]
      cases place with
      | zero =>
        obtain rfl := Option.some.inj named
        obtain rfl := Option.some.inj there
        rw [if_pos rfl]
      | succ place =>
        have differs : name ≠ first := by
          rintro rfl
          exact absent (List.mem_of_getElem? named)
        rw [if_neg differs]
        exact ih apart named there

/-- An object that is read as a record has its members under their names, and none that are refused. -/
theorem exists_source_object {result : β}
    (own : Reader.object names unknown read room (.object members) = some result) :
    ∃ source : Record, read source = some result ∧ room = source.room + 1 ∧
      ∀ member ∈ members, ∃ name, decodeString member.1 = some name ∧
        (name ∈ names → source.members.lookup name = some member.2) ∧
        (name ∉ names → unknown = .skipped) := by
  cases room with
  | zero => contradiction
  | succ less =>
    obtain ⟨known, taken, own⟩ := Option.bind_eq_some_iff.1 own
    exact ⟨⟨less, false, known⟩, own, rfl, fun member inside => mem_knownMembers taken inside⟩

theorem record_object : Reader.record names unknown read room (.object members) =
    Reader.object names unknown read room (.object members) := by
  cases room <;> rfl

/-- **A record that is read has the fields of its text under their names.** -/
theorem exists_source (apart : names.Nodup) {result : β}
    (own : Reader.record names unknown read room value = some result) :
    ∃ source : Record, read source = some result ∧ room = source.room + 1 ∧
      ∀ name field, HasField names value name field → source.members.lookup name = some field := by
  cases value with
  | object members =>
    obtain ⟨source, own, deep, found⟩ := exists_source_object (record_object.symm.trans own)
    refine ⟨source, own, deep, fun name field has => ?_⟩
    cases has with
    | member inside spelled known =>
      obtain ⟨other, same, found, -⟩ := found _ inside
      obtain rfl := Option.some.inj (spelled.symm.trans same)
      exact found known
  | array items =>
    cases room with
    | zero => contradiction
    | succ less =>
      rw [Reader.record] at own
      split at own
      · refine ⟨⟨less, true, names.zip items⟩, own, rfl, fun name field has => ?_⟩
        cases has with
        | place named there => exact lookup_zip apart named there
      · contradiction
  | null | bool | number | string => cases room <;> contradiction

/-- A record that refuses what it does not know has no member with another name. -/
theorem known_of_refused {result : β}
    (own : Reader.record names .refused read room (.object members) = some result) :
    ∀ member ∈ members, ∃ name ∈ names, decodeString member.1 = some name := by
  intro member inside
  obtain ⟨source, -, -, found⟩ := exists_source_object (record_object.symm.trans own)
  obtain ⟨name, spelled, -, strange⟩ := found member inside
  refine ⟨name, ?_, spelled⟩
  by_contra absent
  cases strange absent

/-! ### Fields that are read -/

section Fields

variable {source : Record} {reader : Reader β} {items : List Written}

/-- A field that may be absent is read where it is there. -/
theorem reads_withDefault {default result : β}
    (read : source.withDefault name reader default = some result)
    (there : source.members.lookup name = some field) : reader source.room field = some result := by
  unfold Record.withDefault at read
  rw [there] at read
  exact read

theorem reads_maybe {result : Option β} (read : source.maybe name reader = some result)
    (there : source.members.lookup name = some field) (other : field ≠ .null) :
    ∃ own, reader source.room field = some own := by
  have own := reads_withDefault read there
  rw [nullable_of_ne other] at own
  obtain ⟨value, own, -⟩ := Option.map_eq_some_iff.1 own
  exact ⟨value, own⟩

/-- The items of a list that is read are read. -/
theorem reads_item {results : List β} (read : Reader.list reader room (.array items) = some results)
    {item : Written} (inside : item ∈ items) : ∃ less own, reader less item = some own := by
  cases room with
  | zero => contradiction
  | succ less =>
    obtain ⟨own, read⟩ := exists_mapM_some_iff.1 ⟨results, read⟩ item inside
    exact ⟨less, own, read⟩

/-- The values of a table that is read are read. -/
theorem reads_entry {result : Table β} (read : Reader.table reader room (.object members) = some result)
    {key : List Piece} (inside : (key, field) ∈ members) : ∃ less own, reader less field = some own := by
  cases room with
  | zero => contradiction
  | succ less =>
    obtain ⟨entries, made, -⟩ := Option.map_eq_some_iff.1 read
    obtain ⟨entry, own⟩ := exists_mapM_some_iff.1 ⟨entries, made⟩ _ inside
    obtain ⟨name, -, own⟩ := Option.bind_eq_some_iff.1 own
    obtain ⟨value, own, -⟩ := Option.bind_eq_some_iff.1 own
    exact ⟨less, value, own⟩

end Fields

/-! ### Objects that take every name -/

theorem legible_object_iff : Legible (room + 1) (.object members) ↔
    ∀ member ∈ members, (∃ key, decodeString member.1 = some key) ∧ Legible room member.2 := by
  have made : Legible (room + 1) (.object members) ↔
      ∃ entries, membersOfWritten room members = some entries := by
    constructor
    · rintro ⟨value, whole⟩
      obtain ⟨entries, own, -⟩ := Option.map_eq_some_iff.1 whole
      exact ⟨entries, own⟩
    · rintro ⟨entries, own⟩
      exact ⟨ofMembers entries, by rw [ofWritten, own]; rfl⟩
  rw [made, membersOfWritten_eq, exists_mapM_some_iff]
  refine forall₂_congr fun member _ => ⟨?_, ?_⟩
  · rintro ⟨entry, own⟩
    obtain ⟨key, spelled, own⟩ := Option.bind_eq_some_iff.1 own
    obtain ⟨value, legible, -⟩ := Option.bind_eq_some_iff.1 own
    exact ⟨⟨key, spelled⟩, value, legible⟩
  · rintro ⟨⟨key, spelled⟩, value, legible⟩
    exact ⟨(key, value), by rw [spelled, legible]; rfl⟩

/-- **An object that takes every name**: it is read whatever its members are called, as long as each
of them is read. -/
def Open {γ : Type} (reader : Reader β) (each : Reader γ) : Prop :=
  ∀ (room : ℕ) (members : List (List Piece × Written)),
    (∃ value, reader (room + 1) (.object members) = some value) ↔
      ∀ member ∈ members, (∃ key, decodeString member.1 = some key) ∧
        ∃ value, each room member.2 = some value

theorem open_json : Open Reader.json Reader.json := fun _ _ => legible_object_iff

theorem open_table (reader : Reader β) : Open (.table reader) reader := by
  intro room members
  have made : (∃ value, Reader.table reader (room + 1) (.object members) = some value) ↔
      ∃ entries, (members.mapM fun member => do
        some (← decodeString member.1, ← reader room member.2)) = some entries := by
    constructor
    · rintro ⟨value, whole⟩
      obtain ⟨entries, own, -⟩ := Option.map_eq_some_iff.1 whole
      exact ⟨entries, own⟩
    · rintro ⟨entries, own⟩
      exact ⟨Table.ofList entries, congrArg (Option.map Table.ofList) own⟩
  rw [made, exists_mapM_some_iff]
  refine forall₂_congr fun member _ => ⟨?_, ?_⟩
  · rintro ⟨entry, own⟩
    obtain ⟨key, spelled, own⟩ := Option.bind_eq_some_iff.1 own
    obtain ⟨value, read, -⟩ := Option.bind_eq_some_iff.1 own
    exact ⟨⟨key, spelled⟩, value, read⟩
  · rintro ⟨⟨key, spelled⟩, value, read⟩
    exact ⟨(key, value), by rw [spelled, read]; rfl⟩

/-! ### Members that are skipped -/

/-- The members of an object whose names are among some. -/
def among (names : List String) (members : List (List Piece × Written)) :
    List (List Piece × Written) :=
  members.filter fun member => (decodeString member.1).any names.contains

theorem knownMembers_cons {key : List Piece} {before : List (String × Written)}
    (spelled : decodeString key = some name) :
    knownMembers names .skipped ((key, value) :: members) before =
      if name ∈ names then
        if (before.lookup name).isSome then none
        else knownMembers names .skipped members ((name, value) :: before)
      else knownMembers names .skipped members before := by
  rw [knownMembers, spelled]
  show (if names.contains name then _ else _) = _
  simp only [List.contains_iff_mem]

/-- **What may be skipped has no influence.** -/
theorem knownMembers_among {before : List (String × Written)}
    (spelled : ∀ member ∈ members, ∃ key, decodeString member.1 = some key) :
    knownMembers names .skipped (among names members) before =
      knownMembers names .skipped members before := by
  induction members generalizing before with
  | nil => rfl
  | cons member rest ih =>
    obtain ⟨key, value⟩ := member
    obtain ⟨own, same⟩ := spelled _ List.mem_cons_self
    have later : ∀ before, knownMembers names .skipped (among names rest) before =
        knownMembers names .skipped rest before :=
      fun before => ih fun other inside => spelled other (List.mem_cons_of_mem _ inside)
    have taken : among names ((key, value) :: rest) =
        if own ∈ names then (key, value) :: among names rest else among names rest := by
      unfold among
      rw [List.filter_cons, same, Option.any_some]
      simp only [List.contains_iff_mem]
    rw [taken, knownMembers_cons same]
    split
    · rename_i known
      rw [knownMembers_cons same, if_pos known, later]
    · exact later before

/-- **A shape that skips what it does not know is read as if that was not there.** -/
theorem firstOf_among {first : Reader β} (apart : ∀ room members, first room (.object members) = none)
    (legible : Legible room (.object members)) :
    firstOf [first, .object names .skipped read] room (.object (among names members)) =
      firstOf [first, .object names .skipped read] room (.object members) := by
  cases room with
  | zero =>
    obtain ⟨value, whole⟩ := legible
    contradiction
  | succ less =>
    have each := legible_object_iff.1 legible
    have fewer : Legible (less + 1) (.object (among names members)) :=
      legible_object_iff.2 fun member inside => each member (List.mem_of_mem_filter inside)
    have same : Reader.object names .skipped read (less + 1) (.object (among names members)) =
        Reader.object names .skipped read (less + 1) (.object members) := by
      rw [Reader.object, Reader.object, knownMembers_among fun member inside => (each member inside).1]
    rw [firstOf_of_legible legible, firstOf_of_legible fewer]
    simp only [List.findSome?_cons, apart, same, List.findSome?_nil]

end Json.Reader

/-! ### The parts of a plan file -/

namespace PlanFile

/-- The parts of a plan file that have fields. -/
inductive Part where
  | plan
  | stage
  | threshold
  | pause
  | step
  | check
  | capture
deriving DecidableEq

namespace Part

/-- The fields of a part in their order. -/
def fields : Part → List String
  | plan => PlanFile.fields
  | stage => ["duration", "target"]
  | threshold => ["threshold", "abortOnFail", "delayAbortEval"]
  | pause => ["min", "max"]
  | step => RequestStep.fields
  | check => ["name", "status", "statusIn", "bodyContains", "maxDuration"]
  | capture => ["var", "pointer", "random"]

/-- Whether a part refuses members that it does not know. -/
def isStrict : Part → Bool
  | threshold | pause => false
  | _ => true

/-- **A member that the part does not know.** -/
def Stray (part : Part) (members : List (List Piece × Written)) : Prop :=
  ∃ member ∈ members, ∀ name ∈ part.fields, decodeString member.1 ≠ some name

/-- A value is read as the part. -/
def Reads (part : Part) (room : ℕ) (value : Written) : Prop :=
  match part with
  | plan => ∃ file, PlanFile.reader room value = some file
  | stage => ∃ stage, StageSpec.reader room value = some stage
  | threshold => ∃ threshold, ThresholdSpec.reader room value = some threshold
  | pause => ∃ pause, SleepSpec.reader room value = some pause
  | step => ∃ step, RequestStep.reader room value = some step
  | check => ∃ check, CheckSpec.reader room value = some check
  | capture => ∃ capture, CaptureSpec.reader room value = some capture

end Part

/-- **Where the parts of a plan stand in a text**: the plan is the text itself, its stages, thresholds
and requests are in the lists under their names, and so are the checks and captures of a request. -/
inductive Stands (text : Written) : Part → Written → Prop
  | plan : Stands text .plan text
  | stage {items : List Written} {stage : Written}
      (field : HasField PlanFile.fields text "stages" (.array items)) (inside : stage ∈ items) :
    Stands text .stage stage
  | threshold {metrics : List (List Piece × Written)} {metric : List Piece} {items : List Written}
      {threshold : Written} (field : HasField PlanFile.fields text "thresholds" (.object metrics))
      (listed : (metric, .array items) ∈ metrics) (inside : threshold ∈ items) :
    Stands text .threshold threshold
  | pause {members : List (List Piece × Written)}
      (field : HasField PlanFile.fields text "sleep" (.object members)) :
    Stands text .pause (.object members)
  | step {items : List Written} {step : Written}
      (field : HasField PlanFile.fields text "requests" (.array items)) (inside : step ∈ items) :
    Stands text .step step
  | check {step check : Written} {items : List Written} (stands : Stands text .step step)
      (field : HasField RequestStep.fields step "checks" (.array items)) (inside : check ∈ items) :
    Stands text .check check
  | capture {step capture : Written} {items : List Written} (stands : Stands text .step step)
      (field : HasField RequestStep.fields step "capture" (.array items)) (inside : capture ∈ items) :
    Stands text .capture capture

/-! ### What is read of the parts -/

variable {room : ℕ} {text value : Written}

/-- What is read of the fields of a plan that have parts in them. -/
theorem exists_fields {file : PlanFile} (own : reader room text = some file) : ∃ source : Record,
    (∀ name field, HasField PlanFile.fields text name field →
      source.members.lookup name = some field) ∧
    (∃ stages, source.withDefault "stages" (.list StageSpec.reader) [] = some stages) ∧
    (∃ thresholds, source.withDefault "thresholds" (.table (.list ThresholdSpec.reader)) .empty =
      some thresholds) ∧
    (∃ pause, source.maybe "sleep" SleepSpec.reader = some pause) ∧
    ∃ requests, source.withDefault "requests" (.list RequestStep.reader) [] = some requests := by
  obtain ⟨source, read, -, found⟩ := exists_source (by decide) own
  -- The fields are taken one by one: as a whole they are too many for the simplifier.
  obtain ⟨_, _, read⟩ := Option.bind_eq_some_iff.1 read
  obtain ⟨stages, hasStages, read⟩ := Option.bind_eq_some_iff.1 read
  obtain ⟨_, _, read⟩ := Option.bind_eq_some_iff.1 read
  obtain ⟨thresholds, hasThresholds, read⟩ := Option.bind_eq_some_iff.1 read
  obtain ⟨_, _, read⟩ := Option.bind_eq_some_iff.1 read
  obtain ⟨_, _, read⟩ := Option.bind_eq_some_iff.1 read
  obtain ⟨pause, hasPause, read⟩ := Option.bind_eq_some_iff.1 read
  obtain ⟨_, _, read⟩ := Option.bind_eq_some_iff.1 read
  obtain ⟨_, _, read⟩ := Option.bind_eq_some_iff.1 read
  obtain ⟨_, _, read⟩ := Option.bind_eq_some_iff.1 read
  obtain ⟨_, _, read⟩ := Option.bind_eq_some_iff.1 read
  obtain ⟨_, _, read⟩ := Option.bind_eq_some_iff.1 read
  obtain ⟨_, _, read⟩ := Option.bind_eq_some_iff.1 read
  obtain ⟨requests, hasRequests, -⟩ := Option.bind_eq_some_iff.1 read
  exact ⟨source, found, ⟨stages, hasStages⟩, ⟨thresholds, hasThresholds⟩, ⟨pause, hasPause⟩,
    requests, hasRequests⟩

/-- What is read of the fields of a request that have parts in them. -/
theorem exists_fields_step {step : RequestStep} (own : RequestStep.reader room text = some step) :
    ∃ source : Record, (∀ name field, HasField RequestStep.fields text name field →
      source.members.lookup name = some field) ∧
    (∃ checks, source.withDefault "checks" (.list CheckSpec.reader) [] = some checks) ∧
    ∃ captures, source.withDefault "capture" (.list CaptureSpec.reader) [] = some captures := by
  obtain ⟨source, read, -, found⟩ := exists_source (by decide) own
  simp only [Option.bind_eq_bind, Option.bind_eq_some_iff] at read
  obtain ⟨_, _, _, _, _, _, _, _, _, _, _, _, checks, hasChecks, captures, hasCaptures, -⟩ := read
  exact ⟨source, found, ⟨checks, hasChecks⟩, captures, hasCaptures⟩

/-- **Every part of a text that is read is read by its own reader.** -/
theorem Stands.reads {part : Part} (stands : Stands text part value) {file : PlanFile}
    (own : reader room text = some file) : ∃ less, part.Reads less value := by
  obtain ⟨source, found, ⟨_, stages⟩, ⟨_, thresholds⟩, ⟨_, pause⟩, _, requests⟩ := exists_fields own
  induction stands with
  | plan => exact ⟨room, file, own⟩
  | stage field inside => exact reads_item (reads_withDefault stages (found _ _ field)) inside
  | threshold field listed inside =>
    obtain ⟨_, _, list⟩ := reads_entry (reads_withDefault thresholds (found _ _ field)) listed
    exact reads_item list inside
  | pause field => exact ⟨_, reads_maybe pause (found _ _ field) Written.noConfusion⟩
  | step field inside => exact reads_item (reads_withDefault requests (found _ _ field)) inside
  | check _ field inside ih =>
    obtain ⟨_, _, step⟩ := ih
    obtain ⟨_, found, ⟨_, checks⟩, -⟩ := exists_fields_step step
    exact reads_item (reads_withDefault checks (found _ _ field)) inside
  | capture _ field inside ih =>
    obtain ⟨_, _, step⟩ := ih
    obtain ⟨_, found, -, _, captures⟩ := exists_fields_step step
    exact reads_item (reads_withDefault captures (found _ _ field)) inside

/-- **A part that is read has no member that it does not know**, if it refuses them. -/
theorem Part.Reads.not_stray {part : Part} {members : List (List Piece × Written)}
    (reads : part.Reads room (.object members)) (strict : part.isStrict = true) :
    ¬ part.Stray members := by
  rintro ⟨member, inside, strange⟩
  have known : ∃ name ∈ part.fields, decodeString member.1 = some name := by
    cases part with
    | threshold | pause => contradiction
    | plan | stage | step | check | capture =>
      obtain ⟨result, own⟩ := reads
      exact known_of_refused own member inside
  obtain ⟨name, isField, spelled⟩ := known
  exact strange name isField spelled

/-- **No misspelt setting of a strict part is read, and one of another part is not noticed.** Wherever
in a text the plan, a stage, a request, a check or a capture has a member that it does not know, the
text is no plan file. The details of a threshold and the ends of a pause are read as if such members
were not there, if only they can be read at all. The names in tables and in free JSON are free. -/
theorem strays_refused {plan : String} {part : Part} {members : List (List Piece × Written)}
    (written : Written.parse? plan = some text) (stands : Stands text part (.object members))
    (stray : part.Stray members) :
    (part.isStrict = true → parse? plan = none) ∧
    (∀ room, Legible room (.object members) →
      (part = .threshold → ThresholdSpec.reader room (.object (among part.fields members)) =
        ThresholdSpec.reader room (.object members)) ∧
      (part = .pause → SleepSpec.reader room (.object (among part.fields members)) =
        SleepSpec.reader room (.object members))) ∧
    Open (.table .string) .string ∧
    Open (.table (.list ThresholdSpec.reader)) (.list ThresholdSpec.reader) ∧
    Open .json .json := by
  refine ⟨fun strict => ?_, fun room legible => ⟨?_, ?_⟩, open_table _, open_table _, open_json⟩
  · rw [Option.eq_none_iff_forall_ne_some]
    intro file own
    obtain ⟨same, whole, own⟩ := Option.bind_eq_some_iff.1 own
    obtain rfl := Option.some.inj (whole.symm.trans written)
    obtain ⟨less, reads⟩ := stands.reads own
    exact reads.not_stray strict stray
  · rintro rfl
    exact firstOf_among (fun _ _ => rfl) legible
  · rintro rfl
    refine firstOf_among (fun room members => ?_) legible
    exact congrArg (Option.map SleepSpec.fixed) (DurationSpec.reader_object room members)

/-- A request that is an array has a check with a misspelt condition. -/
theorem strays_refused_check :
    let text := "\x7b\"requests\":[[\"GET\",\"/\",null,\x7b\x7d,null,null," ++
      "[\x7b\"name\":\"ok\",\"bodyContain\":\"x\"\x7d]]]\x7d"
    let check := writtenMembers [("name", .string "ok"), ("bodyContain", .string "x")]
    let value := Written.object [(pieces "requests", .array [.array [.string (pieces "GET"),
      .string (pieces "/"), .null, .object [], .null, .null, .array [.object check]]])]
    Written.parse? text = some value ∧ Stands value .check (.object check) ∧
      Part.check.Stray check ∧ Part.check.isStrict = true ∧ parse? text = none := by
  intro text check value
  have written : Written.parse? text = some value := by
    unfold text value check
    rfl
  have stands : Stands value .check (.object check) :=
    .check (.step (.member List.mem_cons_self rfl (by decide)) List.mem_cons_self)
      (@HasField.place _ _ 6 _ _ rfl rfl) List.mem_cons_self
  have stray : Part.check.Stray check :=
    ⟨_, List.mem_cons_of_mem _ List.mem_cons_self, by decide⟩
  exact ⟨written, stands, stray, rfl, (strays_refused written stands stray).1 rfl⟩

/-- **A misspelt setting that nobody notices**: the threshold does not stop the run. -/
theorem none_of_stray_fails :
    ¬ ∀ (text : String) (value : Written) (part : Part) (members : List (List Piece × Written)),
      Written.parse? text = some value → Stands value part (.object members) →
      part.Stray members → parse? text = none := by
  intro always
  let members := writtenMembers [("threshold", .string "rate>0.9"), ("abortOnFial", .bool true)]
  have refused := always ("\x7b\"thresholds\":\x7b\"checks\":[\x7b\"threshold\":\"rate>0.9\"," ++
      "\"abortOnFial\":true\x7d]\x7d\x7d")
    (.object [(pieces "thresholds", .object [(pieces "checks", .array [.object members])])])
    .threshold members rfl
    (.threshold (.member List.mem_cons_self rfl (by decide)) List.mem_cons_self List.mem_cons_self)
    ⟨_, List.mem_cons_of_mem _ List.mem_cons_self, by decide⟩
  revert refused
  decide +kernel

end PlanFile

end LoadTest
