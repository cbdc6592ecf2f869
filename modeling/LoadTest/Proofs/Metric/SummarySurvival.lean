/-
**Which summaries are read again.**

A summary is written without the statistics that its metric does not have, and without the counts of
a rate that are zero. A reader takes a missing statistic for one that the metric does not have, but
it needs both counts. So exactly the summaries of rates that held at least once and did not hold at
least once are read again; no summary of a counter or a trend is.

* `Json.present`: the members of an object that are there;
* `MetricSummary.slots`: the members of a summary, with those that are left out;
* `MetricSummary.OmitsCount`: a count of the summary is left out;
* `MetricSummary.reader_of_omitted`: such a summary is not read;
* `MetricSummary.reader_written`: every other one is read as itself;
* `MetricSummary.table_written`: which tables of summaries are read.
-/

import LoadTest.Metric.Summary
import LoadTest.Proofs.Json.Records
import LoadTest.Proofs.Json.Scan

namespace LoadTest

open Json (Reader)
open Json.Reader
open Decimal

/-! ### Members that may be left out -/

namespace Json

/-- The members that are there. -/
def present (slots : List (String × Option Json)) : List (String × Json) :=
  slots.filterMap fun slot => slot.2.map fun value => (slot.1, value)

theorem mem_present {slots : List (String × Option Json)} {name : String} {value : Json}
    (inside : (name, some value) ∈ slots) : (name, value) ∈ present slots :=
  List.mem_filterMap.2 ⟨_, inside, rfl⟩

theorem keys_present_sublist (slots : List (String × Option Json)) :
    ((present slots).map Prod.fst).Sublist (slots.map Prod.fst) := by
  induction slots with
  | nil => exact .slnil
  | cons slot rest ih =>
    obtain ⟨name, value⟩ := slot
    cases value with
    | none => exact ih.cons name
    | some value => exact ih.cons_cons name

/-- Under each name there is what its slot holds. -/
theorem lookup_present {slots : List (String × Option Json)}
    (apart : (slots.map Prod.fst).Nodup) (name : String) :
    (present slots).lookup name = (slots.lookup name).join := by
  induction slots with
  | nil => rfl
  | cons slot rest ih =>
    obtain ⟨key, value⟩ := slot
    obtain ⟨absent, later⟩ := List.nodup_cons.1 apart
    rw [Table.lookup_cons_eq]
    by_cases same : name = key
    · subst same
      rw [if_pos rfl]
      cases value with
      | none => exact Table.lookup_eq_none fun inside =>
          absent ((keys_present_sublist rest).subset inside)
      | some value => exact (Table.lookup_cons_eq ..).trans (if_pos rfl)
    · rw [if_neg same]
      cases value with
      | none => exact ih later
      | some value => exact (Table.lookup_cons_eq ..).trans ((if_neg same).trans (ih later))

end Json

/-! ### Fields -/

namespace Json.Reader

variable {record : Record} {name : String}

/-- A finite float is read from its own text. -/
theorem float_written {x : Float} (finite : x.isFinite = true) (exact : IsExact x) (room : ℕ) :
    float room (Json.ofFloat x).written = some x := by
  have kept : (Number.float x).Kept := finite
  obtain ⟨text, shape, back⟩ := exists_text kept fun y same => by
    cases same
    exact exact
  show float room (Number.float x).written = some x
  rw [shape, float, back]
  rfl

theorem need_float {x : Float}
    (here : record.members.lookup name = some (Json.ofFloat x).written)
    (finite : x.isFinite = true) (exact : IsExact x) : record.need name float = some x := by
  rw [Record.need, here]
  exact float_written finite exact _

/-- **A statistic that is left out is read as none.** -/
theorem maybeNamed_float {value : Option Float} (named : record.positional = false)
    (here : record.members.lookup name = (value.map Json.ofFloat).map written)
    (exact : ∀ x ∈ value, x.isFinite = true ∧ IsExact x) :
    record.maybeNamed name float = some value := by
  rw [Record.maybeNamed, named, if_neg Bool.false_ne_true, Record.maybe, Record.withDefault, here]
  cases value with
  | none => rfl
  | some x =>
    obtain ⟨finite, own⟩ := exact x rfl
    have back := float_written finite own record.room
    have other : (Json.ofFloat x).written ≠ .null := by
      intro null
      rw [null] at back
      contradiction
    exact (nullable_of_ne other _).trans (congrArg (Option.map some) back)

/-- **A count that is left out is missing.** -/
theorem need_count {count : ℕ}
    (here : record.members.lookup name =
      (if count = 0 then none else some (Json.ofNat count)).map written)
    (fits : count ≤ maxWord) :
    record.need name (nat maxWord) = if count = 0 then none else some count := by
  rw [Record.need, here]
  by_cases zero : count = 0
  · rw [if_pos zero, if_pos zero]
    rfl
  · rw [if_neg zero, if_neg zero]
    show nat maxWord record.room (.number (Nat.toDigits 10 count)) = some count
    rw [nat, numberOf?_natural fits]
    exact if_pos fits

theorem need_of_missing {β : Type} {reader : Reader β} (here : record.members.lookup name = none) :
    record.need name reader = none := by
  rw [Record.need, here]
  rfl

end Json.Reader

theorem MetricKind.reader_name (kind : MetricKind) (room : ℕ) :
    MetricKind.reader room (Json.string kind.name).written = some kind := by
  have known : (([counter, rate, trend].map fun kind => (kind.name, kind)).lookup kind.name) =
      some kind := by
    cases kind <;> decide
  show (Json.decodeString (Json.pieces kind.name)).bind _ = _
  rw [Json.decodeString_pieces, Option.bind_some, known]

/-! ### Summaries -/

namespace MetricSummary

/-- A count as it is written. -/
def slotOf (count : ℕ) : Option Json := if count = 0 then none else some (.ofNat count)

/-- **The members of a summary**, with those that are left out. -/
def slots (summary : MetricSummary) : List (String × Option Json) :=
  [("type", some (.string summary.kind.name)), ("count", some (.ofFloat summary.count)),
    ("sum", some (.ofFloat summary.sum))] ++
  summary.optional.map (fun (name, value) => (name, value.map .ofFloat)) ++
  [("trues", slotOf summary.trues), ("falses", slotOf summary.falses)]

theorem json_eq (summary : MetricSummary) :
    summary.json = .object (Json.present summary.slots) := by
  have statistics : Json.present (summary.optional.map fun field =>
      (field.1, field.2.map Json.ofFloat)) = summary.optional.filterMap fun field =>
        field.2.map fun x => (field.1, Json.ofFloat x) := by
    rw [Json.present, List.filterMap_map]
    exact List.filterMap_congr fun field _ => Option.map_map ..
  have counts : Json.present [("trues", slotOf summary.trues), ("falses", slotOf summary.falses)] =
      [("trues", summary.trues), ("falses", summary.falses)].filterMap fun field =>
        if field.2 = 0 then none else some (field.1, Json.ofNat field.2) := by
    refine (List.filterMap_map (l := [("trues", summary.trues), ("falses", summary.falses)])
      (f := fun field => (field.1, slotOf field.2))).trans
        (List.filterMap_congr fun field _ => ?_)
    exact apply_ite (Option.map fun value => (field.1, value)) _ _ _
  rw [slots, Json.present, List.filterMap_append, List.filterMap_append]
  exact congrArg Json.object (congrArg₂ _ (congrArg₂ _ rfl statistics.symm) counts.symm)

theorem keys_slots (summary : MetricSummary) : summary.slots.map Prod.fst = fields := rfl

variable {summary : MetricSummary}

theorem nodup_slots (summary : MetricSummary) : (summary.slots.map Prod.fst).Nodup := by
  rw [keys_slots]
  decide

/-- **A summary is read from its own text as a record of its slots.** -/
theorem exists_record {β : Type} (read : Record → Option β) (summary : MetricSummary) (room : ℕ) :
    ∃ record : Record, record.positional = false ∧
      (∀ slot ∈ summary.slots, record.members.lookup slot.1 = slot.2.map Json.written) ∧
      Reader.record fields .skipped read (room + 1) summary.json.written = read record := by
  have within := Json.keys_present_sublist summary.slots
  have known : ∀ field ∈ Json.present summary.slots, field.1 ∈ fields := fun field inside =>
    within.subset (List.mem_map_of_mem inside)
  obtain ⟨record, -, named, members, same⟩ := exists_members .skipped read known
    (within.nodup summary.nodup_slots) room
  refine ⟨record, named, fun slot inside => ?_, ?_⟩
  · rw [members, Json.lookup_present summary.nodup_slots,
      Table.lookup_of_mem summary.nodup_slots inside]
    rfl
  · rw [json_eq]
    exact same

theorem mem_optional (summary : MetricSummary) {name : String} {value : Option Float}
    (listed : (name, value) ∈ summary.optional) : (name, value.map Json.ofFloat) ∈ summary.slots :=
  List.mem_append_left _ (List.mem_append_right _ (List.mem_map_of_mem
    (f := fun field : String × Option Float => (field.1, field.2.map Json.ofFloat)) listed))

theorem mem_trues (summary : MetricSummary) : ("trues", slotOf summary.trues) ∈ summary.slots :=
  List.mem_append_right _ List.mem_cons_self

theorem mem_falses (summary : MetricSummary) : ("falses", slotOf summary.falses) ∈ summary.slots :=
  List.mem_append_right _ (List.mem_cons_of_mem _ List.mem_cons_self)

/-- **A count of the summary is left out**, because it is zero. -/
def OmitsCount (summary : MetricSummary) : Prop := summary.trues = 0 ∨ summary.falses = 0

instance (summary : MetricSummary) : Decidable summary.OmitsCount :=
  inferInstanceAs (Decidable (_ ∨ _))

/-- **A summary with a count that is left out is not read.** -/
theorem reader_of_omitted (omitted : summary.OmitsCount) (room : ℕ) :
    reader room summary.json.written = none := by
  cases room with
  | zero => rfl
  | succ room =>
    obtain ⟨record, -, members, same⟩ := exists_record _ summary room
    refine same.trans ?_
    have missing : record.need "trues" (nat maxWord) = none ∨
        record.need "falses" (nat maxWord) = none := by
      refine omitted.imp (fun zero => need_of_missing ?_) fun zero => need_of_missing ?_
      · rw [members _ summary.mem_trues, slotOf, if_pos zero, Option.map_none]
      · rw [members _ summary.mem_falses, slotOf, if_pos zero, Option.map_none]
    rcases missing with absent | absent <;>
      simp only [absent, Option.bind_eq_bind, Option.bind_none, Option.bind_fun_none]

/-- **A summary that a text can hold**: its floats are finite and are read from their own texts, and
its counts fit 64 bits. -/
structure Storable (summary : MetricSummary) : Prop where
  finite : ∀ x ∈ summary.json.floats, x.isFinite = true
  exact : ∀ x ∈ summary.json.floats, x.isFinite = true →
    Json.numberOf? (Json.layout.finite x).toList = some (.float x)
  trues : summary.trues ≤ maxWord
  falses : summary.falses ≤ maxWord

theorem Storable.float (storable : summary.Storable) {name : String} {x : Float}
    (inside : (name, some (Json.ofFloat x)) ∈ summary.slots) :
    x.isFinite = true ∧ Json.IsExact x := by
  have listed : x ∈ summary.json.floats := by
    rw [json_eq, Json.floats, Json.floatsOfMembers_eq]
    exact List.mem_flatMap_of_mem (Json.mem_present inside) List.mem_cons_self
  exact ⟨storable.finite x listed, storable.exact x listed (storable.finite x listed)⟩

/-- **What is read of a summary.** -/
theorem reader_written (storable : summary.Storable) (room : ℕ) :
    reader (room + 1) summary.json.written =
      if summary.OmitsCount then none else some summary := by
  by_cases omitted : summary.OmitsCount
  · rw [if_pos omitted, reader_of_omitted omitted]
  · rw [if_neg omitted]
    obtain ⟨record, named, members, same⟩ := exists_record _ summary room
    have kind : record.need "type" MetricKind.reader = some summary.kind := by
      rw [Record.need, members ("type", some (.string summary.kind.name)) List.mem_cons_self]
      exact MetricKind.reader_name _ _
    have figure : ∀ name x, (name, some (Json.ofFloat x)) ∈ summary.slots →
        record.need name float = some x := by
      intro name x inside
      obtain ⟨finite, exact⟩ := storable.float inside
      exact need_float (members _ inside) finite exact
    have statistic : ∀ name value, (name, value) ∈ summary.optional →
        record.maybeNamed name float = some value := by
      intro name value listed
      have inside := summary.mem_optional listed
      refine maybeNamed_float named (members _ inside) fun x there => ?_
      rw [Option.mem_def.1 there] at inside
      exact storable.float inside
    obtain ⟨trues, falses⟩ := not_or.1 omitted
    have held := need_count (members _ summary.mem_trues) storable.trues
    have failed := need_count (members _ summary.mem_falses) storable.falses
    rw [if_neg trues] at held
    rw [if_neg falses] at failed
    refine same.trans ?_
    simp only [kind, held, failed, figure "count" summary.count (by simp [slots]),
      figure "sum" summary.sum (by simp [slots]), statistic "min" summary.min (by simp [optional]),
      statistic "max" summary.max (by simp [optional]),
      statistic "avg" summary.avg (by simp [optional]),
      statistic "med" summary.med (by simp [optional]),
      statistic "p(90)" summary.p90 (by simp [optional]),
      statistic "p(95)" summary.p95 (by simp [optional]),
      statistic "p(99)" summary.p99 (by simp [optional]),
      statistic "rate" summary.rate (by simp [optional]), Option.bind_eq_bind, Option.bind_some]

/-- **A table of summaries is read if none of them has a count that is left out.** -/
theorem table_written {metrics : Table MetricSummary}
    (storable : ∀ entry ∈ metrics.toList, entry.2.Storable) (room : ℕ) :
    table reader (room + 2) (Json.ofTable json metrics).written =
      if ∃ entry ∈ metrics.toList, entry.2.OmitsCount then none else some metrics := by
  by_cases omitted : ∃ entry ∈ metrics.toList, entry.2.OmitsCount
  · rw [if_pos omitted]
    obtain ⟨entry, inside, omits⟩ := omitted
    exact table_of_unread inside (reader_of_omitted omits _)
  · rw [if_neg omitted]
    refine table_of_each fun entry inside => ?_
    rw [reader_written (storable entry inside), if_neg fun omits => omitted ⟨entry, inside, omits⟩]

end MetricSummary

/-- Only a rate has both counts. -/
theorem Aggregate.omitsCount_of_kind {aggregate : Aggregate Float} (other : aggregate.kind ≠ .rate) :
    aggregate.summary.OmitsCount := by
  cases aggregate with
  | rate => exact absurd rfl other
  | counter | trend => exact .inl rfl

end LoadTest
