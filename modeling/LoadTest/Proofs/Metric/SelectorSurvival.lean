/-
**A selector is read again from its text.**

What a selector is read from is trimmed, cut and sorted, and nothing of that changes what comes out
of it: its name and its keys are solid, its values are trimmed, and its tags are in order. So its
text is cut where it was put together. The one text that is not read again is that of a name with a
closing brace in it and without tags: before an empty pair of braces such a name is read, alone it
is refused.

* `Selector.Readable`, `Selector.readable_of_parse?`: what a selector is like that was read;
* `Selector.parse?_show`: it is read again from its text;
* `Selector.keys_of_parse?`: its text is a key that names it and no other selector;
* `Selector.parse?_show_fails`: a name with a closing brace is lost.
-/

import LoadTest.Proofs.Metric.SelectorOrder
import LoadTest.Proofs.Metric.SelectorText
import LoadTest.Proofs.Sequence
import LoadTest.Proofs.Table
import LoadTest.Proofs.Text.Trimmed
import LoadTest.Threshold.Verdict

namespace LoadTest.Selector

open Text

/-! ### Sorted tags -/

theorem ascending_tags (tags : List (String × String)) :
    (tags.mergeSort tagLE).Pairwise fun first second => tagLE first second = true :=
  @List.pairwise_mergeSort _ tagLE (fun _ _ _ => tagLE_trans) tagLE_total tags

/-- Tags in their order are what is left when they are sorted. -/
theorem mergeSort_tags {tags ordered : List (String × String)} (same : tags.Perm ordered)
    (ascending : ordered.Pairwise fun first second => tagLE first second = true) :
    tags.mergeSort tagLE = ordered := by
  have permuted : (tags.mergeSort tagLE).Perm ordered := (List.mergeSort_perm tags tagLE).trans same
  exact permuted.eq_of_pairwise (fun _ _ _ _ low high => tagLE_antisymm low high)
    (ascending_tags tags) ascending

/-! ### What was read -/

/-- A tag whose key and value have no blanks around them, and whose key is not empty. -/
structure TrimmedTag (tag : String × String) : Prop where
  key : Solid tag.1.toList
  value : trim tag.2.toList = tag.2.toList

/-- **What a selector is like that was read.** -/
structure Readable (selector : Selector) : Prop where
  legible : Legible selector
  name : Solid selector.name.toList
  trimmed : ∀ tag ∈ selector.tags, TrimmedTag tag
  sorted : selector.tags.Pairwise fun first second => tagLE first second = true

theorem trimmedTag_of_pair? {piece : List Char} {tag : String × String}
    (read : pair? piece = some tag) : TrimmedTag tag := by
  obtain ⟨key, value, -, -, some, rfl⟩ := pair?_eq_some_iff.mp read
  refine ⟨?_, ?_⟩
  · rw [String.toList_ofList]
    exact solid_trim some
  · rw [String.toList_ofList]
    exact trim_trim value

/-- **A selector that was read is readable.** -/
theorem readable_of_parse? {input : String} {selector : Selector}
    (read : parse? input = some selector) : Readable selector := by
  have legible := legible_of_parse? read
  have form := parse?_eq_some_iff.mp read
  generalize whole : trim input.toList = text at form
  cases form with
  | plain some unopened unclosed =>
    refine ⟨legible, ?_, fun tag member => absurd member List.not_mem_nil, List.Pairwise.nil⟩
    rw [String.toList_ofList, ← whole]
    exact solid_trim (whole ▸ some)
  | @braced before inner tags unopened named made =>
    refine ⟨legible, ?_, ?_, ascending_tags tags⟩
    · rw [String.toList_ofList]
      exact solid_trim named
    · intro tag member
      obtain ⟨piece, -, isTag⟩ := exists_of_mem_mapM made (List.mem_mergeSort.mp member)
      exact trimmedTag_of_pair? isTag

/-! ### Reading again -/

/-- A tag is read again from its text. -/
theorem pair?_tagText {tag : String × String} (legible : LegibleTag tag)
    (trimmed : TrimmedTag tag) : pair? (tagText tag) = some tag := by
  have key : trim tag.1.toList = tag.1.toList := trim_of_solid trimmed.key
  obtain ⟨c, rest, heads, -⟩ := trimmed.key.first
  refine pair?_eq_some_iff.mpr ⟨tag.1.toList, tag.2.toList, rfl, legible.key, ?_, ?_⟩
  · rw [key, heads]
    exact List.cons_ne_nil c rest
  · rw [key, trimmed.value, String.ofList_toList, String.ofList_toList]

/-- The text of a tag is more than blanks. -/
theorem trim_tagText_ne_nil {tag : String × String} (trimmed : TrimmedTag tag) :
    trim (tagText tag) ≠ [] := by
  obtain ⟨c, rest, heads, visible⟩ := trimmed.key.first
  refine trim_ne_nil (c := c) ?_ visible
  unfold tagText
  rw [heads]
  exact List.mem_append_left _ List.mem_cons_self

/-- **The tags of a selector are read again from their joined texts.** -/
theorem mapM_piecesOf {selector : Selector} (readable : Readable selector)
    (tagged : selector.isSubmetric = true) :
    (piecesOf ([','].intercalate (selector.tags.map tagText))).mapM pair? = some selector.tags := by
  have single : ∀ piece ∈ selector.tags.map tagText, ',' ∉ piece := by
    intro piece member
    obtain ⟨tag, inside, rfl⟩ := List.mem_map.mp member
    exact (readable.legible.tags tag inside).single
  have visible : ∀ piece ∈ selector.tags.map tagText, (!(trim piece).isEmpty) = true := by
    intro piece member
    obtain ⟨tag, inside, rfl⟩ := List.mem_map.mp member
    rw [Bool.not_eq_true', List.isEmpty_eq_false_iff]
    exact trim_tagText_ne_nil (readable.trimmed tag inside)
  unfold piecesOf
  have some : selector.tags.map tagText ≠ [] := fun none =>
    tags_ne_nil tagged (List.map_eq_nil_iff.mp none)
  rw [List.splitOn_intercalate ',' single some, List.filter_eq_self.mpr visible]
  exact mapM_map_of_mem fun tag member =>
    pair?_tagText (readable.legible.tags tag member) (readable.trimmed tag member)

/-- A plain metric whose name holds a closing brace: it is read from a text with empty braces. -/
def StrayBrace (selector : Selector) : Prop :=
  selector.isSubmetric = false ∧ '\x7d' ∈ selector.name.toList

instance (selector : Selector) : Decidable selector.StrayBrace :=
  inferInstanceAs (Decidable (_ ∧ _))

/-- The text of a selector has no blanks around it. -/
theorem solid_show {selector : Selector} (readable : Readable selector) :
    Solid selector.show.toList := by
  cases tagged : selector.isSubmetric with
  | false =>
    rw [show_untagged tagged]
    exact readable.name
  | true =>
    have visible : isBlank '\x7d' = false := by decide
    have closing : Solid ['\x7d'] :=
      solid_of_each (List.cons_ne_nil _ _) (List.forall_mem_singleton.mpr visible)
    have whole := readable.name.append
      ('\x7b' :: [','].intercalate (selector.tags.map tagText)) closing
    rw [show_toList tagged]
    rwa [List.append_assoc, List.cons_append] at whole

/-- **A readable selector is read again from its text**, if no stray brace is in it. -/
theorem parse?_show {selector : Selector} (readable : Readable selector)
    (regular : ¬ selector.StrayBrace) : parse? selector.show = some selector := by
  rw [parse?_eq_some_iff, trim_of_solid (solid_show readable)]
  have name : trim selector.name.toList = selector.name.toList := trim_of_solid readable.name
  obtain ⟨c, rest, heads, -⟩ := readable.name.first
  have named : selector.name.toList ≠ [] := by
    rw [heads]
    exact List.cons_ne_nil c rest
  cases tagged : selector.isSubmetric with
  | false =>
    have form := Form.plain named readable.legible.name fun closing => regular ⟨tagged, closing⟩
    rw [String.ofList_toList, ← tags_eq_nil tagged] at form
    rw [show_untagged tagged]
    exact form
  | true =>
    have form := Form.braced readable.legible.name (name.symm ▸ named)
      (mapM_piecesOf readable tagged)
    rw [name, String.ofList_toList, mergeSort_tags (.refl _) readable.sorted] at form
    rw [show_toList tagged]
    exact form

/-- A stray brace is not read again. -/
theorem parse?_show_stray {selector : Selector} (readable : Readable selector)
    (stray : selector.StrayBrace) : parse? selector.show = none := by
  obtain ⟨untagged, closing⟩ := stray
  rw [Option.eq_none_iff_forall_ne_some]
  intro other again
  have form := parse?_eq_some_iff.mp again
  rw [trim_of_solid (solid_show readable), show_untagged untagged] at form
  have unopened := readable.legible.name
  generalize selector.name.toList = text at form closing unopened
  cases form with
  | plain _ _ unclosed => exact unclosed closing
  | braced _ _ _ => exact unopened (List.mem_append_right _ List.mem_cons_self)

/-! ### Keys -/

/-- What is recorded under one key leaves the other keys as they are. -/
theorem get?_of_push {α : Type} [Scalar α] {recorder after : Recorder α} {key other : String}
    {kind : MetricKind} {value : Measured α} (pushed : recorder.push key kind value = .ok after)
    (apart : other ≠ key) : after.sinks.get? other = recorder.sinks.get? other ∧
      after.sealedAt = recorder.sealedAt := by
  unfold Recorder.push at pushed
  dsimp only at pushed
  split at pushed
  · obtain rfl := Except.ok.inj pushed
    refine ⟨?_, rfl⟩
    dsimp only
    rw [Table.get?_insert, if_neg apart]
  · contradiction

/-- **The text of a selector that was read names it and no other one.** It is read as that selector
again, unless the selector is a plain metric with a closing brace in its name, whose text is
refused; no other selector has the same text, so what is recorded for another one is not found under
it; and the text in the report on a threshold names the metric of the threshold. -/
theorem keys_of_parse? {input : String} {selector : Selector}
    (read : parse? input = some selector) :
    (parse? selector.show = if selector.StrayBrace then none else some selector) ∧
      (∀ text other, parse? text = some other → other.show = selector.show → other = selector) ∧
      (∀ {α : Type} [Scalar α] (recorder after : Recorder α) (text : String) (other : Selector)
        (kind : MetricKind) (value : Measured α) (now : Duration), parse? text = some other →
        other ≠ selector → recorder.push other.show kind value = .ok after →
          after.aggregate selector now = recorder.aggregate selector now ∧
          (after.snapshot now).get? selector = (recorder.snapshot now).get? selector) ∧
      ∀ expression threshold, Threshold.parse input expression = .ok threshold → ∀ outcome,
        parse? (threshold.report outcome).metric =
          if selector.StrayBrace then none else some threshold.metric := by
  have readable := readable_of_parse? read
  have again : parse? selector.show = if selector.StrayBrace then none else some selector := by
    by_cases stray : selector.StrayBrace
    · rw [if_pos stray, parse?_show_stray readable stray]
    · rw [if_neg stray, parse?_show readable stray]
  have unique : ∀ text other, parse? text = some other → other.show = selector.show →
      other = selector := fun text other found same =>
    show_injective (legible_of_parse? found) readable.legible same
  refine ⟨again, unique, ?_, ?_⟩
  · intro α _ recorder after text other kind value now found differ pushed
    have apart : selector.show ≠ other.show :=
      fun same => differ (unique text other found same.symm)
    obtain ⟨kept, sealing⟩ := get?_of_push pushed apart
    have watched : after.elapsed now = recorder.elapsed now := by
      unfold Recorder.elapsed
      rw [sealing]
    unfold Recorder.aggregate Snapshot.get? Recorder.snapshot
    dsimp only
    rw [Table.get?_map, Table.get?_map, kept, watched]
    exact ⟨rfl, rfl⟩
  · intro expression threshold made outcome
    obtain rfl := Option.some.inj (read.symm.trans (Threshold.parts_of_parse made).1)
    exact again

/-- Braces, colons and blanks inside the parts, an empty value, an empty pair and pairs out of
order. -/
theorem keys_of_parse?_braces :
    parse? " x\x7dy \x7b b : c:d ,, a:\x7bz\x7d ,a: \x7d" =
      some ⟨"x\x7dy", [("a", ""), ("a", "\x7bz\x7d"), ("b", "c:d")]⟩ ∧
    parse? "x\x7dy\x7ba:,a:\x7bz\x7d,b:c:d\x7d" =
      some ⟨"x\x7dy", [("a", ""), ("a", "\x7bz\x7d"), ("b", "c:d")]⟩ := by
  have read : parse? " x\x7dy \x7b b : c:d ,, a:\x7bz\x7d ,a: \x7d" =
      some ⟨"x\x7dy", [("a", ""), ("a", "\x7bz\x7d"), ("b", "c:d")]⟩ := by
    have sorted : [("b", "c:d"), ("a", "\x7bz\x7d"), ("a", "")].mergeSort tagLE =
        [("a", ""), ("a", "\x7bz\x7d"), ("b", "c:d")] :=
      mergeSort_tags (by decide +kernel) (by decide +kernel)
    have text : trim " x\x7dy \x7b b : c:d ,, a:\x7bz\x7d ,a: \x7d".toList =
        "x\x7dy ".toList ++ '\x7b' :: " b : c:d ,, a:\x7bz\x7d ,a: ".toList ++ ['\x7d'] := by
      decide +kernel
    have tags : (piecesOf " b : c:d ,, a:\x7bz\x7d ,a: ".toList).mapM pair? =
        some [("b", "c:d"), ("a", "\x7bz\x7d"), ("a", "")] := by
      decide +kernel
    have form := @Form.braced "x\x7dy ".toList _ _ (by decide +kernel) (by decide +kernel) tags
    rw [parse?_eq_some_iff, text, ← sorted]
    exact form
  exact ⟨read, (keys_of_parse? read).1⟩

/-- **A selector that was read is not always read again from its text.** Before empty braces a name
may hold a closing brace, alone it may not. -/
theorem parse?_show_fails :
    ¬ ∀ input selector, parse? input = some selector → parse? selector.show = some selector := by
  intro claimed
  have again := claimed "x\x7dy\x7b\x7d" ⟨"x\x7dy", []⟩ (by decide +kernel)
  revert again
  decide +kernel

end LoadTest.Selector
