/-
**The text of a selector tells it apart.**

Metrics and submetrics are kept under texts. What a selector is read from is cut at `{`, `,` and
`:`, so none of these marks stands where it would be cut again, and two selectors that were read are
equal when their texts are. A submetric has a `{` in its text, which no plain metric has.

* `Selector.Form`, `Selector.parse?_eq_some_iff`: the texts that a selector is read from;
* `Selector.Legible`: no mark stands where it does not belong;
* `Selector.legible_of_parse?`: what is read is legible;
* `Selector.show_injective`: the texts of legible selectors tell them apart.
-/

import LoadTest.Metric.Selector
import LoadTest.Proofs.Sequence
import LoadTest.Proofs.Text.Parts

namespace LoadTest.Selector

open Text

/-- A tag whose key has no `:` and whose text has no `,`. -/
structure LegibleTag (tag : String × String) : Prop where
  key : ':' ∉ tag.1.toList
  first : ',' ∉ tag.1.toList
  second : ',' ∉ tag.2.toList

/-- **No mark stands where it does not belong.** -/
structure Legible (selector : Selector) : Prop where
  name : '\x7b' ∉ selector.name.toList
  tags : ∀ tag ∈ selector.tags, LegibleTag tag

/-- A metric whose name has no `{`. -/
def Plain (metric : String) : Prop := '\x7b' ∉ metric.toList

instance (metric : String) : Decidable (Plain metric) :=
  inferInstanceAs (Decidable ('\x7b' ∉ metric.toList))

/-! ### Reading -/

theorem pair?_eq_some_iff {piece : List Char} {tag : String × String} : pair? piece = some tag ↔
    ∃ key value, piece = key ++ ':' :: value ∧ ':' ∉ key ∧ trim key ≠ [] ∧
      tag = (String.ofList (trim key), String.ofList (trim value)) := by
  unfold pair?
  cases cut : splitFirst ':' piece with
  | none =>
    constructor
    · intro read
      contradiction
    · rintro ⟨key, value, rfl, -⟩
      have apart := splitFirst_eq_none_iff.mp cut
      exact absurd (List.mem_append_right _ List.mem_cons_self) apart
  | some parts =>
    obtain ⟨key, value⟩ := parts
    obtain ⟨rfl, apart⟩ := splitFirst_eq_some_iff.mp cut
    dsimp only
    constructor
    · intro read
      by_cases empty : (trim key).isEmpty = true
      · rw [if_pos empty] at read
        contradiction
      rw [if_neg empty] at read
      refine ⟨key, value, rfl, apart, ?_, (Option.some.inj read).symm⟩
      exact fun none => empty (List.isEmpty_iff.mpr none)
    · rintro ⟨own, rest, whole, away, some, rfl⟩
      rw [whole, splitFirst_append rest away] at cut
      obtain ⟨rfl, rfl⟩ := Prod.mk.inj (Option.some.inj cut)
      rw [if_neg fun empty => some (List.isEmpty_iff.mp empty)]

/-- The pieces between commas that are not blank. -/
def piecesOf (inner : List Char) : List (List Char) :=
  (inner.splitOn ',').filter fun piece => !(trim piece).isEmpty

/-- **The texts of a selector**, without the blanks around them: a name alone has no braces, and a
name before braces has no opening one. -/
inductive Form : List Char → Selector → Prop where
  | plain {name : List Char} (some : name ≠ []) (unopened : '\x7b' ∉ name)
    (unclosed : '\x7d' ∉ name) : Form name ⟨String.ofList name, []⟩
  | braced {before inner : List Char} {tags : List (String × String)} (unopened : '\x7b' ∉ before)
    (named : trim before ≠ []) (read : (piecesOf inner).mapM pair? = some tags) :
    Form (before ++ '\x7b' :: (inner ++ ['\x7d']))
      ⟨String.ofList (trim before), tags.mergeSort tagLE⟩

/-- **A selector is read from its texts.** -/
theorem parse?_eq_some_iff {input : String} {selector : Selector} :
    parse? input = some selector ↔ Form (trim input.toList) selector := by
  unfold parse?
  dsimp only
  generalize trim input.toList = text
  cases cut : splitFirst '\x7b' text with
  | none =>
    have unopened := splitFirst_eq_none_iff.mp cut
    dsimp only
    constructor
    · intro read
      by_cases blank : (text.isEmpty || text.contains '\x7d') = true
      · rw [if_pos blank] at read
        contradiction
      rw [if_neg blank] at read
      obtain rfl := Option.some.inj read
      rw [Bool.or_eq_true, not_or, List.isEmpty_iff, List.contains_iff_mem] at blank
      exact .plain blank.1 unopened blank.2
    · intro form
      cases form with
      | plain some _ unclosed =>
        rw [if_neg]
        rw [Bool.or_eq_true, not_or, List.isEmpty_iff, List.contains_iff_mem]
        exact ⟨some, unclosed⟩
      | braced _ _ _ => exact absurd (List.mem_append_right _ List.mem_cons_self) unopened
  | some parts =>
    obtain ⟨before, after⟩ := parts
    obtain ⟨rfl, apart⟩ := splitFirst_eq_some_iff.mp cut
    dsimp only
    constructor
    · intro read
      obtain ⟨inner, ends, inside⟩ := Option.bind_eq_some_iff.mp read
      obtain rfl := dropTail?_eq_some_iff.mp ends
      by_cases nameless : (trim before).isEmpty = true
      · rw [if_pos nameless] at inside
        contradiction
      rw [if_neg nameless] at inside
      obtain ⟨tags, made, same⟩ := Option.bind_eq_some_iff.mp inside
      obtain rfl := Option.some.inj same
      exact .braced apart (fun none => nameless (List.isEmpty_iff.mpr none)) made
    · intro form
      generalize whole : before ++ '\x7b' :: after = text at form
      cases form with
      | plain _ unopened _ =>
        exact absurd (whole ▸ List.mem_append_right _ List.mem_cons_self) unopened
      | @braced own inner tags unopened named read =>
        have parts := splitFirst_append (inner ++ ['\x7d']) unopened
        rw [← whole, cut] at parts
        obtain ⟨rfl, rfl⟩ := Prod.mk.inj (Option.some.inj parts)
        rw [dropTail?_eq_some_iff.mpr rfl]
        show (if (trim before).isEmpty then _ else _) = _
        rw [if_neg fun empty => named (List.isEmpty_iff.mp empty)]
        exact congrArg (Option.bind · _) read

/-- A pair that is read from a piece without `,` is legible. -/
theorem legibleTag_of_pair? {piece : List Char} {tag : String × String} (single : ',' ∉ piece)
    (read : pair? piece = some tag) : LegibleTag tag := by
  obtain ⟨key, value, rfl, apart, -, rfl⟩ := pair?_eq_some_iff.mp read
  refine ⟨?_, ?_, ?_⟩
  · rw [String.toList_ofList]
    exact fun member => apart (mem_of_mem_trim member)
  · rw [String.toList_ofList]
    exact fun member => single (List.mem_append_left _ (mem_of_mem_trim member))
  · rw [String.toList_ofList]
    intro member
    have inside := mem_of_mem_trim member
    exact single (List.mem_append_right _ (List.mem_cons_of_mem _ inside))

/-- **A selector that was read is legible.** -/
theorem legible_of_parse? {input : String} {selector : Selector}
    (read : parse? input = some selector) : Legible selector := by
  have form := parse?_eq_some_iff.mp read
  generalize trim input.toList = text at form
  cases form with
  | plain some unopened unclosed =>
    refine ⟨?_, fun tag member => absurd member List.not_mem_nil⟩
    rw [String.toList_ofList]
    exact unopened
  | braced unopened named made =>
    refine ⟨?_, ?_⟩
    · rw [String.toList_ofList]
      exact fun member => unopened (mem_of_mem_trim member)
    · intro tag member
      obtain ⟨piece, inside, isTag⟩ := exists_of_mem_mapM made (List.mem_mergeSort.mp member)
      exact legibleTag_of_pair? (not_mem_of_mem_splitOn (List.mem_filter.mp inside).1) isTag

/-! ### Writing -/

/-- The text of a tag. -/
def tagText (tag : String × String) : List Char := tag.1.toList ++ ':' :: tag.2.toList

theorem LegibleTag.single {tag : String × String} (legible : LegibleTag tag) :
    ',' ∉ tagText tag := by
  unfold tagText
  rw [List.mem_append, List.mem_cons, not_or, not_or]
  exact ⟨legible.first, by decide, legible.second⟩

theorem LegibleTag.ext {tag other : String × String} (legible : LegibleTag tag)
    (others : LegibleTag other) (same : tagText tag = tagText other) : tag = other := by
  have cut := splitFirst_append tag.2.toList legible.key
  have again := splitFirst_append other.2.toList others.key
  unfold tagText at same
  rw [same, again] at cut
  obtain ⟨keys, values⟩ := Prod.mk.inj (Option.some.inj cut)
  exact Prod.ext (String.toList_inj.mp keys.symm) (String.toList_inj.mp values.symm)

/-- The text of a submetric, character by character. -/
theorem show_toList {selector : Selector} (tagged : selector.isSubmetric = true) :
    selector.show.toList = selector.name.toList ++
      '\x7b' :: ([','].intercalate (selector.tags.map tagText) ++ ['\x7d']) := by
  have opened : "\x7b".toList = ['\x7b'] := by decide
  have closed : "\x7d".toList = ['\x7d'] := by decide
  have comma : ",".toList = [','] := by decide
  have texts : (selector.tags.map fun tag => tag.1 ++ ":" ++ tag.2).map String.toList =
      selector.tags.map tagText := by
    rw [List.map_map]
    apply List.map_congr_left
    intro tag _
    simp [tagText]
  unfold «show»
  rw [if_pos tagged]
  simp only [String.toList_append, String.toList_intercalate, opened, closed, comma, texts,
    List.append_assoc, List.cons_append, List.nil_append]

theorem show_untagged {selector : Selector} (untagged : selector.isSubmetric = false) :
    selector.show = selector.name := by
  unfold «show»
  rw [untagged]
  rfl

/-- A submetric is not kept under a plain name. -/
theorem not_plain_show {selector : Selector} (tagged : selector.isSubmetric = true) :
    ¬ Plain selector.show := by
  unfold Plain
  rw [show_toList tagged]
  exact fun apart => apart (List.mem_append_right _ List.mem_cons_self)

theorem tags_eq_nil {selector : Selector} (untagged : selector.isSubmetric = false) :
    selector.tags = [] := by
  unfold isSubmetric at untagged
  exact List.isEmpty_iff.mp (by simpa using untagged)

theorem tags_ne_nil {selector : Selector} (tagged : selector.isSubmetric = true) :
    selector.tags ≠ [] := by
  intro none
  unfold isSubmetric at tagged
  rw [none] at tagged
  contradiction

/-- Legible tags in the same order are told apart by their joined texts. -/
theorem tags_injective {tags others : List (String × String)}
    (legible : ∀ tag ∈ tags, LegibleTag tag) (othersLegible : ∀ tag ∈ others, LegibleTag tag)
    (same : tags.map tagText = others.map tagText) : tags = others := by
  induction tags generalizing others with
  | nil => exact (List.map_eq_nil_iff.mp same.symm).symm
  | cons tag rest ih =>
    cases others with
    | nil => exact absurd same (List.cons_ne_nil _ _)
    | cons other more =>
      rw [List.map_cons, List.map_cons, List.cons.injEq] at same
      have head := (legible tag List.mem_cons_self).ext (othersLegible other List.mem_cons_self)
        same.1
      have tail := ih (fun tag member => legible tag (List.mem_cons_of_mem _ member))
        (fun tag member => othersLegible tag (List.mem_cons_of_mem _ member)) same.2
      rw [head, tail]

/-- **The texts of legible selectors tell them apart.** -/
theorem show_injective {selector other : Selector} (legible : Legible selector)
    (otherLegible : Legible other) (same : selector.show = other.show) : selector = other := by
  cases tagged : selector.isSubmetric with
  | false =>
    cases otherTagged : other.isSubmetric with
    | false =>
      rw [show_untagged tagged, show_untagged otherTagged] at same
      obtain ⟨name, tags⟩ := selector
      obtain ⟨otherName, otherTags⟩ := other
      rw [Selector.mk.injEq]
      exact ⟨same, (tags_eq_nil tagged).trans (tags_eq_nil otherTagged).symm⟩
    | true =>
      have plain : Plain other.show := by
        rw [← same, show_untagged tagged]
        exact legible.name
      exact absurd plain (not_plain_show otherTagged)
  | true =>
    cases otherTagged : other.isSubmetric with
    | false =>
      have plain : Plain selector.show := by
        rw [same, show_untagged otherTagged]
        exact otherLegible.name
      exact absurd plain (not_plain_show tagged)
    | true =>
      have texts := congrArg String.toList same
      rw [show_toList tagged, show_toList otherTagged] at texts
      -- Both texts are cut at their first brace, and then at the commas.
      have cut := congrArg (splitFirst '\x7b') texts
      rw [splitFirst_append _ legible.name, splitFirst_append _ otherLegible.name] at cut
      obtain ⟨names, rest⟩ := Prod.mk.inj (Option.some.inj cut)
      have joined := List.append_cancel_right rest
      have pieces := congrArg (List.splitOn ',') joined
      rw [List.splitOn_intercalate, List.splitOn_intercalate] at pieces
      · obtain ⟨name, tags⟩ := selector
        obtain ⟨otherName, otherTags⟩ := other
        rw [Selector.mk.injEq]
        exact ⟨String.toList_inj.mp names, tags_injective legible.tags otherLegible.tags pieces⟩
      · intro text member
        obtain ⟨tag, inside, rfl⟩ := List.mem_map.mp member
        exact (otherLegible.tags tag inside).single
      · exact fun none => tags_ne_nil otherTagged (List.map_eq_nil_iff.mp none)
      · intro text member
        obtain ⟨tag, inside, rfl⟩ := List.mem_map.mp member
        exact (legible.tags tag inside).single
      · exact fun none => tags_ne_nil tagged (List.map_eq_nil_iff.mp none)

end LoadTest.Selector
