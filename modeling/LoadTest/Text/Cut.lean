/-
**Cutting a text at a character.**

* `splitFirst` and `splitLast`: the two parts around the first or the last occurrence of a
  character, without it;
* `dropLead?`: what follows a given beginning;
* `hasPart`: whether a text occurs in another;
* `splitFirst_eq_some_iff`: a cut at the first occurrence loses nothing, and the part before it
  does not hold the character.
-/

namespace LoadTest.Text

/-- The parts before and after the first `mark`. -/
def splitFirst (mark : Char) : List Char → Option (List Char × List Char)
  | [] => none
  | c :: rest =>
    if c = mark then some ([], rest)
    else (splitFirst mark rest).map fun (before, after) => (c :: before, after)

/-- The parts before and after the last `mark`. -/
def splitLast (mark : Char) (text : List Char) : Option (List Char × List Char) :=
  (splitFirst mark text.reverse).map fun (after, before) => (before.reverse, after.reverse)

/-- What follows `lead` in a text that begins with it. -/
def dropLead? : List Char → List Char → Option (List Char)
  | [], text => some text
  | _ :: _, [] => none
  | l :: lead, c :: text => if l = c then dropLead? lead text else none

/-- What stands before `tail` in a text that ends with it. -/
def dropTail? (tail text : List Char) : Option (List Char) :=
  (dropLead? tail.reverse text.reverse).map List.reverse

/-- Whether `part` occurs somewhere in a text. -/
def hasPart (part : List Char) : List Char → Bool
  | [] => part.isEmpty
  | c :: rest => part.isPrefixOf (c :: rest) || hasPart part rest

/-- **A cut at the first mark loses nothing, and no mark stands before it.** -/
theorem splitFirst_eq_some_iff {mark : Char} {text before after : List Char} :
    splitFirst mark text = some (before, after) ↔
      text = before ++ mark :: after ∧ mark ∉ before := by
  induction text generalizing before with
  | nil => simp [splitFirst]
  | cons c rest ih =>
    unfold splitFirst
    by_cases here : c = mark
    · subst here
      cases before with
      | nil => simp [eq_comm]
      | cons b before => simp; grind
    · cases before with
      | nil => simp [here]
      | cons b before => simp [here, ih]; grind

/-- A text that begins with `lead` goes on with what is left after it. -/
theorem dropLead?_eq_some_iff {lead text rest : List Char} :
    dropLead? lead text = some rest ↔ text = lead ++ rest := by
  fun_induction dropLead? lead text <;> simp_all [eq_comm]

end LoadTest.Text
