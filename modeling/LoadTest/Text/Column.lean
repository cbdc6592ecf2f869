/-
**Texts in columns.**

* `fillStart`, `fillEnd`: a text with spaces in front of it or behind it, up to a width.
-/

namespace LoadTest.Text

/-- The text at the right end of a column. -/
def fillStart (width : Nat) (text : String) : String :=
  String.ofList (List.replicate (width - text.length) ' ' ++ text.toList)

/-- The text at the left end of a column. -/
def fillEnd (width : Nat) (text : String) : String :=
  String.ofList (text.toList ++ List.replicate (width - text.length) ' ')

end LoadTest.Text
