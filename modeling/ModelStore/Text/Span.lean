/-!
A character class given by spans of code points. The classes that decide what the program writes
(blanks, digits, printable characters, letters with case) are tables of such spans.
-/
namespace ModelStore.Text

abbrev Span := Nat × Nat

def Span.contains (span : Span) (c : Char) : Bool :=
  span.1 ≤ c.toNat && c.toNat ≤ span.2

def inSpans (spans : List Span) (c : Char) : Bool :=
  spans.any (·.contains c)

end ModelStore.Text
