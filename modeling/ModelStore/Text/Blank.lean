import ModelStore.Text.Span

/-!
Blank characters and trimming. Trimming drops the blanks at both ends and nothing else, so a
trimmed text has no blank at either end. Spaces are a narrower class, for texts in which the
information separators count.
-/
namespace ModelStore.Text

def blankSpans : List Span :=
  [(0x9, 0xD), (0x1C, 0x20), (0x85, 0x85), (0xA0, 0xA0), (0x1680, 0x1680), (0x2000, 0x200A),
   (0x2028, 0x2029), (0x202F, 0x202F), (0x205F, 0x205F), (0x3000, 0x3000)]

def isBlank (c : Char) : Bool := inSpans blankSpans c

def separatorSpans : List Span := [(0x1C, 0x1F)]

def isSpace (c : Char) : Bool := isBlank c && !inSpans separatorSpans c

def trimStart (drops : Char → Bool) (cs : List Char) : List Char := cs.dropWhile drops

def trimEnd (drops : Char → Bool) (cs : List Char) : List Char :=
  (cs.reverse.dropWhile drops).reverse

def trimWhere (drops : Char → Bool) (cs : List Char) : List Char :=
  trimEnd drops (trimStart drops cs)

def trim (cs : List Char) : List Char := trimWhere isBlank cs

end ModelStore.Text
