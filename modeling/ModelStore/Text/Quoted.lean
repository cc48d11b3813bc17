import ModelStore.Text.Printable

/-!
Quoted texts, as they stand inside messages. Single quotes enclose the text unless it holds one
and no double quote; the enclosing quote, the backslash and the characters that cannot be shown
are written as escapes, so a quoted text is one line of printable characters.
-/
namespace ModelStore.Text

def singleQuote : Char := '\x27'
def doubleQuote : Char := '\x22'
def backslash : Char := '\x5c'

/-- The lowest `width` hexadecimal digits of a number, the highest of them first. -/
def hexDigits : Nat → Nat → List Char
  | 0, _ => []
  | width + 1, n => hexDigits width (n / 16) ++ [Nat.digitChar (n % 16)]

def codeEscape (n : Nat) : List Char :=
  if n < 0x100 then backslash :: 'x' :: hexDigits 2 n
  else if n < 0x10000 then backslash :: 'u' :: hexDigits 4 n
  else backslash :: 'U' :: hexDigits 8 n

def namedEscape? (quote c : Char) : Option (List Char) :=
  if c = quote ∨ c = backslash then some [backslash, c]
  else if c = '\t' then some [backslash, 't']
  else if c = '\n' then some [backslash, 'n']
  else if c = '\r' then some [backslash, 'r']
  else none

def escapeChar (quote c : Char) : List Char :=
  match namedEscape? quote c with
  | some escaped => escaped
  | none => if isPrintable c then [c] else codeEscape c.toNat

def enclosing (cs : List Char) : Char :=
  if cs.contains singleQuote && !cs.contains doubleQuote then doubleQuote else singleQuote

def quoteChars (cs : List Char) : List Char :=
  enclosing cs :: cs.flatMap (escapeChar (enclosing cs)) ++ [enclosing cs]

def quoted (s : String) : String := String.ofList (quoteChars s.toList)

/-- A byte shows itself when it is a printable ASCII character, and its number otherwise. -/
def escapeByte (quote : Char) (b : UInt8) : List Char :=
  match namedEscape? quote (Char.ofNat b.toNat) with
  | some escaped => escaped
  | none =>
      if 0x20 ≤ b.toNat && b.toNat < 0x7F then [Char.ofNat b.toNat]
      else backslash :: 'x' :: hexDigits 2 b.toNat

def quoteBytes (bytes : List UInt8) : List Char :=
  let quote := enclosing (bytes.map fun b => Char.ofNat b.toNat)
  'b' :: quote :: bytes.flatMap (escapeByte quote) ++ [quote]

end ModelStore.Text
