import ModelStore.Text.Quoted

/-!
Percent encoding of user names and passwords. Letters, digits and `_.-~` stand for themselves, a
space becomes a plus sign, and every other character becomes the percent escapes of its UTF-8
bytes, so no character that structures an address is left over.
-/
namespace ModelStore.Text

def isUnreserved (c : Char) : Bool :=
  c.isAlphanum || c = '_' || c = '.' || c = '-' || c = '~'

def percentByte (b : UInt8) : List Char :=
  ['%', (Nat.digitChar (b.toNat / 16)).toUpper, (Nat.digitChar (b.toNat % 16)).toUpper]

def percentChar (c : Char) : List Char :=
  if isUnreserved c then [c]
  else if c = ' ' then ['+']
  else (String.utf8EncodeChar c).flatMap percentByte

def percentEncode (s : String) : String := String.ofList (s.toList.flatMap percentChar)

end ModelStore.Text
