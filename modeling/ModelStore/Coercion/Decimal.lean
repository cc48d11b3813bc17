import ModelStore.Schema.Model

/-!
Coercion to stored decimals. A decimal number or a text that writes one becomes a stored decimal
when it can be stored exactly; a text that writes no number is refused.
-/
namespace ModelStore.Coercion

open Number

def storeDecimal (d : Decimal) : Result Value :=
  match Decimal128.ofDecimal d with
  | .ok stored => .ok (.decimal128 stored)
  | .error misfit => .error (.misfit misfit)

/-- Blanks around the numeral are allowed. -/
def readDecimal (s : String) : Result Value :=
  match Decimal.ofNumeral? (Text.trim s.toList) with
  | some d => storeDecimal d
  | none => .error (.notDecimal s)

def toDecimal128 : Value → Result Value
  | .decimal d => storeDecimal d
  | .text s => readDecimal s
  | v => .ok v

def isDecimalProperty (definition : Option Property) : Bool :=
  match definition with
  | none => false
  | some p => isMarker decimalMarker p.traits.dataType

end ModelStore.Coercion
