import ModelStore.Filter.Operator

/-!
Pattern operators. A pattern may be written as a text that ends in flags, with or without a slash
in front. Of the flags only the four that the database knows are passed on.
-/
namespace ModelStore.Filter

/-- A pattern and the flags written with it. -/
structure WrittenPattern where
  source : String
  flags : String
  deriving DecidableEq, Inhabited

namespace WrittenPattern

/-- A line end at the very end does not count. -/
def dropFinalNewline (cs : List Char) : List Char :=
  if cs.getLast? = some '\n' then cs.dropLast else cs

def cutAtLastSlash? (cs : List Char) : Option (List Char × List Char) :=
  let tail := (cs.reverse.takeWhile (· ≠ '/')).reverse
  match cs.reverse.dropWhile (· ≠ '/') with
  | [] => none
  | _ :: before => some (before.reverse, tail)

def isSmallLetter (c : Char) : Bool := 'a' ≤ c && c ≤ 'z'

def isSuffixFlag (c : Char) : Bool := "gimsuxy".toList.contains c

/-- A text between slashes may carry any small letters as flags; a text without the leading slash
only flags that exist, and at least one. -/
def ofChars (cs : List Char) : WrittenPattern :=
  let whole : WrittenPattern := ⟨String.ofList cs, ""⟩
  match cutAtLastSlash? cs with
  | none => whole
  | some (before, tail) =>
      let flags := dropFinalNewline tail
      let enclosed := before.head? = some '/' && flags.all isSmallLetter
      if enclosed then ⟨String.ofList (before.drop 1), String.ofList flags⟩
      else if !flags.isEmpty && flags.all isSuffixFlag then
        ⟨String.ofList before, String.ofList flags⟩
      else whole

end WrittenPattern

def flagLetters (flags : Int) : List Char :=
  let has := fun (bit : Int) => flags / bit % 2 = 1
  (if has 2 then ['i'] else []) ++ (if has 8 then ['m'] else []) ++
    (if has 16 then ['s'] else []) ++ (if has 64 then ['x'] else [])

def switchLetters (switches : PatternSwitches) : List Char :=
  (if switches.ignoreCase then ['i'] else []) ++ (if switches.multiLine then ['m'] else []) ++
    (if switches.dotAll then ['s'] else []) ++ (if switches.verbose then ['x'] else [])

/-- The letters of a group of switches, as in `(?im)`, and what stands behind it. -/
def leadingGroup? : List Char → Option (List Char × List Char)
  | '(' :: '?' :: rest =>
      let letters := rest.takeWhile fun c => "aiLmsux".toList.contains c
      match letters, rest.drop letters.length with
      | _ :: _, ')' :: behind => some (letters, behind)
      | _, _ => none
  | _ => none

theorem length_leadingGroup? {cs letters behind : List Char}
    (h : leadingGroup? cs = some (letters, behind)) : behind.length < cs.length := by
  unfold leadingGroup? at h
  split at h
  · rename_i rest
    simp only at h
    split at h
    · rename_i hdrop
      injection h with h
      injection h with _ h
      subst h
      have hlength := congrArg List.length hdrop
      simp only [List.length_drop, List.length_cons] at hlength ⊢
      omega
    · simp at h
  · simp at h

def leadingLetters (cs : List Char) : List Char :=
  match _h : leadingGroup? cs with
  | some (letters, behind) => letters ++ leadingLetters behind
  | none => []
termination_by cs.length
decreasing_by exact length_leadingGroup? _h

/-- A compiled pattern: switches may also be written at its beginning. -/
def compiled (source : String) (switches : PatternSwitches) : Value :=
  let letters := leadingLetters source.toList
  .pattern source
    { ignoreCase := switches.ignoreCase || letters.contains 'i'
      multiLine := switches.multiLine || letters.contains 'm'
      dotAll := switches.dotAll || letters.contains 's'
      verbose := switches.verbose || letters.contains 'x' }

def flagsOfLetters (letters : List Char) : Int :=
  let bit := fun (c : Char) (n : Int) => if letters.contains c then n else 0
  bit 'i' 2 + bit 'l' 4 + bit 'm' 8 + bit 's' 16 + bit 'u' 32 + bit 'x' 64

def splitPattern : Value → Result WrittenPattern
  | .pattern source switches => .ok ⟨source, String.ofList (switchLetters switches)⟩
  | .regex source flags => .ok ⟨source, String.ofList (flagLetters flags)⟩
  | .text s => .ok (.ofChars s.toList)
  | v => .error (.notPattern v)

def isKnownFlag (c : Char) : Bool := "imsx".toList.contains c

def knownFlags (flags : String) : String := String.ofList (flags.toList.filter isKnownFlag)

def isPattern : Value → Bool
  | .pattern _ _ => true
  | .regex _ _ => true
  | _ => false

def modifierFlags (modifiers : Document) : String :=
  (((Table.get? modifiers "options").getD .null).orElse (.text "")).plain

/-- The pattern that an operator searches for, with all flags as they were written. A ready pattern
under `like` and `nlike` is passed on and has none. -/
def searched? (tag : String) (operand : Value) (modifiers : Document) :
    Result (Option WrittenPattern) :=
  match Operator.ofTag? tag with
  | some .regexp => some <$> splitPattern operand
  | some .like | some .nlike =>
      if isPattern operand then .ok none
      else .ok (some ⟨operand.plain, modifierFlags modifiers⟩)
  | _ => .ok none

def search? (tag : String) (operand : Value) (modifiers : Document) : Result (Option Value) := do
  let written ← searched? tag operand modifiers
  match Operator.ofTag? tag, written with
  | some .regexp, some p | some .like, some p =>
      .ok (some (.doc [("$regex", .text p.source), ("$options", .text (knownFlags p.flags))]))
  | some .nlike, some p =>
      let flags := flagsOfLetters (knownFlags p.flags).toList
      .ok (some (.doc [("$not", .regex p.source flags)]))
  | some .like, none => .ok (some (.doc [("$regex", operand)]))
  | some .nlike, none => .ok (some (.doc [("$not", operand)]))
  | _, _ => .ok none

/-- The pattern asks for the flag of repeated matching, which the database does not know. -/
def asksForGlobal (tag : String) (operand : Value) (modifiers : Document) : Bool :=
  match searched? tag operand modifiers with
  | .ok (some p) => p.flags.toList.contains 'g'
  | _ => false

end ModelStore.Filter
