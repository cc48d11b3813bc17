import ModelStore.Schema.Declaration
import Mathlib.Data.Bool.AllAny
import Mathlib.Data.List.Basic

/-!
Arrays declared by brackets. Brackets around a type name declare the array that a list around the
name declares. Within the outer brackets, though, a text is looked up as a model only as a whole:
what stands in further brackets is a type name in small letters, while each list around a text leads
to a look-up of its own. So the two agree exactly where no model is there to be found.
-/
namespace ModelStore

namespace Text

/-- What a word leads to does not change where a character without case is put behind it. -/
theorem reachesCased_append {c : Char} (hmark : inSpans wordMarkSpans c = false)
    (hcased : inSpans casedSpans c = false) (cs : List Char) :
    reachesCased (cs ++ [c]) = reachesCased cs := by
  induction cs with
  | nil => simp [reachesCased, hmark, hcased]
  | cons d cs ih =>
    unfold reachesCased at ih ⊢
    by_cases hd : inSpans wordMarkSpans d = true
    · rwa [List.cons_append, List.dropWhile_cons_of_pos hd, List.dropWhile_cons_of_pos hd]
    · rw [List.cons_append, List.dropWhile_cons_of_neg hd, List.dropWhile_cons_of_neg hd]

/-- The context in which a letter is put in lower case ends at such a character. -/
theorem lowerFrom_append {first : Char} (hmark : inSpans wordMarkSpans first = false)
    (hcased : inSpans casedSpans first = false) (passed cs : List Char) :
    lowerFrom (passed ++ [first]) cs = lowerFrom passed cs := by
  -- what is passed grows at its front, so the character stays at its far end
  induction cs generalizing passed with
  | nil => rfl
  | cons c cs ih =>
    rw [lowerFrom, lowerFrom, reachesCased_append hmark hcased, ← List.cons_append, ih]

theorem lowerFrom_concat {last : Char} (hmark : inSpans wordMarkSpans last = false)
    (hcased : inSpans casedSpans last = false) (hlower : ∀ passed, lowerFrom passed [last] = [last])
    (passed cs : List Char) :
    lowerFrom passed (cs ++ [last]) = lowerFrom passed cs ++ [last] := by
  induction cs generalizing passed with
  | nil => exact hlower passed
  | cons c cs ih =>
    rw [List.cons_append, lowerFrom, lowerFrom, reachesCased_append hmark hcased, ih,
      List.append_assoc]

/-- A text in brackets has the brackets in lower case, with the lower case of the text between. -/
theorem lower_bracketed (text : String) :
    lower ("[" ++ text ++ "]") = "[" ++ lower text ++ "]" := by
  have hopens : lowerChar '[' = '[' := by decide +kernel
  have hcloses : lowerChar ']' = ']' := by decide +kernel
  have hlast : ∀ passed, lowerFrom passed [']'] = [']'] := by
    intro passed
    simp [lowerFrom, hcloses]
  have hfirst : ∀ cs, lowerFrom [] ('[' :: cs) = '[' :: lowerFrom ([] ++ ['[']) cs := by
    intro cs
    simp [lowerFrom, hopens]
  have htext : ("[" ++ text ++ "]").toList = '[' :: (text.toList ++ [']']) := by simp
  apply String.toList_injective
  rw [lower, htext, hfirst, lowerFrom_append (by decide +kernel) (by decide +kernel),
    lowerFrom_concat (by decide +kernel) (by decide +kernel) hlast, lower]
  simp

end Text

namespace Declaration

variable {models : Registry} {name text : String}

def bracketed : Nat → String → String
  | 0, text => text
  | depth + 1, text => "[" ++ bracketed depth text ++ "]"

def listed : Nat → Declaration → Declaration
  | 0, d => d
  | depth + 1, d => .list [listed depth d]

def arrays (name : String) : Nat → Property → Property
  | 0, p => p
  | depth + 1, p => .arrayOf name (some (arrays name depth p))

def IsBracketed (text : String) : Prop := ∃ inner, text = "[" ++ inner ++ "]"

theorem unbracket?_bracketed (text : String) :
    unbracket? ("[" ++ text ++ "]").toList = some text.toList := by
  have htext : ("[" ++ text ++ "]").toList = '[' :: (text.toList ++ [']']) := by simp
  rw [htext, unbracket?, List.getLast?_concat, if_pos rfl, List.dropLast_concat]

theorem isBracketed_of_unbracket? {inner : List Char} (h : unbracket? text.toList = some inner) :
    IsBracketed text := by
  unfold unbracket? at h
  split at h
  · rename_i rest htext
    split_ifs at h with hlast
    have hrest := List.dropLast_append_getLast? ']' hlast
    refine ⟨String.ofList rest.dropLast, String.toList_injective ?_⟩
    simp [htext, hrest]
  · cases h

theorem unbracket?_of_not_isBracketed (h : ¬ IsBracketed text) :
    unbracket? text.toList = none := by
  cases hinner : unbracket? text.toList with
  | none => rfl
  | some inner => exact absurd (isBracketed_of_unbracket? hinner) h

def lowered (name text : String) : Property := ofTypeName name (Text.lower text).toList

/-- The property of a text that can only be a model as a whole. -/
def looked (models : Registry) (name text : String) : Property :=
  match Table.get? models text with
  | some m => embed name m
  | none => lowered name text

theorem lowered_bracketed (name text : String) :
    lowered name ("[" ++ text ++ "]") = .arrayOf name (some (lowered name text)) := by
  have hinner := unbracket?_bracketed (Text.lower text)
  rw [lowered, Text.lower_bracketed, ofTypeName]
  split
  · rename_i inner hfound
    obtain rfl := Option.some.inj (hinner.symm.trans hfound)
    rfl
  · rename_i hnone
    cases hinner.symm.trans hnone

theorem ofTypeText_bracketed (models : Registry) (name text : String) :
    ofTypeText models name ("[" ++ text ++ "]") = .arrayOf name (some (looked models name text)) := by
  unfold ofTypeText looked
  simp only [unbracket?_bracketed, String.ofList_toList]
  cases Table.get? models text with
  | some m => rfl
  | none => exact lowered_bracketed name text

theorem ofTypeText_of_not_isBracketed (h : ¬ IsBracketed text) :
    ofTypeText models name text = looked models name text := by
  cases hfound : Table.get? models text with
  | some m => simp only [ofTypeText, looked, unbracket?_of_not_isBracketed h, hfound]
  | none => simp only [ofTypeText, looked, lowered, unbracket?_of_not_isBracketed h, hfound]

theorem ofTypeName_properties (name : String) (cs : List Char) :
    (ofTypeName name cs).properties = none := by
  rw [ofTypeName]
  split <;> rfl

/-- A type name is never a nested model. -/
theorem lowered_ne_embed (m : Model) : lowered name text ≠ embed name m := by
  intro h
  have hproperties := ofTypeName_properties name (Text.lower text).toList
  rw [← lowered, h] at hproperties
  cases hproperties

theorem embed_ne_arrayOf (m : Model) (items : Option Property) :
    embed name m ≠ .arrayOf name items := by
  intro h
  cases congrArg Property.kind h

theorem looked_eq_lowered_iff :
    looked models name text = lowered name text ↔ Table.get? models text = none := by
  unfold looked
  cases Table.get? models text with
  | some m => exact iff_of_false (fun h => lowered_ne_embed m h.symm) (by simp)
  | none => exact iff_of_true rfl rfl

theorem parse_text (models : Registry) (name text : String) :
    parse models name (.value (.text text)) = .ok (ofTypeText models name text) := by
  rw [parse]

theorem parse_list (models : Registry) (name : String) (d : Declaration) :
    parse models name (.list [d]) =
      (fun p => .arrayOf name (some p)) <$> parse models name d := by
  rw [parse]
  rfl

theorem parse_listed (models : Registry) (name text : String) (depth : Nat) :
    parse models name (listed depth (.value (.text text))) =
      .ok (arrays name depth (ofTypeText models name text)) := by
  induction depth with
  | zero => exact parse_text models name text
  | succ depth ih =>
    rw [listed, parse_list, ih]
    rfl

theorem lowered_brackets (name text : String) (depth : Nat) :
    lowered name (bracketed depth text) = arrays name depth (lowered name text) := by
  induction depth with
  | zero => rfl
  | succ depth ih => rw [bracketed, lowered_bracketed, ih, arrays]

theorem arrayOf_inj {p q : Property} :
    Property.arrayOf name (some p) = .arrayOf name (some q) ↔ p = q := by
  simp [Property.arrayOf]

theorem arrays_inj {p q : Property} (depth : Nat) :
    arrays name depth p = arrays name depth q ↔ p = q := by
  induction depth with
  | zero => exact Iff.rfl
  | succ depth ih => rw [arrays, arrays, arrayOf_inj, ih]

/-- What is looked up as a whole is an array of the elements exactly if there is no model of that
name, in its brackets or without them. -/
theorem looked_brackets_iff (depth : Nat) :
    looked models name (bracketed (depth + 1) text) =
        arrays name (depth + 1) (looked models name text) ↔
      Table.get? models text = none ∧ Table.get? models (bracketed (depth + 1) text) = none := by
  cases hwhole : Table.get? models (bracketed (depth + 1) text) with
  | some m =>
    have hlooked : looked models name (bracketed (depth + 1) text) = embed name m := by
      rw [looked, hwhole]
    rw [hlooked]
    exact iff_of_false (embed_ne_arrayOf m _) (by simp)
  | none =>
    rw [looked_eq_lowered_iff.mpr hwhole, lowered_brackets, arrays_inj, eq_comm,
      looked_eq_lowered_iff]
    simp

/-- The outer brackets are a list around what is looked up as a whole. -/
theorem parse_bracketed_iff {p : Property} :
    parse models name (.value (.text ("[" ++ text ++ "]"))) =
        .ok (.arrayOf name (some p)) ↔ looked models name text = p := by
  rw [parse_text, ofTypeText_bracketed, Except.ok.injEq, arrayOf_inj]

theorem eq_of_bracketed {inner inner' : String} (h : "[" ++ inner ++ "]" = "[" ++ inner' ++ "]") :
    inner = inner' := by
  have hinner := unbracket?_bracketed inner
  rw [h, unbracket?_bracketed] at hinner
  exact String.toList_injective (Option.some.inj hinner.symm)

/-- Brackets around a text declare what a list around it does exactly if the text is no other text
in brackets, or one that names no model with these brackets or without them. A bare text in several
brackets declares what it does in as many lists exactly if the text is no model, and no model either
in all its brackets but the outer ones. -/
theorem bracketed_iff_listed (models : Registry) (name text : String) :
    (parse models name (.value (.text ("[" ++ text ++ "]"))) =
        parse models name (.list [.value (.text text)]) ↔
      ∀ inner, text = "[" ++ inner ++ "]" →
        Table.get? models inner = none ∧ Table.get? models text = none) ∧
    (¬ IsBracketed text → ∀ depth,
      (parse models name (.value (.text (bracketed depth text))) =
          parse models name (listed depth (.value (.text text))) ↔
        (2 ≤ depth → Table.get? models text = none ∧
          Table.get? models (bracketed (depth - 1) text) = none))) := by
  constructor
  · have hlisted := parse_listed models name text 1
    rw [listed, listed] at hlisted
    rw [hlisted, arrays, arrays, parse_bracketed_iff]
    by_cases hbracketed : IsBracketed text
    · obtain ⟨inner, rfl⟩ := hbracketed
      -- the list looks up what is inside both pairs, the brackets what is inside the outer one
      rw [ofTypeText_bracketed]
      refine (looked_brackets_iff 0).trans ⟨fun h inner' hinner => ?_, fun h => h inner rfl⟩
      rwa [← eq_of_bracketed hinner]
    · refine iff_of_true (ofTypeText_of_not_isBracketed hbracketed).symm ?_
      intro inner hinner
      exact absurd ⟨inner, hinner⟩ hbracketed
  · intro hbare depth
    rw [parse_listed, ofTypeText_of_not_isBracketed hbare]
    match depth with
    | 0 =>
      rw [bracketed, parse_text, ofTypeText_of_not_isBracketed hbare]
      exact iff_of_true rfl (by omega)
    | 1 =>
      rw [bracketed, bracketed, arrays, arrays, parse_bracketed_iff]
      exact iff_of_true rfl (by omega)
    | depth + 2 =>
      rw [bracketed, arrays, parse_bracketed_iff, looked_brackets_iff]
      simp

def posts : Registry := [("Post", .bare "Post")]

/-- The model is found in one pair of brackets and not in two. -/
theorem bracketed_iff_listed_posts :
    ¬ IsBracketed "Post" ∧
      parse posts "history" (.value (.text "[Post]")) =
        parse posts "history" (listed 1 (.value (.text "Post"))) ∧
      ¬ parse posts "history" (.value (.text "[[Post]]")) =
        parse posts "history" (listed 2 (.value (.text "Post"))) := by
  have hbare : ¬ IsBracketed "Post" := by
    rintro ⟨inner, htext⟩
    have hfirst := congrArg (fun text => text.toList.head?) htext
    simp at hfirst
  have hdepth := (bracketed_iff_listed posts "history" "Post").2 hbare
  refine ⟨hbare, (hdepth 1).mpr (by omega), ?_⟩
  rw [show "[[Post]]" = bracketed 2 "Post" from rfl, hdepth 2]
  intro hnone
  exact absurd (hnone (by omega)).1 (by decide)

/-- A list around a text in brackets finds the model that two pairs of brackets do not. -/
theorem not_bracketed_as_listed :
    ¬ ∀ (models : Registry) (name text : String), (∀ c ∈ text.toList, c.toNat < 128) →
      parse models name (.value (.text ("[" ++ text ++ "]"))) =
        parse models name (.list [.value (.text text)]) := by
  intro hall
  have hascii : ∀ c ∈ "[Post]".toList, c.toNat < 128 :=
    List.all_iff_forall_prop.mp (by decide)
  have hsame := (hall posts "history" "[Post]" hascii).trans
    (parse_listed posts "history" "[Post]" 1)
  have hmissed : looked posts "history" "[Post]" =
      .arrayOf "history" (some (lowered "history" "Post")) := lowered_bracketed "history" "Post"
  have hfound : ofTypeText posts "history" "[Post]" =
      .arrayOf "history" (some (embed "history" (.bare "Post"))) :=
    ofTypeText_bracketed posts "history" "Post"
  rw [arrays, arrays, parse_bracketed_iff, hmissed, hfound, arrayOf_inj] at hsame
  exact lowered_ne_embed _ hsame

end Declaration

end ModelStore
