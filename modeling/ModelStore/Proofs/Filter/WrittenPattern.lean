import ModelStore.Filter.Compile
import ModelStore.Proofs.Text.Path
import Mathlib.Data.Bool.AllAny
import Mathlib.Data.List.Basic

/-!
Written patterns. A text is parted at its last slash if what is behind that can be flags: between
slashes any small letters, and without a slash in front letters that are flags, at least one. So
each written form gives back its pattern and flags, but a text between slashes also loses a last
word that is no flags at all.
-/
namespace ModelStore.Filter

namespace WrittenPattern

open Text

variable {cs before tail : List Char}

theorem cutAtLastSlash?_append (before : List Char) (h : '/' ∉ tail) :
    cutAtLastSlash? (before ++ '/' :: tail) = some (before, tail) := by
  have hall := forall_ne_of_not_mem fun hmem => h (List.mem_reverse.mp hmem)
  have hreverse : (before ++ '/' :: tail).reverse = tail.reverse ++ '/' :: before.reverse := by simp
  unfold cutAtLastSlash?
  rw [hreverse, List.takeWhile_append_of_pos hall, List.dropWhile_append_of_pos hall,
    List.dropWhile_cons_of_neg (by simp), List.takeWhile_cons_of_neg (by simp)]
  simp

theorem cutAtLastSlash?_of_not_mem (h : '/' ∉ cs) : cutAtLastSlash? cs = none := by
  have hnone : cs.reverse.dropWhile (· ≠ '/') = [] :=
    List.dropWhile_eq_nil_iff.mpr
      (forall_ne_of_not_mem fun hmem => h (List.mem_reverse.mp hmem))
  unfold cutAtLastSlash?
  rw [hnone]

/-- A text with a slash has a last one. -/
theorem exists_lastSlash (h : '/' ∈ cs) :
    ∃ before tail, cs = before ++ '/' :: tail ∧ '/' ∉ tail := by
  obtain ⟨last, rest, hcs, hlast⟩ := List.eq_append_cons_of_mem (List.mem_reverse.mpr h)
  refine ⟨rest.reverse, last.reverse, ?_, fun hmem => hlast (List.mem_reverse.mp hmem)⟩
  rw [← List.reverse_reverse cs, hcs]
  simp

/-- What a text may have behind its last character. -/
def IsLineEnd (cs : List Char) : Prop := cs = [] ∨ cs = ['\n']

theorem exists_lineEnd (cs : List Char) :
    ∃ lineEnd, IsLineEnd lineEnd ∧ cs = dropFinalNewline cs ++ lineEnd := by
  unfold dropFinalNewline
  split
  · rename_i h
    exact ⟨['\n'], Or.inr rfl, (List.dropLast_append_getLast? '\n' h).symm⟩
  · exact ⟨[], Or.inl rfl, (List.append_nil cs).symm⟩

theorem dropFinalNewline_append {flags lineEnd : List Char} (hflags : '\n' ∉ flags)
    (hend : IsLineEnd lineEnd) : dropFinalNewline (flags ++ lineEnd) = flags := by
  unfold dropFinalNewline
  rcases hend with rfl | rfl
  · rw [List.append_nil]
    exact if_neg fun hlast => hflags (List.mem_of_getLast? hlast)
  · rw [List.getLast?_concat, if_pos rfl, List.dropLast_concat]

theorem isSmallLetter_of_isSuffixFlag {c : Char} (h : isSuffixFlag c = true) :
    isSmallLetter c = true := by
  have hall : "gimsuxy".toList.all isSmallLetter = true := by decide
  exact List.all_eq_true.mp hall c (List.contains_iff_mem.mp h)

variable {source flags lineEnd : List Char}

theorem not_mem_of_small (hflags : ∀ c ∈ flags, isSmallLetter c = true) {c : Char}
    (hc : isSmallLetter c = false) : c ∉ flags := by
  intro hmem
  exact Bool.false_ne_true (hc.symm.trans (hflags c hmem))

/-- Small letters up to the end of the line stand behind the last slash. -/
theorem slash_not_mem (hflags : ∀ c ∈ flags, isSmallLetter c = true) (hend : IsLineEnd lineEnd) :
    '/' ∉ flags ++ lineEnd := by
  rw [List.mem_append, not_or]
  refine ⟨not_mem_of_small hflags (by decide), ?_⟩
  rcases hend with rfl | rfl <;> decide

theorem ofChars_append (before : List Char) (h : '/' ∉ tail) :
    ofChars (before ++ '/' :: tail) =
      if before.head? = some '/' ∧ (dropFinalNewline tail).all isSmallLetter = true then
        ⟨String.ofList (before.drop 1), String.ofList (dropFinalNewline tail)⟩
      else if dropFinalNewline tail ≠ [] ∧ (dropFinalNewline tail).all isSuffixFlag = true then
        ⟨String.ofList before, String.ofList (dropFinalNewline tail)⟩
      else ⟨String.ofList (before ++ '/' :: tail), ""⟩ := by
  unfold ofChars
  simp only [cutAtLastSlash?_append before h, Bool.and_eq_true, decide_eq_true_eq,
    Bool.not_eq_true', List.isEmpty_eq_false_iff]

theorem ofChars_of_not_mem (h : '/' ∉ cs) : ofChars cs = ⟨String.ofList cs, ""⟩ := by
  unfold ofChars
  simp only [cutAtLastSlash?_of_not_mem h]

/-- The text writes the pattern and the flags, and ends there or with the line. -/
inductive Writes (source flags : List Char) : List Char → Prop
  | enclosed {lineEnd : List Char} : (∀ c ∈ flags, isSmallLetter c = true) → IsLineEnd lineEnd →
      Writes source flags ('/' :: source ++ '/' :: (flags ++ lineEnd))
  | suffixed {lineEnd : List Char} : source.head? ≠ some '/' → flags ≠ [] →
      (∀ c ∈ flags, isSuffixFlag c = true) → IsLineEnd lineEnd →
      Writes source flags (source ++ '/' :: (flags ++ lineEnd))

theorem ofChars_of_writes (h : Writes source flags cs) :
    ofChars cs = ⟨String.ofList source, String.ofList flags⟩ := by
  cases h with
  | enclosed hflags hend =>
    have hcut := dropFinalNewline_append (not_mem_of_small hflags (by decide)) hend
    rw [ofChars_append _ (slash_not_mem hflags hend), hcut,
      if_pos ⟨rfl, List.all_eq_true.mpr hflags⟩]
    rfl
  | suffixed hsource hset hflags hend =>
    have hsmall := fun c hc => isSmallLetter_of_isSuffixFlag (hflags c hc)
    have hcut := dropFinalNewline_append (not_mem_of_small hsmall (by decide)) hend
    rw [ofChars_append _ (slash_not_mem hsmall hend), hcut, if_neg fun h => hsource h.1,
      if_pos ⟨hset, List.all_eq_true.mpr hflags⟩]

/-- A text in neither form is kept whole. -/
theorem writes_or_whole (cs : List Char) :
    (∃ source flags, Writes source flags cs) ∨ ofChars cs = ⟨String.ofList cs, ""⟩ := by
  by_cases hslash : '/' ∈ cs
  · obtain ⟨before, tail, rfl, htail⟩ := exists_lastSlash hslash
    obtain ⟨lineEnd, hend, hlined⟩ := exists_lineEnd tail
    rw [ofChars_append before htail]
    -- flags are small letters, so a text with flags that fails between slashes has none in front
    split_ifs with henclosed hsuffixed
    · obtain ⟨source, rfl⟩ := List.head?_eq_some_iff.mp henclosed.1
      have hwrites : Writes source (dropFinalNewline tail)
          ('/' :: source ++ '/' :: (dropFinalNewline tail ++ lineEnd)) :=
        .enclosed (List.all_eq_true.mp henclosed.2) hend
      rw [← hlined] at hwrites
      exact Or.inl ⟨_, _, hwrites⟩
    · have hflags := List.all_eq_true.mp hsuffixed.2
      have hsmall : (dropFinalNewline tail).all isSmallLetter = true :=
        List.all_eq_true.mpr fun c hc => isSmallLetter_of_isSuffixFlag (hflags c hc)
      have hsource : before.head? ≠ some '/' := fun h => henclosed ⟨h, hsmall⟩
      have hwrites : Writes before (dropFinalNewline tail)
          (before ++ '/' :: (dropFinalNewline tail ++ lineEnd)) :=
        .suffixed hsource hsuffixed.1 hflags hend
      rw [← hlined] at hwrites
      exact Or.inl ⟨_, _, hwrites⟩
    · exact Or.inr rfl
  · exact Or.inr (ofChars_of_not_mem hslash)

theorem Writes.length_lt (h : Writes source flags cs) : source.length < cs.length := by
  cases h <;> simp only [List.length_cons, List.length_append] <;> omega

/-- Whatever the form, the flags are behind the last slash. -/
theorem Writes.flags_behind (h : Writes source flags (before ++ '/' :: tail)) (htail : '/' ∉ tail) :
    ∃ lineEnd, IsLineEnd lineEnd ∧ tail = flags ++ lineEnd := by
  have hlast : ∀ {front lineEnd : List Char}, (∀ c ∈ flags, isSmallLetter c = true) →
      IsLineEnd lineEnd → before ++ '/' :: tail = front ++ '/' :: (flags ++ lineEnd) →
      tail = flags ++ lineEnd := by
    intro front lineEnd hflags hend hsame
    have hcut := congrArg cutAtLastSlash? hsame
    rw [cutAtLastSlash?_append before htail,
      cutAtLastSlash?_append front (slash_not_mem hflags hend)] at hcut
    exact congrArg Prod.snd (Option.some.inj hcut)
  generalize hcs : before ++ '/' :: tail = cs at h
  cases h with
  | @enclosed lineEnd hflags hend => exact ⟨lineEnd, hend, hlast hflags hend hcs⟩
  | @suffixed lineEnd _ _ hflags hend =>
    exact ⟨lineEnd, hend,
      hlast (fun c hc => isSmallLetter_of_isSuffixFlag (hflags c hc)) hend hcs⟩

end WrittenPattern

def patternFlags : List Char := ['g', 'i', 'm', 's', 'u', 'x', 'y']

def nativeFlags (flags : String) : String :=
  String.ofList (flags.toList.filter (· ∈ ['i', 'm', 's', 'x']))

/-- A pattern with its flags as a text: between slashes, with the flags behind a slash, or alone. -/
inductive WrittenAs : String → String → String → Prop
  | enclosed {source flags : String} : (∀ c ∈ flags.toList, 'a' ≤ c ∧ c ≤ 'z') →
      WrittenAs source flags ("/" ++ source ++ "/" ++ flags)
  | suffixed {source flags : String} : source.toList.head? ≠ some '/' → flags ≠ "" →
      (∀ c ∈ flags.toList, c ∈ patternFlags) → WrittenAs source flags (source ++ "/" ++ flags)
  | bare {source : String} : '/' ∉ source.toList → WrittenAs source "" source

variable {source flags text : String}

theorem isSmallLetter_iff {c : Char} :
    WrittenPattern.isSmallLetter c = true ↔ 'a' ≤ c ∧ c ≤ 'z' := by
  simp [WrittenPattern.isSmallLetter]

theorem isSuffixFlag_iff {c : Char} : WrittenPattern.isSuffixFlag c = true ↔ c ∈ patternFlags :=
  List.contains_iff_mem

theorem knownFlags_eq (flags : String) : knownFlags flags = nativeFlags flags := by
  have htest : isKnownFlag = fun c => decide (c ∈ ['i', 'm', 's', 'x']) := by
    funext c
    rw [Bool.eq_iff_iff, decide_eq_true_eq]
    exact List.contains_iff_mem
  rw [knownFlags, nativeFlags, htest]

/-- A search for a written pattern takes the pattern as it is and drops the flags that the database
does not know. -/
theorem applyOperator_regexp {operand : Value} {written : WrittenPattern}
    (h : splitPattern operand = .ok written) (modifiers : Document) :
    applyOperator "regexp" operand modifiers =
      .ok (.doc [("$regex", .text written.source),
        ("$options", .text (nativeFlags written.flags))]) := by
  have htag : Operator.ofTag? "regexp" = some .regexp := rfl
  rw [← knownFlags_eq]
  simp only [applyOperator, comparison?, membership?, search?, searched?, htag, h]
  rfl

theorem splitPattern_of_writes
    (h : WrittenPattern.Writes source.toList flags.toList text.toList) :
    splitPattern (.text text) = .ok ⟨source, flags⟩ := by
  rw [splitPattern, WrittenPattern.ofChars_of_writes h, String.ofList_toList, String.ofList_toList]

theorem splitPattern_writtenAs (h : WrittenAs source flags text) :
    splitPattern (.text text) = .ok ⟨source, flags⟩ := by
  have hnone : WrittenPattern.IsLineEnd [] := Or.inl rfl
  cases h with
  | enclosed hflags =>
    have hwrites : WrittenPattern.Writes source.toList flags.toList
        ('/' :: source.toList ++ '/' :: (flags.toList ++ [])) :=
      .enclosed (fun c hc => isSmallLetter_iff.mpr (hflags c hc)) hnone
    exact splitPattern_of_writes (by simpa using hwrites)
  | suffixed hsource hset hflags =>
    have hwrites : WrittenPattern.Writes source.toList flags.toList
        (source.toList ++ '/' :: (flags.toList ++ [])) :=
      .suffixed hsource (by simpa using hset) (fun c hc => isSuffixFlag_iff.mpr (hflags c hc)) hnone
    exact splitPattern_of_writes (by simpa using hwrites)
  | bare hslash =>
    rw [splitPattern, WrittenPattern.ofChars_of_not_mem hslash, String.ofList_toList]

/-- A written form is parted into the pattern and the flags it writes, and a search for it is one
for exactly this pattern, with the flags the database knows. -/
theorem split_writtenAs (h : WrittenAs source flags text) (modifiers : Document) :
    splitPattern (.text text) = .ok ⟨source, flags⟩ ∧
      applyOperator "regexp" (.text text) modifiers =
        .ok (.doc [("$regex", .text source), ("$options", .text (nativeFlags flags))]) := by
  have hsplit := splitPattern_writtenAs h
  exact ⟨hsplit, applyOperator_regexp hsplit modifiers⟩

/-- Of a pattern with slashes and lines inside it only the last slash counts. -/
theorem split_writtenAs_lines :
    WrittenAs "a/i\nb/gi" "gxqi" "/a/i\nb/gi/gxqi" ∧
      splitPattern (.text "/a/i\nb/gi/gxqi") = .ok ⟨"a/i\nb/gi", "gxqi"⟩ ∧
      applyOperator "regexp" (.text "/a/i\nb/gi/gxqi") [] =
        .ok (.doc [("$regex", .text "a/i\nb/gi"), ("$options", .text "xi")]) := by
  have hwritten : WrittenAs "a/i\nb/gi" "gxqi" "/a/i\nb/gi/gxqi" :=
    @WrittenAs.enclosed "a/i\nb/gi" "gxqi" (List.all_iff_forall_prop.mp (by decide))
  exact ⟨hwritten, split_writtenAs hwritten []⟩

/-- What is cut off a text as flags is nothing but flags. -/
def CutsOnlyFlags (text : String) : Prop :=
  ∀ written, splitPattern (.text text) = .ok written → written.source ≠ text →
    ∀ c ∈ written.flags.toList, c ∈ patternFlags

/-- The part behind the last slash holds a character that is no flag. -/
def EndsInWord (text : String) : Prop :=
  ∃ path word, text = path ++ "/" ++ word ∧ '/' ∉ word.toList ∧
    ∃ c ∈ word.toList, c ≠ '\n' ∧ c ∉ patternFlags

/-- Such a part is a word of small letters, up to the end of the line, and the text begins with
another slash. -/
def EnclosesWord (text : String) : Prop :=
  ∃ source word lineEnd, text = "/" ++ source ++ "/" ++ word ++ lineEnd ∧
    (lineEnd = "" ∨ lineEnd = "\n") ∧ (∀ c ∈ word.toList, 'a' ≤ c ∧ c ≤ 'z') ∧
    ∃ c ∈ word.toList, c ∉ patternFlags

theorem ne_of_writes (h : WrittenPattern.Writes source.toList flags.toList text.toList) :
    source ≠ text := by
  intro hsame
  exact absurd (hsame ▸ h.length_lt) (Nat.lt_irrefl _)

theorem writes_or_kept (text : String) :
    (∃ source flags : String,
        WrittenPattern.Writes source.toList flags.toList text.toList) ∨
      splitPattern (.text text) = .ok ⟨text, ""⟩ := by
  rcases WrittenPattern.writes_or_whole text.toList with ⟨source, flags, h⟩ | h
  · refine Or.inl ⟨String.ofList source, String.ofList flags, ?_⟩
    rwa [String.toList_ofList, String.toList_ofList]
  · refine Or.inr ?_
    rw [splitPattern, h, String.ofList_toList]

/-- What is cut off holds something besides flags exactly if it is such a word. -/
theorem enclosesWord_iff : EnclosesWord text ↔
    ∃ source flags : String, WrittenPattern.Writes source.toList flags.toList text.toList ∧
      ∃ c ∈ flags.toList, c ∉ patternFlags := by
  constructor
  · intro h
    obtain ⟨source, word, lineEnd, rfl, hend, hsmall, hword⟩ := h
    have hwrites : WrittenPattern.Writes source.toList word.toList
        ('/' :: source.toList ++ '/' :: (word.toList ++ lineEnd.toList)) := by
      refine .enclosed (fun c hc => isSmallLetter_iff.mpr (hsmall c hc)) ?_
      rcases hend with rfl | rfl
      · exact Or.inl rfl
      · exact Or.inr rfl
    exact ⟨source, word, by simpa using hwrites, hword⟩
  · intro h
    obtain ⟨source, flags, hwrites, c, hc, hflag⟩ := h
    generalize hcs : text.toList = cs at hwrites
    cases hwrites with
    | @enclosed lineEnd hsmall hend =>
      refine ⟨source, flags, String.ofList lineEnd, String.toList_injective (by simp [hcs]), ?_,
        fun c hc => isSmallLetter_iff.mp (hsmall c hc), c, hc, hflag⟩
      rcases hend with rfl | rfl
      · exact Or.inl rfl
      · exact Or.inr rfl
    | suffixed _ _ hflags _ => exact absurd (isSuffixFlag_iff.mp (hflags c hc)) hflag

/-- A text that ends in a word encloses it if anything is cut off. -/
theorem enclosesWord_of_endsInWord
    (h : WrittenPattern.Writes source.toList flags.toList text.toList) (hends : EndsInWord text) :
    EnclosesWord text := by
  obtain ⟨path, word, rfl, hslash, c, hc, hline, hflag⟩ := hends
  have hlast : (path ++ "/" ++ word).toList = path.toList ++ '/' :: word.toList := by simp
  obtain ⟨lineEnd, hend, hword⟩ := (hlast ▸ h).flags_behind hslash
  have hcut : c ∈ flags.toList := by
    rw [hword, List.mem_append] at hc
    refine hc.resolve_right fun hc => ?_
    rcases hend with rfl | rfl
    · cases hc
    · exact hline (List.mem_singleton.mp hc)
  exact enclosesWord_iff.mpr ⟨source, flags, h, c, hcut, hflag⟩

/-- Nothing but flags is cut off a text, and a text that ends in a word is kept whole, exactly if
it does not enclose a word of small letters between slashes and its end. -/
theorem cutsOnlyFlags_iff (text : String) :
    (CutsOnlyFlags text ↔ ¬ EnclosesWord text) ∧
      (EndsInWord text →
        (splitPattern (.text text) = .ok ⟨text, ""⟩ ↔ ¬ EnclosesWord text)) := by
  refine ⟨⟨?_, ?_⟩, fun hends => ⟨?_, ?_⟩⟩
  · intro hcuts hencloses
    obtain ⟨source, flags, hwrites, c, hc, hflag⟩ := enclosesWord_iff.mp hencloses
    exact hflag (hcuts _ (splitPattern_of_writes hwrites) (ne_of_writes hwrites) c hc)
  · intro hencloses written hsplit hcut c hc
    by_contra hflag
    rcases writes_or_kept text with ⟨source, flags, hwrites⟩ | hkept
    · rw [splitPattern_of_writes hwrites] at hsplit
      obtain rfl := Except.ok.inj hsplit
      exact hencloses (enclosesWord_iff.mpr ⟨source, flags, hwrites, c, hc, hflag⟩)
    · rw [hkept] at hsplit
      obtain rfl := Except.ok.inj hsplit
      exact hcut rfl
  · intro hkept hencloses
    obtain ⟨source, flags, hwrites, -⟩ := enclosesWord_iff.mp hencloses
    rw [splitPattern_of_writes hwrites] at hkept
    exact ne_of_writes hwrites (congrArg WrittenPattern.source (Except.ok.inj hkept))
  · intro hencloses
    rcases writes_or_kept text with ⟨source, flags, hwrites⟩ | hkept
    · exact absurd (enclosesWord_of_endsInWord hwrites hends) hencloses
    · exact hkept

/-- The path is kept whole without the first slash, and cut with it. -/
theorem cutsOnlyFlags_iff_path :
    EndsInWord "usr/bin" ∧ splitPattern (.text "usr/bin") = .ok ⟨"usr/bin", ""⟩ ∧
      EndsInWord "/usr/bin" ∧ ¬ splitPattern (.text "/usr/bin") = .ok ⟨"/usr/bin", ""⟩ ∧
      ¬ CutsOnlyFlags "/usr/bin" := by
  have hbare : EndsInWord "usr/bin" := ⟨"usr", "bin", rfl, by decide, 'b', by decide⟩
  have hrooted : EndsInWord "/usr/bin" := ⟨"/usr", "bin", rfl, by decide, 'b', by decide⟩
  have hencloses : EnclosesWord "/usr/bin" :=
    ⟨"usr", "bin", "", rfl, Or.inl rfl, List.all_iff_forall_prop.mp (by decide), 'b', by decide⟩
  have hopen : ¬ EnclosesWord "usr/bin" := by
    rintro ⟨source, word, lineEnd, htext, -⟩
    have hfirst := congrArg (fun text => text.toList.head?) htext
    simp at hfirst
  refine ⟨hbare, ((cutsOnlyFlags_iff "usr/bin").2 hbare).mpr hopen, hrooted, ?_, ?_⟩
  · rw [(cutsOnlyFlags_iff "/usr/bin").2 hrooted, not_not]
    exact hencloses
  · rw [(cutsOnlyFlags_iff "/usr/bin").1, not_not]
    exact hencloses

/-- A path loses a last name of small letters. -/
theorem not_cutsOnlyFlags :
    ¬ ∀ text, CutsOnlyFlags text ∧
      (EndsInWord text → splitPattern (.text text) = .ok ⟨text, ""⟩) := by
  intro hall
  have hcuts := (hall "/usr/bin").1 ⟨"usr", "bin"⟩ rfl (by decide) 'b' (by decide)
  exact absurd hcuts (by decide)

end ModelStore.Filter
