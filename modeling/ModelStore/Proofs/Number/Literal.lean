import ModelStore.Proofs.Number.Exact
import Mathlib.Data.List.TakeWhile

/-!
Decimal literals: an optional sign, decimal digits with at most one point among them, and an
optional exponent. A literal is read if and only if it has this form, whatever script its digits are
of, and the decimal that is read has the number that the literal writes.
-/
namespace ModelStore.Number

open Text

/-- A sign or none, and whether it is a minus sign. -/
inductive IsSign : List Char → Bool → Prop
  | none : IsSign [] false
  | plus : IsSign ['+'] false
  | minus : IsSign ['-'] true

def AreDigits (cs : List Char) : Prop := ∀ c ∈ cs, isDecimal c = true

/-- The digits before and after the point; without a point there are none after it. -/
inductive IsMantissa : List Char → List Char → List Char → Prop
  | whole {whole : List Char} : AreDigits whole → whole ≠ [] → IsMantissa whole whole []
  | pointed {whole fraction : List Char} : AreDigits whole → AreDigits fraction →
      whole ++ fraction ≠ [] → IsMantissa (whole ++ '.' :: fraction) whole fraction

/-- The power of ten behind the letter `e`; without one it is zero. -/
inductive IsPower : List Char → Int → Prop
  | none : IsPower [] 0
  | some {mark : Char} {sign digits : List Char} {negative : Bool} : mark = 'e' ∨ mark = 'E' →
      IsSign sign negative → AreDigits digits → digits ≠ [] →
      IsPower (mark :: (sign ++ digits)) (if negative then -(value digits : Int) else value digits)

/-- A decimal literal and the number that it writes. -/
inductive Writes : List Char → ℚ → Prop
  | intro {sign mantissa whole fraction tail : List Char} {negative : Bool} {power : Int} :
      IsSign sign negative → IsMantissa mantissa whole fraction → IsPower tail power →
      Writes (sign ++ mantissa ++ tail)
        ((if negative then -1 else 1) *
          ((value whole + value fraction / 10 ^ fraction.length) * 10 ^ power))

section Digits

theorem valueFrom_append (start : Nat) (cs ds : List Char) :
    valueFrom start (cs ++ ds) = valueFrom (valueFrom start cs) ds := by
  induction cs generalizing start with
  | nil => rfl
  | cons c rest ih => exact ih _

theorem valueFrom_eq (start : Nat) (cs : List Char) :
    valueFrom start cs = start * 10 ^ cs.length + value cs := by
  induction cs generalizing start with
  | nil => simp [valueFrom, value]
  | cons c rest ih =>
    rw [value, valueFrom, valueFrom, ih, ih (10 * 0 + _), List.length_cons]
    ring

theorem value_append (cs ds : List Char) :
    value (cs ++ ds) = value cs * 10 ^ ds.length + value ds := by
  rw [value, valueFrom_append, valueFrom_eq]
  rfl

/-- The digits on both sides of a point, taken together and apart. -/
theorem rational_append (negative : Bool) (whole fraction : List Char) (power : Int) :
    rational negative (value (whole ++ fraction)) (power - fraction.length) =
      (if negative then -1 else 1) *
        ((value whole + value fraction / 10 ^ fraction.length) * 10 ^ power) := by
  rw [rational, value_append, zpow_sub₀ (by norm_num), zpow_natCast]
  push_cast
  field_simp

end Digits

section Reading

variable {sign digits rest tail cs : List Char} {negative : Bool} {power : Int}

theorem exists_isSign (cs : List Char) :
    ∃ sign, IsSign sign (readSign cs).1 ∧ cs = sign ++ (readSign cs).2 := by
  unfold readSign
  split
  · exact ⟨['-'], .minus, rfl⟩
  · exact ⟨['+'], .plus, rfl⟩
  · exact ⟨[], .none, rfl⟩

/-- A sign is read where none follows it. -/
theorem readSign_append (hsign : IsSign sign negative)
    (hrest : ∀ c ∈ rest.head?, c ≠ '-' ∧ c ≠ '+') : readSign (sign ++ rest) = (negative, rest) := by
  cases hsign with
  | none =>
    cases rest with
    | nil => rfl
    | cons c rest =>
      obtain ⟨hminus, hplus⟩ := hrest c rfl
      rw [List.nil_append, readSign]
      · intro _ h
        exact hminus (List.cons.inj h).1
      · intro _ h
        exact hplus (List.cons.inj h).1
  | plus => rfl
  | minus => rfl

theorem ne_sign_of_isDecimal {c : Char} (h : isDecimal c = true) : c ≠ '-' ∧ c ≠ '+' := by
  constructor
  · rintro rfl
    exact absurd h (by decide)
  · rintro rfl
    exact absurd h (by decide)

theorem AreDigits.head (h : AreDigits cs) : ∀ c ∈ cs.head?, isDecimal c = true :=
  fun c hc => h c (List.mem_of_head? hc)

theorem areDigits_takeWhile (cs : List Char) : AreDigits (cs.takeWhile isDecimal) :=
  fun _ hc => List.mem_takeWhile_imp hc

/-- Digits are read up to what is no digit. -/
theorem span_digits (hdigits : AreDigits digits)
    (hrest : ∀ c ∈ rest.head?, isDecimal c = false) :
    (digits ++ rest).takeWhile isDecimal = digits ∧
      (digits ++ rest).dropWhile isDecimal = rest := by
  have hstop : rest.takeWhile isDecimal = [] ∧ rest.dropWhile isDecimal = rest := by
    cases rest with
    | nil => exact ⟨rfl, rfl⟩
    | cons c rest => simp [hrest c rfl]
  rw [List.takeWhile_append_of_pos hdigits, List.dropWhile_append_of_pos hdigits, hstop.1, hstop.2]
  exact ⟨List.append_nil digits, rfl⟩

theorem readExponent?_eq_some_iff :
    Decimal.readExponent? tail = some power ↔ IsPower tail power := by
  constructor
  · intro h
    cases tail with
    | nil =>
      obtain rfl := Option.some.inj h
      exact .none
    | cons mark rest =>
      obtain ⟨sign, hsign, hrest⟩ := exists_isSign rest
      rw [Decimal.readExponent?] at h
      split at h
      · rename_i hmark
        dsimp only at h
        split at h
        · rename_i hdigits
          obtain ⟨hne, hall⟩ : (readSign rest).2 ≠ [] ∧ AreDigits (readSign rest).2 := by
            simpa [AreDigits] using hdigits
          rw [hrest, ← Option.some.inj h]
          exact .some hmark hsign hall hne
        · cases h
      · cases h
  · intro h
    cases h with
    | none => rfl
    | @some mark sign digits negative hmark hsign hall hne =>
      have hread := readSign_append hsign fun c hc => ne_sign_of_isDecimal (hall.head c hc)
      have hdigits : (!digits.isEmpty && digits.all isDecimal) = true := by
        simpa [AreDigits] using And.intro hne hall
      rw [Decimal.readExponent?, if_pos hmark, hread]
      exact if_pos hdigits

theorem IsPower.head (h : IsPower tail power) :
    ∀ c ∈ tail.head?, isDecimal c = false ∧ c ≠ '.' := by
  cases h with
  | none => simp
  | some hmark =>
    intro c hc
    obtain rfl := Option.some.inj hc
    rcases hmark with rfl | rfl <;> exact ⟨by decide, by decide⟩

theorem IsMantissa.head {mantissa whole fraction : List Char}
    (h : IsMantissa mantissa whole fraction) (tail : List Char) :
    ∀ c ∈ (mantissa ++ tail).head?, isDecimal c = true ∨ c = '.' := by
  intro c hc
  cases h with
  | whole hdigits hne =>
    rw [List.head?_append_of_ne_nil _ hne] at hc
    exact Or.inl (hdigits.head c hc)
  | @pointed whole fraction hwhole =>
    cases whole with
    | nil => exact Or.inr (Option.some.inj hc).symm
    | cons first rest => exact Or.inl (hwhole.head c hc)

/-- A mantissa is read up to the exponent, and the digits on both sides of its point are told
apart. -/
theorem ofNumeral?_append {sign mantissa whole fraction : List Char} (hsign : IsSign sign negative)
    (hmantissa : IsMantissa mantissa whole fraction) (hpower : IsPower tail power) :
    Decimal.ofNumeral? (sign ++ mantissa ++ tail) =
      some (.finite negative (value (whole ++ fraction)) (power - fraction.length)) := by
  have hread : readSign (sign ++ (mantissa ++ tail)) = (negative, mantissa ++ tail) := by
    refine readSign_append hsign fun c hc => ?_
    rcases hmantissa.head tail c hc with hdigit | rfl
    · exact ne_sign_of_isDecimal hdigit
    · decide
  have hexponent := readExponent?_eq_some_iff.mpr hpower
  have hstop : ∀ c ∈ tail.head?, isDecimal c = false := fun c hc => (hpower.head c hc).1
  rw [List.append_assoc, Decimal.ofNumeral?, hread]
  cases hmantissa with
  | whole hdigits hne =>
    obtain ⟨htake, hdrop⟩ := span_digits hdigits hstop
    dsimp only
    rw [htake, hdrop]
    split
    · exact absurd rfl (hpower.head '.' rfl).2
    · simp [hne, hexponent]
  | @pointed whole fraction hwhole hfraction hne =>
    have hpoint : ∀ c ∈ ('.' :: (fraction ++ tail)).head?, isDecimal c = false := by
      rintro c ⟨⟩
      decide
    obtain ⟨htake, hdrop⟩ := span_digits hwhole hpoint
    obtain ⟨htake', hdrop'⟩ := span_digits hfraction hstop
    have hset : ¬ (whole.isEmpty && fraction.isEmpty) = true := by simpa using hne
    simp only [List.append_assoc, List.cons_append, htake, hdrop, htake', hdrop', hexponent]
    rw [if_neg hset]
    rfl

def fractionOf : List Char → List Char × List Char
  | '.' :: rest => (rest.takeWhile isDecimal, rest.dropWhile isDecimal)
  | rest => ([], rest)

theorem ofNumeral?_eq (cs : List Char) :
    Decimal.ofNumeral? cs =
      let unsigned := (readSign cs).2
      let whole := unsigned.takeWhile isDecimal
      let (fraction, tail) := fractionOf (unsigned.dropWhile isDecimal)
      if whole.isEmpty && fraction.isEmpty then none
      else (Decimal.readExponent? tail).map fun power =>
        .finite (readSign cs).1 (value (whole ++ fraction)) (power - fraction.length) := rfl

/-- Digits, and those behind a point, are a mantissa unless there are none. -/
theorem exists_isMantissa {whole fraction : List Char} (hwhole : AreDigits whole)
    (h : fractionOf rest = (fraction, tail)) (hset : ¬ (whole.isEmpty && fraction.isEmpty) = true) :
    ∃ mantissa, IsMantissa mantissa whole fraction ∧ whole ++ rest = mantissa ++ tail := by
  have hne : whole ++ fraction ≠ [] := by simpa using hset
  unfold fractionOf at h
  split at h
  · rename_i rest
    obtain ⟨rfl, rfl⟩ := Prod.mk.inj h
    refine ⟨_, .pointed hwhole (areDigits_takeWhile rest) hne, ?_⟩
    rw [List.append_assoc, List.cons_append, List.takeWhile_append_dropWhile]
  · obtain ⟨rfl, rfl⟩ := Prod.mk.inj h
    exact ⟨whole, .whole hwhole (by simpa using hne), rfl⟩

/-- What is read is a literal: a finite decimal of the number that it writes. -/
theorem writes_of_ofNumeral? {d : Decimal} (h : Decimal.ofNumeral? cs = some d) :
    ∃ negative c e, d = .finite negative c e ∧ Writes cs (rational negative c e) := by
  obtain ⟨sign, hsign, hcs⟩ := exists_isSign cs
  rw [ofNumeral?_eq] at h
  generalize readSign cs = read at h hsign hcs
  dsimp only at h
  split at h
  · cases h
  · rename_i hset
    obtain ⟨power, hpower, rfl⟩ := Option.map_eq_some_iff.mp h
    obtain ⟨mantissa, hmantissa, hsplit⟩ :=
      exists_isMantissa (areDigits_takeWhile _) Prod.mk.eta.symm hset
    have hwrites := Writes.intro hsign hmantissa (readExponent?_eq_some_iff.mp hpower)
    rw [List.takeWhile_append_dropWhile] at hsplit
    rw [List.append_assoc, ← hsplit, ← hcs, ← rational_append] at hwrites
    exact ⟨_, _, _, rfl, hwrites⟩

/-- A literal is read as a decimal of the number that it writes, and nothing else is read. -/
theorem writes_iff {q : ℚ} :
    Writes cs q ↔ ∃ negative c e, Decimal.ofNumeral? cs = some (.finite negative c e) ∧
      rational negative c e = q := by
  constructor
  · rintro ⟨hsign, hmantissa, hpower⟩
    exact ⟨_, _, _, ofNumeral?_append hsign hmantissa hpower, rational_append ..⟩
  · rintro ⟨negative, c, e, hread, rfl⟩
    obtain ⟨_, _, _, hd, hwrites⟩ := writes_of_ofNumeral? hread
    obtain ⟨rfl, rfl, rfl⟩ := Decimal.finite.inj hd
    exact hwrites

end Reading
end ModelStore.Number
