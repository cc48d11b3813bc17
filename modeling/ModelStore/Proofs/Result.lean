import ModelStore.Failure
import Mathlib.Data.List.Forall2

/-!
Results taken apart. A sequence of steps succeeds exactly when each step does, and a list is mapped
exactly when each of its elements is.
-/
namespace ModelStore.Result

variable {α β : Type}

theorem bind_eq_ok {x : Result α} {next : α → Result β} {b : β} :
    (x >>= next) = .ok b ↔ ∃ a, x = .ok a ∧ next a = .ok b := by
  cases x <;> simp [bind, Except.bind]

theorem bind_eq_error {x : Result α} {next : α → Result β} {failure : Failure} :
    (x >>= next) = .error failure ↔
      x = .error failure ∨ ∃ a, x = .ok a ∧ next a = .error failure := by
  cases x <;> simp [bind, Except.bind]

theorem map_eq_ok {f : α → β} {x : Result α} {b : β} :
    (f <$> x) = .ok b ↔ ∃ a, x = .ok a ∧ f a = b := by
  cases x <;> simp [Functor.map, Except.map]

theorem map_eq_error {f : α → β} {x : Result α} {failure : Failure} :
    (f <$> x) = .error failure ↔ x = .error failure := by
  cases x <;> simp [Functor.map, Except.map]

theorem map_eq_ok_iff_of_injective {f : α → β} (hf : Function.Injective f) {x : Result α} {a : α} :
    (f <$> x) = .ok (f a) ↔ x = .ok a := by
  rw [map_eq_ok]
  constructor
  · intro h
    obtain ⟨b, rfl, hb⟩ := h
    rw [hf hb]
  · intro h
    exact ⟨a, h, rfl⟩

theorem map_injective {f : α → β} (hf : Function.Injective f) {x y : Result α}
    (h : f <$> x = f <$> y) : x = y := by
  cases x with
  | error failure => cases y <;> simp_all [Functor.map, Except.map]
  | ok a =>
    cases y with
    | error failure => simp [Functor.map, Except.map] at h
    | ok b => rw [hf (Except.ok.inj h)]

/-- Both give the same, or both fail. -/
def Alike (x y : Result α) : Prop := ∀ a, x = .ok a ↔ y = .ok a

theorem alike_ok_left {a : α} {y : Result α} : Alike (.ok a) y ↔ y = .ok a := by
  constructor
  · intro h
    exact (h a).mp rfl
  · intro h b
    rw [h]

theorem alike_error_left {failure : Failure} {y : Result α} :
    Alike (.error failure) y ↔ ∃ other, y = .error other := by
  constructor
  · intro h
    cases y with
    | error other => exact ⟨other, rfl⟩
    | ok a => cases (h a).mpr rfl
  · intro h b
    obtain ⟨other, rfl⟩ := h
    simp

theorem alike_map_iff {f : α → β} (hf : Function.Injective f) {x y : Result α} :
    Alike (f <$> x) (f <$> y) ↔ Alike x y := by
  constructor
  · intro h a
    rw [← map_eq_ok_iff_of_injective hf, h, map_eq_ok_iff_of_injective hf]
  · intro h b
    rw [map_eq_ok, map_eq_ok]
    exact exists_congr fun a => and_congr_left' (h a)

/-- Two sequences with one first step agree if they agree after each of its successes. -/
theorem map_bind_congr {γ : Type} {f : β → γ} {x : Result α} {next : α → Result β}
    {other : α → Result γ} (h : ∀ a, x = .ok a → f <$> next a = other a) :
    f <$> (x >>= next) = x >>= other := by
  cases x with
  | error failure => rfl
  | ok a => exact h a rfl

theorem mapM_eq_ok {f : α → Result β} {as : List α} {bs : List β} :
    as.mapM f = .ok bs ↔ List.Forall₂ (fun a b => f a = .ok b) as bs := by
  induction as generalizing bs with
  | nil => cases bs <;> simp [pure, Except.pure]
  | cons a rest ih =>
    rw [List.mapM_cons, List.forall₂_cons_left_iff, bind_eq_ok]
    constructor
    · intro hmapped
      obtain ⟨b, hb, h⟩ := hmapped
      obtain ⟨tail, htail, h⟩ := bind_eq_ok.mp h
      exact ⟨b, tail, hb, ih.mp htail, (Except.ok.inj h).symm⟩
    · intro hmapped
      obtain ⟨b, tail, hb, htail, rfl⟩ := hmapped
      exact ⟨b, hb, bind_eq_ok.mpr ⟨tail, ih.mpr htail, rfl⟩⟩

theorem mapM_eq_self_iff {f : α → Result α} {as : List α} :
    as.mapM f = .ok as ↔ ∀ a ∈ as, f a = .ok a := by
  rw [mapM_eq_ok, List.forall₂_same]

theorem mapM_congr {f g : α → Result β} {as : List α} (h : ∀ a ∈ as, f a = g a) :
    as.mapM f = as.mapM g := by
  induction as with
  | nil => rfl
  | cons a rest ih =>
    rw [List.mapM_cons, List.mapM_cons, h a List.mem_cons_self,
      ih fun a' ha' => h a' (List.mem_cons_of_mem a ha')]

/-- A list fails to be mapped because one of its elements does. -/
theorem exists_of_mapM_eq_error {f : α → Result β} {as : List α} {failure : Failure}
    (h : as.mapM f = .error failure) : ∃ a ∈ as, f a = .error failure := by
  induction as with
  | nil => simp [pure, Except.pure] at h
  | cons a rest ih =>
    rw [List.mapM_cons, bind_eq_error] at h
    rcases h with ha | ⟨b, -, h⟩
    · exact ⟨a, List.mem_cons_self, ha⟩
    · rcases bind_eq_error.mp h with htail | ⟨tail, -, h⟩
      · obtain ⟨a', hmem, ha'⟩ := ih htail
        exact ⟨a', List.mem_cons_of_mem _ hmem, ha'⟩
      · simp [pure, Except.pure] at h

/-- Partners that agree on a property make their lists agree on having an element with it. -/
theorem exists_mem_iff {R : α → β → Prop} {P : α → Prop} {Q : β → Prop} {as : List α} {bs : List β}
    (h : List.Forall₂ R as bs) (hPQ : ∀ a ∈ as, ∀ b, R a b → (Q b ↔ P a)) :
    (∃ b ∈ bs, Q b) ↔ ∃ a ∈ as, P a := by
  induction h with
  | nil => simp
  | cons hhead _ ih =>
    have hrest := ih fun a ha => hPQ a (List.mem_cons_of_mem _ ha)
    simp only [List.exists_mem_cons_iff, hPQ _ List.mem_cons_self _ hhead, hrest]

theorem exists_mem_zip {R : α → β → Prop} {as : List α} {bs : List β} {a : α}
    (h : List.Forall₂ R as bs) (ha : a ∈ as) : ∃ b, (a, b) ∈ as.zip bs ∧ R a b := by
  induction h with
  | nil => simp at ha
  | @cons first b rest tail hfirst _ ih =>
    rcases List.mem_cons.mp ha with rfl | ha
    · exact ⟨b, List.mem_cons_self, hfirst⟩
    · obtain ⟨b', hzip, hR⟩ := ih ha
      exact ⟨b', List.mem_cons_of_mem _ hzip, hR⟩

theorem exists_of_forall₂ {R : α → β → Prop} {as : List α} {bs : List β} {a : α}
    (h : List.Forall₂ R as bs) (ha : a ∈ as) : ∃ b ∈ bs, R a b := by
  obtain ⟨b, hzip, hR⟩ := exists_mem_zip h ha
  exact ⟨b, (List.of_mem_zip hzip).2, hR⟩

/-- A list can be mapped exactly if each of its elements can. -/
theorem exists_mapM_eq_ok {f : α → Result β} {as : List α} :
    (∃ bs, as.mapM f = .ok bs) ↔ ∀ a ∈ as, ∃ b, f a = .ok b := by
  constructor
  · intro hmapped a ha
    obtain ⟨bs, hbs⟩ := hmapped
    obtain ⟨b, -, hb⟩ := exists_of_forall₂ (mapM_eq_ok.mp hbs) ha
    exact ⟨b, hb⟩
  · intro hall
    cases hmapped : as.mapM f with
    | ok bs => exact ⟨bs, rfl⟩
    | error failure =>
      obtain ⟨a, ha, hfails⟩ := exists_of_mapM_eq_error hmapped
      obtain ⟨b, hb⟩ := hall a ha
      rw [hb] at hfails
      cases hfails

theorem eq_nil_iff_of_forall₂ {R : α → β → Prop} {as : List α} {bs : List β}
    (h : List.Forall₂ R as bs) : bs = [] ↔ as = [] := by
  rw [← List.length_eq_zero_iff, ← List.length_eq_zero_iff, h.length_eq]

/-- Partners that are their own partners make a list its own partner. -/
theorem forall₂_fixed {R : α → α → Prop} {as bs : List α}
    (hR : ∀ a ∈ as, ∀ b, R a b → R b b) (h : List.Forall₂ R as bs) : List.Forall₂ R bs bs := by
  refine List.forall₂_same.mpr fun b hb => ?_
  obtain ⟨a, ha, hab⟩ := exists_of_forall₂ h.flip hb
  exact hR a ha b hab

/-- Where the second list is cut at an element, the first is cut at its partner. -/
theorem forall₂_split {R : α → β → Prop} {as : List α} {before after : List β} {b : β}
    (h : List.Forall₂ R as (before ++ b :: after)) :
    ∃ before' a after', as = before' ++ a :: after' ∧ R a b ∧ List.Forall₂ R after' after := by
  induction before generalizing as with
  | nil =>
    obtain ⟨a, after', hab, hafter, rfl⟩ := List.forall₂_cons_right_iff.mp h
    exact ⟨[], a, after', rfl, hab, hafter⟩
  | cons first before ih =>
    obtain ⟨a, rest, -, hrest, rfl⟩ := List.forall₂_cons_right_iff.mp h
    obtain ⟨before', a', after', rfl, hab, hafter⟩ := ih hrest
    exact ⟨a :: before', a', after', rfl, hab, hafter⟩

end ModelStore.Result
