import ModelStore.Proofs.Datasource.Continued

/-!
What an act shows. Of the events that are added to the record those of one kind are looked at, in
their order.
-/
namespace ModelStore.Datasource

/-- The record after is that before with events added, of which these are of the kind. -/
def Shows (kind : Event → Bool) (s after : Datasource) (shown : List Event) : Prop :=
  ∃ added, after.events = s.events ++ added ∧ added.filter kind = shown

variable {kind : Event → Bool} {s after last : Datasource} {shown : List Event}

theorem Shows.trans {later : List Event} (h : s.Shows kind after shown)
    (h' : after.Shows kind last later) : s.Shows kind last (shown ++ later) := by
  obtain ⟨added, hafter, rfl⟩ := h
  obtain ⟨added', hlast, rfl⟩ := h'
  exact ⟨added ++ added', by rw [hlast, hafter, List.append_assoc], List.filter_append ..⟩

theorem Extends.shows {P : Event → Prop} (h : s.Extends P after)
    (hP : ∀ e, P e → kind e = false) : s.Shows kind after [] := by
  obtain ⟨added, hevents, hadded⟩ := h
  refine ⟨added, hevents, List.filter_eq_nil_iff.mpr ?_⟩
  intro e he
  simp [hP e (hadded e he)]

/-- What was added determines what is shown. -/
theorem Shows.eq {added : List Event} (h : s.Shows kind after shown)
    (hevents : after.events = s.events ++ added) : added.filter kind = shown := by
  obtain ⟨added', hevents', rfl⟩ := h
  rw [List.append_cancel_left (hevents.symm.trans hevents')]

end ModelStore.Datasource
