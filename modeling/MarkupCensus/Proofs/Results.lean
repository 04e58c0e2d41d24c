namespace MarkupCensus

variable {δ ε α β : Type} {x : Except ε α} {e : ε} {a : α} {b : β}

section Success

theorem exists_ok_of_bind_ok {g : α → Except ε β} (h : x >>= g = .ok b) :
    ∃ a, x = .ok a ∧ g a = .ok b := by
  cases x with
  | error e => simp [bind, Except.bind] at h
  | ok a => exact ⟨a, rfl, h⟩

theorem exists_ok_of_map_ok {g : α → β} (h : x.map g = .ok b) : ∃ a, x = .ok a ∧ g a = b := by
  cases x with
  | error e => cases h
  | ok a => exact ⟨a, rfl, Except.ok.inj h⟩

theorem ok_of_mapError_ok {k : ε → δ} (h : x.mapError k = .ok a) : x = .ok a := by
  cases x with
  | error e => cases h
  | ok a' => rw [Except.ok.inj h]

end Success

section Failure

theorem exists_error_of_bind_error {g : α → Except ε β} (h : x >>= g = .error e) :
    x = .error e ∨ ∃ a, x = .ok a ∧ g a = .error e := by
  cases x with
  | error e' =>
    obtain rfl : e' = e := Except.error.inj h
    exact Or.inl rfl
  | ok a => exact Or.inr ⟨a, rfl, h⟩

theorem error_of_bind_pure_error {g : α → β}
    (h : (x >>= fun a => (pure (g a) : Except ε β)) = .error e) : x = .error e := by
  rcases exists_error_of_bind_error h with h | ⟨a, _, h⟩
  · exact h
  · cases h

theorem exists_error_of_mapError_error {x : Except δ α} {g : α → β} {k : δ → ε}
    (h : (x.map g).mapError k = .error e) : ∃ d, x = .error d ∧ e = k d := by
  cases x with
  | error d => exact ⟨d, rfl, (Except.error.inj h).symm⟩
  | ok a => cases h

/-- A run over a list fails at one of its members. -/
theorem exists_error_of_mapM_error {f : α → Except ε β} {xs : List α} (h : xs.mapM f = .error e) :
    ∃ x ∈ xs, f x = .error e := by
  induction xs with
  | nil => cases h
  | cons x xs ih =>
    rw [List.mapM_cons] at h
    rcases exists_error_of_bind_error h with hx | ⟨y, _, h⟩
    · exact ⟨x, List.mem_cons_self, hx⟩
    · obtain ⟨z, hz, he⟩ := ih (error_of_bind_pure_error h)
      exact ⟨z, List.mem_cons_of_mem x hz, he⟩

theorem exists_error_of_foldlM_error {f : β → α → Except ε β} {xs : List α} {b : β}
    (h : xs.foldlM f b = .error e) : ∃ b', ∃ x ∈ xs, f b' x = .error e := by
  induction xs generalizing b with
  | nil => cases h
  | cons x xs ih =>
    rw [List.foldlM_cons] at h
    rcases exists_error_of_bind_error h with hx | ⟨b', _, h⟩
    · exact ⟨b, x, List.mem_cons_self, hx⟩
    · obtain ⟨b'', z, hz, he⟩ := ih h
      exact ⟨b'', z, List.mem_cons_of_mem x hz, he⟩

end Failure

end MarkupCensus
