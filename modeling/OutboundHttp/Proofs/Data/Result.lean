import OutboundHttp.Error

/-!
# Results in sequence

When a sequence of steps that may fail succeeds, and when it fails: the equations by
which such a sequence is taken apart.
-/
namespace OutboundHttp
namespace Result

variable {ε α β γ : Type}

@[simp] theorem ok_bind (a : α) (f : α → Except ε β) : Except.ok a >>= f = f a :=
  rfl

@[simp] theorem bind_eq_ok_iff {x : Except ε α} {f : α → Except ε β} {b : β} :
    x >>= f = .ok b ↔ ∃ a, x = .ok a ∧ f a = .ok b := by
  cases x <;> simp [bind, Except.bind]

@[simp] theorem bind_eq_error_iff {x : Except ε α} {f : α → Except ε β} {e : ε} :
    x >>= f = .error e ↔ x = .error e ∨ ∃ a, x = .ok a ∧ f a = .error e := by
  cases x <;> simp [bind, Except.bind]

@[simp] theorem pure_eq_ok_iff {a a' : α} : (pure a : Except ε α) = .ok a' ↔ a = a' := by
  simp [pure, Except.pure]

@[simp] theorem pure_ne_error {a : α} {e : ε} : (pure a : Except ε α) ≠ .error e :=
  nofun

@[simp] theorem throw_ne_ok {e : ε} {a : α} : (throw e : Except ε α) ≠ .ok a :=
  nofun

@[simp] theorem ofUri_ok (a : α) : HttpError.ofUri (.ok a) = .ok a :=
  rfl

@[simp] theorem ofUri_error (cause : UriError) :
    HttpError.ofUri (.error cause : Except UriError α) = .error (.uri cause) :=
  rfl

@[simp] theorem ofUri_eq_ok_iff {x : Except UriError α} {a : α} :
    HttpError.ofUri x = .ok a ↔ x = .ok a := by
  cases x <;> simp

@[simp] theorem ofUri_eq_error_iff {x : Except UriError α} {e : HttpError} :
    HttpError.ofUri x = .error e ↔ ∃ cause, x = .error cause ∧ e = .uri cause := by
  cases x <;> simp [eq_comm]

/-- Steps that all succeed, one for each element of a list. -/
theorem mapM_map_eq_some {f : β → Option γ} {g : α → β} {h : α → γ} {l : List α}
    (heach : ∀ a ∈ l, f (g a) = some (h a)) : (l.map g).mapM f = some (l.map h) := by
  induction l with
  | nil => rfl
  | cons a l ih =>
    obtain ⟨hfirst, hothers⟩ := List.forall_mem_cons.mp heach
    rw [List.map_cons, List.mapM_cons, hfirst, ih hothers]
    rfl

end Result
end OutboundHttp
