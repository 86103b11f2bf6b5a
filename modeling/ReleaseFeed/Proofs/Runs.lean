import Mathlib.Data.List.Induction

/-! # Runs of a system that takes steps

A system is given by what one step does, and by when the step cannot be taken.  A run is
a list of actions that can be taken one after the other, `actions.foldlM step? s`.  What
is observed along a run is its `history`.  Both grow at the end (`run_concat_iff`,
`history_concat`), so what one step keeps is kept by a run (`run_induction`).
-/
namespace ReleaseFeed.Runs
variable {σ α β : Type} {step? : σ → α → Option σ} {f : σ → α → Option β}
variable {s t : σ} {actions : List α} {a : α}

variable (step? f) in
/-- What is observed along a run, by looking at each action and the state before it. -/
def history : σ → List α → List β
  | _, [] => []
  | s, a :: rest =>
    (f s a).toList ++ match step? s a with
      | none => []
      | some t => history t rest

/-- A longer run is a run and one more step. -/
theorem run_concat_iff : (actions ++ [a]).foldlM step? s = some t ↔
    ∃ m, actions.foldlM step? s = some m ∧ step? m a = some t := by
  rw [List.foldlM_append, Option.bind_eq_bind, Option.bind_eq_some_iff]
  simp only [List.foldlM_cons, List.foldlM_nil, Option.bind_eq_bind, Option.pure_def,
    Option.bind_fun_some]

/-- What the last step adds is what is observed of it. -/
theorem history_concat (h : actions.foldlM step? s = some t) :
    history step? f s (actions ++ [a]) = history step? f s actions ++ (f t a).toList := by
  induction actions generalizing s with
  | nil =>
    cases h
    rw [List.nil_append, history, history]
    cases step? t a with
    | none => exact List.append_nil _
    | some => exact List.append_nil _
  | cons b rest ih =>
    obtain ⟨m, hstep, hrest⟩ := Option.bind_eq_some_iff.mp h
    rw [List.cons_append, history, history, hstep]
    dsimp only
    rw [ih hrest, List.append_assoc]

/-- To observe more coarsely is to look at what was observed. -/
theorem history_map {γ : Type} {g : σ → α → Option γ} (view : β → γ)
    (h : ∀ s a, g s a = (f s a).map view) (s : σ) (actions : List α) :
    history step? g s actions = (history step? f s actions).map view := by
  induction actions generalizing s with
  | nil => rfl
  | cons a rest ih =>
    rw [history, history, List.map_append, h, Option.toList_map]
    cases step? s a with
    | none => rfl
    | some t => exact congrArg _ (ih t)

/-- What holds at the start and is kept by each step holds after every run. -/
theorem run_induction {P : List α → σ → Prop} (start : P [] s)
    (step : ∀ {actions a m t}, actions.foldlM step? s = some m → P actions m →
      step? m a = some t → P (actions ++ [a]) t)
    (h : actions.foldlM step? s = some t) : P actions t := by
  induction actions using List.reverseRecOn generalizing t with
  | nil =>
    cases h
    exact start
  | append_singleton actions a ih =>
    obtain ⟨m, hrun, hstep⟩ := run_concat_iff.mp h
    exact step hrun (ih hrun) hstep

end ReleaseFeed.Runs
