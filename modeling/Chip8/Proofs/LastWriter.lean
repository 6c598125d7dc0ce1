import Mathlib.Data.List.Induction
/-!
What a run leaves in a part of a state that only some of its steps write: what the last of these has left
there, or what was there at the start if the run has none of them.
-/

namespace Chip8

variable {α β σ : Type} {kind : α → Prop} {history before : List α} {writer : α}

/-- Of all steps of this kind in the history, this one comes last, and these come before it. -/
def LastOf (kind : α → Prop) (history before : List α) (writer : α) : Prop :=
  kind writer ∧ ∃ after, history = before ++ writer :: after ∧ ∀ later ∈ after, ¬kind later

theorem lastOf_concat (history : List α) (isKind : kind writer) :
    LastOf kind (history ++ [writer]) history writer :=
  ⟨isKind, [], rfl, List.forall_mem_nil _⟩

theorem LastOf.concat (last : LastOf kind history before writer) {step : α} (other : ¬kind step) :
    LastOf kind (history ++ [step]) before writer := by
  obtain ⟨isKind, after, rfl, others⟩ := last
  refine ⟨isKind, after ++ [step], by rw [List.append_assoc, List.cons_append], ?_⟩
  intro later listed
  rcases List.mem_append.mp listed with within | final
  · exact others later within
  · rw [List.mem_singleton.mp final]
    exact other

theorem none_or_lastOf (kind : α → Prop) (history : List α) :
    (∀ step ∈ history, ¬kind step) ∨ ∃ before writer, LastOf kind history before writer := by
  -- The last step decides, so the induction is from the end.
  induction history using List.reverseRecOn with
  | nil => exact Or.inl (List.forall_mem_nil _)
  | append_singleton history step ih =>
      by_cases isKind : kind step
      · exact Or.inr ⟨history, step, lastOf_concat history isKind⟩
      · rcases ih with none | ⟨before, writer, last⟩
        · refine Or.inl fun other listed => ?_
          rcases List.mem_append.mp listed with within | final
          · exact none other within
          · rw [List.mem_singleton.mp final]
            exact isKind
        · exact Or.inr ⟨before, writer, last.concat isKind⟩

/-! ### Runs -/

section Runs

variable {next : σ → α → σ} (view : σ → β)

theorem view_foldl_of_spared
    (spares : ∀ state step, ¬kind step → view (next state step) = view state)
    (none : ∀ step ∈ history, ¬kind step) (start : σ) :
    view (history.foldl next start) = view start := by
  induction history generalizing start with
  | nil => rfl
  | cons step rest ih =>
      rw [List.foldl_cons, ih fun later listed => none later (List.mem_cons_of_mem step listed)]
      exact spares start step (none step List.mem_cons_self)

/-- A part that only one kind of step writes is as the last step of this kind has left it. -/
theorem LastOf.view_foldl (last : LastOf kind history before writer)
    (spares : ∀ state step, ¬kind step → view (next state step) = view state) (start : σ) :
    view (history.foldl next start) = view (next (before.foldl next start) writer) := by
  obtain ⟨_, after, rfl, others⟩ := last
  rw [List.foldl_append, List.foldl_cons]
  exact view_foldl_of_spared view spares others _

end Runs

end Chip8
