import CodeMarkup.Workspace
/-!
# Runs of attempts

What an attempt gives and leaves, put together from what its steps give and leave. A step that fails ends
the attempt in the workspace that it leaves.
-/

namespace CodeMarkup

variable {α β : Type}

/-- What an attempt gives, and the workspace that it leaves. -/
def outcome (attempt : Attempt α) (workspace : Workspace) : Except Failure α × Workspace :=
  attempt.run.run workspace

/-- What an action gives, and the workspace that it leaves. -/
def effect (action : Action α) (workspace : Workspace) : α × Workspace := action.run workspace

@[simp] theorem outcome_pure (a : α) (workspace : Workspace) :
    outcome (pure a) workspace = (.ok a, workspace) := rfl

@[simp] theorem outcome_throw (failure : Failure) (workspace : Workspace) :
    outcome (throw failure : Attempt α) workspace = (.error failure, workspace) := rfl

@[simp] theorem outcome_get (workspace : Workspace) :
    outcome get workspace = (.ok workspace, workspace) := rfl

@[simp] theorem outcome_ofExcept (result : Except Failure α) (workspace : Workspace) :
    outcome (MonadExcept.ofExcept result) workspace = (result, workspace) := by
  cases result <;> rfl

@[simp] theorem outcome_lift (action : Action α) (workspace : Workspace) :
    outcome (liftM action : Attempt α) workspace = ((effect action workspace).map .ok id) := rfl

theorem outcome_bind (attempt : Attempt α) (next : α → Attempt β) (workspace : Workspace) :
    outcome (attempt >>= next) workspace =
      match outcome attempt workspace with
      | (.ok a, left) => outcome (next a) left
      | (.error failure, left) => (.error failure, left) := by
  rw [outcome, ExceptT.run_bind, StateT.run_bind]
  show _ = match attempt.run.run workspace with
      | (.ok a, left) => outcome (next a) left
      | (.error failure, left) => (.error failure, left)
  generalize attempt.run.run workspace = result
  obtain ⟨result | result, left⟩ := result <;> rfl

/-- Attempts that begin alike and go on alike. -/
theorem outcome_bind_congr {attempt : Attempt α} {next next' : α → Attempt β} {workspace : Workspace}
    (h : ∀ a left, outcome attempt workspace = (.ok a, left) → outcome (next a) left = outcome (next' a) left) :
    outcome (attempt >>= next) workspace = outcome (attempt >>= next') workspace := by
  rw [outcome_bind, outcome_bind]
  generalize outcome attempt workspace = result at h
  obtain ⟨failure | a, left⟩ := result
  · rfl
  · exact h a left rfl

theorem exists_left {attempt : Attempt α} {workspace : Workspace} {result : Except Failure α}
    (h : (outcome attempt workspace).1 = result) : ∃ left, outcome attempt workspace = (result, left) :=
  ⟨_, Prod.ext h rfl⟩

/-- If an attempt gives a result, so did its first step. -/
theorem ok_of_bind {attempt : Attempt α} {next : α → Attempt β} {workspace : Workspace} {b : β}
    (h : (outcome (attempt >>= next) workspace).1 = .ok b) :
    ∃ a left, outcome attempt workspace = (.ok a, left) ∧ (outcome (next a) left).1 = .ok b := by
  rw [outcome_bind] at h
  split at h
  · next a left heq => exact ⟨a, left, heq, h⟩
  · cases h

/-- An attempt gives what its second step gives after the first. -/
theorem outcome_bind_eq_ok_iff {attempt : Attempt α} {next : α → Attempt β} {workspace left : Workspace} {b : β} :
    outcome (attempt >>= next) workspace = (.ok b, left) ↔
      ∃ a middle, outcome attempt workspace = (.ok a, middle) ∧ outcome (next a) middle = (.ok b, left) := by
  rw [outcome_bind]
  constructor
  · intro h
    split at h
    · next a middle heq => exact ⟨a, middle, heq, h⟩
    · cases h
  · rintro ⟨a, middle, heq, h⟩
    rwa [heq]

/-- Attempts in a row give something if the first one does and, where it leaves off, the others do. -/
theorem outcome_mapM_cons_iff {f : α → Attempt β} {a : α} {rest : List α} {results : List β}
    {workspace left : Workspace} :
    outcome ((a :: rest).mapM f) workspace = (.ok results, left) ↔
      ∃ b middle others, outcome (f a) workspace = (.ok b, middle) ∧
        outcome (rest.mapM f) middle = (.ok others, left) ∧ results = b :: others := by
  rw [List.mapM_cons, outcome_bind_eq_ok_iff]
  constructor
  · rintro ⟨b, middle, hfirst, h⟩
    obtain ⟨others, last, hrest, h⟩ := outcome_bind_eq_ok_iff.1 h
    cases h
    exact ⟨b, middle, others, hfirst, hrest, rfl⟩
  · rintro ⟨b, middle, others, hfirst, hrest, rfl⟩
    exact ⟨b, middle, hfirst, outcome_bind_eq_ok_iff.2 ⟨others, left, hrest, rfl⟩⟩

/-- If an attempt fails, either its first step did or what came after it. -/
theorem error_of_bind {attempt : Attempt α} {next : α → Attempt β} {workspace : Workspace} {failure : Failure}
    (h : (outcome (attempt >>= next) workspace).1 = .error failure) :
    (outcome attempt workspace).1 = .error failure ∨
      ∃ a left, outcome attempt workspace = (.ok a, left) ∧ (outcome (next a) left).1 = .error failure := by
  rw [outcome_bind] at h
  split at h
  · next a left heq => exact .inr ⟨a, left, heq, h⟩
  · next other left heq =>
    cases h
    exact .inl (congrArg Prod.fst heq)

theorem outcome_changeFiles (change : Files.Tree → Except Files.Fault Unit × Files.Tree) (workspace : Workspace) :
    outcome (changeFiles change) workspace =
      ((change workspace.files).1.mapError .file, { workspace with files := (change workspace.files).2 }) := by
  rw [changeFiles, outcome_bind, outcome_get]
  simp only
  cases change workspace.files with
  | mk result files => cases result <;> rfl

@[simp] theorem effect_pure (a : α) (workspace : Workspace) : effect (pure a) workspace = (a, workspace) := rfl

@[simp] theorem effect_get (workspace : Workspace) : effect get workspace = (workspace, workspace) := rfl

@[simp] theorem effect_report (notice : Log.Notice) (workspace : Workspace) :
    effect (report notice) workspace = ((), workspace.report notice) := rfl

theorem effect_bind (action : Action α) (next : α → Action β) (workspace : Workspace) :
    effect (action >>= next) workspace =
      effect (next (effect action workspace).1) (effect action workspace).2 := rfl

end CodeMarkup
