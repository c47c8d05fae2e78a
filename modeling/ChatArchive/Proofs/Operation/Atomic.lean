import ChatArchive.Operation.Delete
import ChatArchive.Operation.Export
import ChatArchive.Operation.Fetch
import ChatArchive.Operation.Index
import ChatArchive.Proofs.Operation.Trail

/-!
# Runs are atomic

The store changes only by a merge, and a merge only happens once the work is done.  Along a drive
every poll before the current one has told nothing of an end (`Stage.Heard`), so the result that a
drive ends with is that of the first poll which says that the work is done (`Browser.HandsOver`,
`heard_driveTo`).  What a run comes to is then either that result merged or a failure with the
workspace as it was (`run_cases`).

A task whose merge leaves the store when it fails runs atomically (`Task.RunsAtomically`), and the
four tasks are such (`tasks_run_atomically`).
-/

namespace ChatArchive.Operation

/-! ## Results -/

/-- The polls before the `k`-th have told nothing of an end. -/
def Browser.IsBusyBefore (browser : Browser) (k : Nat) : Prop :=
  ∀ j < k, ∀ earlier, readingOf (browser.poll j).outcome = .state earlier → earlier.done = false

/-- The `k`-th poll is the first that can be read and says that the work is done. -/
structure Browser.FirstDone (browser : Browser) (k : Nat) (state : PollState) : Prop where
  reading : readingOf (browser.poll k).outcome = .state state
  done : state.done = true
  busy_before : browser.IsBusyBefore k

/-- The result is carried by the first poll that says that the work is done. -/
def Browser.HandsOver (browser : Browser) (r : ScriptResult) : Prop :=
  ∃ k state j, browser.FirstDone k state ∧ state.result = some j ∧
    decodeReply ScriptResult.decoder j = .ok r

/-- If also the next poll does not say that the work is done, the browser is busy for longer. -/
theorem Browser.IsBusyBefore.succ {browser : Browser} {k : Nat} (h : browser.IsBusyBefore k)
    (hk : ∀ state, readingOf (browser.poll k).outcome = .state state → state.done = false) :
    browser.IsBusyBefore (k + 1) := by
  intro j hj
  rcases Nat.lt_succ_iff_lt_or_eq.mp hj with hlt | rfl
  · exact h j hlt
  · exact hk

namespace PollState

/-- There is no outcome as long as the work is not done. -/
theorem outcome?_eq_none_iff {s : PollState} : s.outcome? = none ↔ s.done = false := by
  unfold outcome?
  cases s.done <;> cases s.result <;> simp

/-- A state that has a result says that the work is done. -/
theorem outcome?_eq_ok {s : PollState} {r : ScriptResult} (h : s.outcome? = some (.ok r)) :
    s.done = true ∧ ∃ j, s.result = some j ∧ decodeReply ScriptResult.decoder j = .ok r := by
  unfold outcome? at h
  split at h
  · rename_i hdone
    cases hresult : s.result with
    | none => simp [hresult] at h
    | some j =>
      rw [hresult] at h
      exact ⟨hdone, j, rfl, Option.some.inj h⟩
  · simp at h

end PollState

/-! ## What a drive has heard -/

/-- What the polls up to a stage have told. -/
def Stage.Heard (browser : Browser) : Stage → Prop
  | .ticking k _ | .polling k _ => browser.IsBusyBefore k
  | .ended (.ok r) => browser.HandsOver r
  | _ => True

section

variable {α : Type} {setup : Setup} {browser : Browser} {task : Task α}

/-- A step keeps what is known of the answers so far. -/
theorem Stage.Leads.heard {s t : Stage} {attempt : Option Status} {events : List Event}
    (h : s.Leads setup browser task attempt events t) (hs : s.Heard browser) : t.Heard browser := by
  -- only polls are heard of: a stage without a number of polls has nothing to keep
  cases h with
  | injected => exact fun j hj => absurd hj (Nat.not_lt_zero j)
  | ticked => exact hs
  | unreadable h =>
    refine hs.succ fun state hstate => ?_
    rw [h] at hstate
    cases hstate
  | undone h hdone =>
    refine hs.succ fun state hstate => ?_
    rw [h] at hstate
    cases hstate
    exact PollState.outcome?_eq_none_iff.mp hdone
  | @done k next state outcome h hdone =>
    cases outcome with
    | error f => trivial
    | ok r =>
      obtain ⟨hdone, j, hj, hr⟩ := PollState.outcome?_eq_ok hdone
      exact ⟨k, state, j, ⟨h, hdone, hs⟩, hj, hr⟩
  | _ => trivial

variable (setup browser task)

/-- At every end of a drive, what was heard leads up to it. -/
theorem heard_driveTo (limit : Nat) (shown : Progress) :
    (driveTo setup browser task limit shown).stage.Heard browser := by
  refine Drive.advance_invariant setup browser task (P := fun s => s.stage.Heard browser) ?_ limit
    trivial
  intro s h hs
  obtain ⟨attempt, hleads, -⟩ := s.step_leads setup browser task h
  exact hleads.heard hs

/-! ## Runs -/

/-- A run comes to a merge of the result that was handed over, or to a failure that leaves the
workspace. -/
theorem run_cases (cancelAt : Option Nat) (clock : Clock) (shown : Progress) (w : Workspace) :
    (∃ r, browser.HandsOver r ∧ task.merge clock r w =
      ((run setup browser task cancelAt clock shown w).workspace,
        (run setup browser task cancelAt clock shown w).outcome)) ∨
    ∃ f, (run setup browser task cancelAt clock shown w).outcome = .error f ∧
      (run setup browser task cancelAt clock shown w).workspace = w := by
  have hheard := heard_driveTo setup browser task (limit task.timeout.toMillis cancelAt) shown
  rcases run_eq_conclude setup browser task cancelAt clock shown w with
    ⟨outcome, hstage, hrun⟩ | ⟨-, hrun⟩
  · rw [hstage] at hheard
    rw [hrun]
    cases outcome with
    | ok r => exact .inl ⟨r, hheard, rfl⟩
    | error f => exact .inr ⟨f, rfl, rfl⟩
  · rw [hrun]
    exact .inr ⟨_, rfl, rfl⟩

end

/-- A run of the task ends with an error and the store as it was, or with the result that was
handed over merged into the workspace as it was. -/
def Task.RunsAtomically {α : Type} (task : Task α) : Prop :=
  ∀ (setup : Setup) (browser : Browser) (cancelAt : Option Nat) (clock : Clock) (shown : Progress)
    (w : Workspace),
    let e := run setup browser task cancelAt clock shown w
    (∀ f, e.outcome = .error f → e.workspace.store = w.store) ∧
    ∀ a, e.outcome = .ok a →
      ∃ r, browser.HandsOver r ∧ task.merge clock r w = (e.workspace, .ok a)

/-- A task runs atomically if its merge leaves the store when it fails. -/
theorem Task.runsAtomically {α : Type} {task : Task α}
    (h : ∀ clock r w f, (task.merge clock r w).2 = .error f →
      (task.merge clock r w).1.store = w.store) : task.RunsAtomically := by
  intro setup browser cancelAt clock shown w e
  rcases run_cases setup browser task cancelAt clock shown w with
    ⟨r, hover, hmerge⟩ | ⟨f, houtcome, hworkspace⟩
  · constructor
    · intro f hf
      have := h clock r w f (by rw [hmerge]; exact hf)
      rwa [hmerge] at this
    · intro a ha
      exact ⟨r, hover, by rw [hmerge, ← ha]⟩
  · constructor
    · intro f hf
      exact congrArg Workspace.store hworkspace
    · intro a ha
      rw [houtcome] at ha
      cases ha

/-! ## The four tasks -/

/-- A failed merge of pages leaves the store as it was. -/
theorem Fetch.store_merge_of_error {ceiling : Nat} (clock : Clock) {r : ScriptResult}
    {w : Workspace} {f : Failure} (h : (merge ceiling clock r w).2 = .error f) :
    (merge ceiling clock r w).1.store = w.store := by
  unfold merge at *
  cases hdata : r.dataAs decoder with
  | error _ => rfl
  | ok pages => simp [hdata] at h

/-- So does a failed merge of contents. -/
theorem Index.store_merge_of_error {requested limit : Nat} (clock : Clock) {r : ScriptResult}
    {w : Workspace} {f : Failure} (h : (merge requested limit clock r w).2 = .error f) :
    (merge requested limit clock r w).1.store = w.store := by
  unfold merge at *
  cases hdata : r.dataAs decoder with
  | error _ => rfl
  | ok items => simp [hdata] at h

/-- An export leaves the store even if it succeeds. -/
theorem Export.store_merge (target : Files.Path) (clock : Clock) (r : ScriptResult)
    (w : Workspace) : (merge target clock r w).1.store = w.store := by
  unfold merge
  cases r.dataAs decoder <;> rfl

/-- So does a failed merge of deletions. -/
theorem Delete.store_merge_of_error {ids : List String} (clock : Clock) {r : ScriptResult}
    {w : Workspace} {f : Failure} (h : (merge ids clock r w).2 = .error f) :
    (merge ids clock r w).1.store = w.store := by
  unfold merge at *
  cases hdata : r.dataAs decoder with
  | error _ => rfl
  | ok results => simp [hdata] at h

/-- Each of the four tasks runs atomically, whatever the settings. -/
theorem tasks_run_atomically (settings : OperationSettings) (ids : List String)
    (target : Files.Path) :
    (Fetch.task settings).RunsAtomically ∧ (Index.task settings ids).RunsAtomically ∧
      (Export.task settings ids target).RunsAtomically ∧
      (Delete.task settings ids).RunsAtomically := by
  refine ⟨?_, ?_, ?_, ?_⟩ <;> apply Task.runsAtomically <;> intro clock r w f h
  · exact Fetch.store_merge_of_error clock h
  · exact Index.store_merge_of_error clock h
  · exact Export.store_merge target clock r w
  · exact Delete.store_merge_of_error clock h

end ChatArchive.Operation
