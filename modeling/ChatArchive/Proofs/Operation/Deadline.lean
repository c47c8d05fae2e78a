import ChatArchive.Operation.Fetch
import ChatArchive.Proofs.Operation.Trail

/-!
# Cancels and deadlines

Left to itself, a drive is over at some time with some outcome, or never (`Drive.Returns`). A run is
a race of that with a cancel and the deadline: a drive that is cut off at a limit is over exactly if
it is over by itself before the limit, at the same time and with the same outcome
(`Drive.ended_of_returns`, `Drive.returns_of_ended`).  What comes first decides the run, and in any
case it is decided by the deadline (`race_of_perform`).
-/

namespace ChatArchive.Operation

variable {α : Type} (setup : Setup) (browser : Browser) (task : Task α)

namespace Drive

/-! ## Drives left to themselves -/

/-- Left to itself, the drive is over at a time, with an outcome. -/
inductive Returns : Drive → Nat → Except Failure ScriptResult → Prop where
  | done {s : Drive} {outcome : Except Failure ScriptResult} (h : s.stage = .ended outcome) :
      Returns s s.time outcome
  | step {s : Drive} {t : Nat} {outcome : Except Failure ScriptResult}
      (h : s.stage.isOver = false) (hreturns : Returns (s.step setup browser task) t outcome) :
      Returns s t outcome

section

variable {setup browser task} {s : Drive} {t : Nat} {outcome : Except Failure ScriptResult}

/-- Time does not go back in a step. -/
theorem time_le_step (h : s.stage.isOver = false) : s.time ≤ (s.step setup browser task).time := by
  rcases s.step_lt setup browser task h with hlt | ⟨heq, -⟩
  · exact Nat.le_of_lt hlt
  · exact Nat.le_of_eq heq.symm

/-- The step that ends a drive takes no time. -/
theorem time_step_of_ended (h : s.stage.isOver = false)
    (hended : (s.step setup browser task).stage = .ended outcome) :
    (s.step setup browser task).time = s.time := by
  obtain ⟨time, stage, progress, isOpen, calls⟩ := s
  cases stage with
  | beginning | pausing _ _ | settling | ticking _ _ => cases hended
  | launching | navigating =>
    simp only [step] at hended
    split at hended <;> cases hended
  | asking k asked =>
    simp only [step, takeAddress] at hended ⊢
    split at hended <;> first | rfl | cases hended
  | readingCookie =>
    simp only [step, takeCookie] at hended ⊢
    split at hended
    · rfl
    · split at hended
      · rfl
      · split at hended
        · rfl
        · cases hended
  | injecting =>
    simp only [step] at hended ⊢
    split at hended
    · rfl
    · cases hended
  | polling k next =>
    simp only [step, takePoll] at hended ⊢
    split at hended
    · rfl
    · cases hended
    · split at hended
      · rfl
      · cases hended
  | stalled | ended _ => cases h

/-- A drive is not over before the time it is at. -/
theorem Returns.time_le (h : s.Returns setup browser task t outcome) : s.time ≤ t := by
  induction h with
  | done h => exact Nat.le_refl _
  | step h hreturns ih => exact Nat.le_trans (time_le_step h) ih

/-- A drive is over at one time only, and with one outcome. -/
theorem Returns.unique {t' : Nat} {outcome' : Except Failure ScriptResult}
    (h : s.Returns setup browser task t outcome) (h' : s.Returns setup browser task t' outcome') :
    t = t' ∧ outcome = outcome' := by
  induction h with
  | done hs =>
    cases h' with
    | done hs' => exact ⟨rfl, Stage.ended.inj (hs.symm.trans hs')⟩
    | step hs' => rw [hs] at hs'; cases hs'
  | step hs _ ih =>
    cases h' with
    | done hs' => rw [hs'] at hs; cases hs
    | step _ hreturns => exact ih hreturns

/-! ## Drives with a limit -/

/-- A drive that is over by itself before the limit is over in just that way. -/
theorem ended_of_returns (h : s.Returns setup browser task t outcome) {limit : Nat}
    (ht : t < limit) :
    (s.advance setup browser task limit).stage = .ended outcome ∧
      (s.advance setup browser task limit).time = t := by
  induction h with
  | done hs =>
    rw [advance_of_not_lt (by simp [hs, Stage.isOver])]
    exact ⟨hs, rfl⟩
  | step hs hreturns ih =>
    have hlt := Nat.lt_of_le_of_lt (Nat.le_trans (time_le_step hs) hreturns.time_le) ht
    rw [advance_of_lt ⟨hs, hlt⟩]
    exact ih ht

/-- A drive that is over within the limit is so before it, and by itself. -/
theorem returns_of_ended {limit : Nat} (hs : s.stage.isOver = false)
    (h : (s.advance setup browser task limit).stage = .ended outcome) :
    s.Returns setup browser task (s.advance setup browser task limit).time outcome ∧
      (s.advance setup browser task limit).time < limit := by
  induction s using advance.induct setup browser task limit with
  | case1 s hlt ih =>
    rw [advance_of_lt hlt] at h ⊢
    cases hover : (s.step setup browser task).stage.isOver with
    | false =>
      obtain ⟨hreturns, htime⟩ := ih hover h
      exact ⟨.step hs hreturns, htime⟩
    | true =>
      rw [advance_of_not_lt (by simp [hover])] at h ⊢
      exact ⟨.step hs (.done h), (time_step_of_ended hs h).symm ▸ hlt.2⟩
  | case2 s hnot =>
    rw [advance_of_not_lt hnot] at h
    rw [h] at hs
    cases hs

end

end Drive

/-! ## Runs -/

/-- The limit of a run comes no later than its deadline. -/
theorem limit_le_deadline (deadline : Nat) (cancelAt : Option Nat) :
    limit deadline cancelAt ≤ deadline := by
  cases cancelAt with
  | none => exact Nat.le_refl _
  | some c => exact Nat.min_le_right c deadline

/-- What comes before the deadline and before a cancel comes before the limit. -/
theorem lt_limit {t deadline : Nat} {cancelAt : Option Nat} (hdeadline : t < deadline)
    (hcancel : ∀ c, cancelAt = some c → t < c) : t < limit deadline cancelAt := by
  cases cancelAt with
  | none => exact hdeadline
  | some c => exact Nat.lt_min.mpr ⟨hcancel c rfl, hdeadline⟩

/-- A run ends with its drive if that is over by itself before the limit. -/
theorem run_of_returns {cancelAt : Option Nat} {clock : Clock} {shown : Progress} {w : Workspace}
    {t : Nat} {outcome : Except Failure ScriptResult}
    (h : (Drive.start shown).Returns setup browser task t outcome)
    (ht : t < limit task.timeout.toMillis cancelAt) :
    let e := run setup browser task cancelAt clock shown w
    e.time = t ∧ (e.workspace, e.outcome) = settle task clock outcome w := by
  intro e
  obtain ⟨hstage, htime⟩ := Drive.ended_of_returns h ht
  rcases run_eq_conclude setup browser task cancelAt clock shown w with
    ⟨outcome', hstage', hrun⟩ | ⟨hnot, -⟩
  · obtain rfl : outcome' = outcome := Stage.ended.inj (hstage'.symm.trans hstage)
    simp only [e, hrun]
    exact ⟨htime, rfl⟩
  · exact absurd hstage (hnot outcome)

/-- A run is cut off at the limit if its drive is not over by itself before. -/
theorem run_of_not_returns {cancelAt : Option Nat} (clock : Clock) {shown : Progress}
    (w : Workspace)
    (h : ∀ t outcome, (Drive.start shown).Returns setup browser task t outcome →
      limit task.timeout.toMillis cancelAt ≤ t) :
    let e := run setup browser task cancelAt clock shown w
    e.time = limit task.timeout.toMillis cancelAt ∧
      e.outcome = .error (cutOff task.timeout cancelAt) := by
  intro e
  rcases run_eq_conclude setup browser task cancelAt clock shown w with
    ⟨outcome, hstage, -⟩ | ⟨-, hrun⟩
  · obtain ⟨hreturns, hlt⟩ := Drive.returns_of_ended rfl hstage
    exact absurd hlt (Nat.not_lt_of_le (h _ _ hreturns))
  · simp only [e, hrun]
    exact ⟨rfl, rfl⟩

/-- A run is decided by what comes first: a cancel that comes before the deadline and before its
drive is over by itself, the deadline if it comes before a cancel and no later than that, or the
drive.  In any case it is decided by the deadline. -/
theorem race_of_perform {start : Span} (h : task.timeout.isReachable start = true)
    (owner : Option String) (cancelAt : Option Nat) (clock : Clock) (w : Workspace) :
    ∃ e, perform setup browser task owner cancelAt clock w start = some e ∧
      let drive := Drive.start (task.prepare owner)
      let deadline := task.timeout.toMillis
      (∀ c, cancelAt = some c → c < deadline →
        (∀ t outcome, drive.Returns setup browser task t outcome → c < t) →
          e.time = c ∧ e.outcome = .error .cancelled) ∧
      ((∀ t outcome, drive.Returns setup browser task t outcome → deadline ≤ t) →
        (∀ c, cancelAt = some c → deadline < c) →
          e.time = deadline ∧ e.outcome = .error (.timedOut task.timeout)) ∧
      (∀ t outcome, drive.Returns setup browser task t outcome → t < deadline →
        (∀ c, cancelAt = some c → t < c) →
          e.time = t ∧ (e.workspace, e.outcome) = settle task clock outcome w) ∧
      e.time ≤ deadline := by
  refine ⟨run setup browser task cancelAt clock (task.prepare owner) w, if_pos h, ?_⟩
  intro drive deadline
  refine ⟨?_, ?_, ?_, ?_⟩
  · rintro c rfl hc hreturns
    have hlimit : limit task.timeout.toMillis (some c) = c := Nat.min_eq_left (Nat.le_of_lt hc)
    have hcut : cutOff task.timeout (some c) = .cancelled := if_pos (Nat.le_of_lt hc)
    have hrun := run_of_not_returns setup browser task clock w
      fun t outcome ht => hlimit.symm ▸ Nat.le_of_lt (hreturns t outcome ht)
    rwa [hlimit, hcut] at hrun
  · intro hreturns hcancel
    have hlimit : limit task.timeout.toMillis cancelAt = deadline := by
      cases cancelAt with
      | none => rfl
      | some c => exact Nat.min_eq_right (Nat.le_of_lt (hcancel c rfl))
    have hcut : cutOff task.timeout cancelAt = .timedOut task.timeout := by
      cases cancelAt with
      | none => rfl
      | some c => exact if_neg (Nat.not_le_of_lt (hcancel c rfl))
    have hrun := run_of_not_returns setup browser task clock w
      fun t outcome ht => hlimit.symm ▸ hreturns t outcome ht
    rwa [hlimit, hcut] at hrun
  · intro t outcome ht hdeadline hcancel
    exact run_of_returns setup browser task ht (lt_limit hdeadline hcancel)
  · rcases run_eq_conclude setup browser task cancelAt clock (task.prepare owner) w with
      ⟨outcome, hstage, hrun⟩ | ⟨-, hrun⟩
    · have hlt := (Drive.returns_of_ended rfl hstage).2
      rw [hrun]
      exact Nat.le_trans (Nat.le_of_lt hlt) (limit_le_deadline _ _)
    · rw [hrun]
      exact limit_le_deadline _ _

/-- A run whose browser cannot be opened is never over by itself, and is decided by a cancel. -/
theorem race_after_failed_launch :
    let setup : Setup :=
      { profileDir := "/profile", entry := ⟨"https", none, .segments ["recents"], none, none⟩,
        readyPrefix := "/recents", apiBase := "", organizationCookie := "org", pollMillis := 250,
        settleMillis := 1500, pollMillis_ge := by decide }
    let browser : Browser :=
      { launch := ⟨2, .error (.launch "no display")⟩, navigate := ⟨0, .ok ()⟩,
        address := fun _ => ⟨0, .error .closed⟩, cookie := ⟨0, .ok none⟩, inject := ⟨0, .ok ()⟩,
        poll := fun _ => ⟨0, .ok .null⟩ }
    let task := Fetch.task .default
    let clock : Clock := fun _ => Timestamp.epoch
    let start : Span := ⟨86400, 999999999⟩
    task.timeout.isReachable start = true ∧
      ∃ e, perform setup browser task none (some 5) clock ⟨.empty, ⟨[], []⟩⟩ start = some e ∧
        e.time = 5 ∧ e.outcome = .error .cancelled ∧ e.time ≤ 300000 := by
  intro setup browser task clock start
  have hreachable : task.timeout.isReachable start = true := by decide
  obtain ⟨e, he, hcancel, -, -, hdeadline⟩ :=
    race_of_perform setup browser task hreachable none (some 5) clock ⟨.empty, ⟨[], []⟩⟩
  have hnever : ∀ t outcome,
      ¬ (Drive.start (task.prepare none)).Returns setup browser task t outcome := by
    intro t outcome hreturns
    -- the drive begins, waits for the session, and then stands still
    cases hreturns with
    | done h => cases h
    | step _ hreturns =>
      cases hreturns with
      | done h => cases h
      | step _ hreturns =>
        cases hreturns with
        | done h => cases h
        | step h => cases h
  obtain ⟨htime, houtcome⟩ :=
    hcancel 5 rfl (by decide) fun t outcome h => absurd h (hnever t outcome)
  exact ⟨hreachable, e, he, htime, houtcome, Nat.le_trans hdeadline (by decide)⟩

end ChatArchive.Operation
