import ChatArchive.Operation.Run

/-!
# Trails of drives

`Stage.Leads` says once where a drive can go from each stage: what the browser or the task has to
answer for that, the status that the drive attempts on the way, and what happens there.
`Drive.step_leads` is the inversion of `Drive.step` into it, so that what a step keeps is shown by
cases of `Stage.Leads`.

What happens are calls of the browser, which the drive notes (`Drive.calls_step`), and questions to
the task, of which `Drive.asks?` names the only one that a step can have (`Drive.step_congr`).

A run is steps up to the limit.  `Drive.advance_invariant` carries an invariant of steps to its end,
and `Drive.trail` lists the drives on the way there.
-/

namespace ChatArchive.Operation

variable {α : Type} (setup : Setup) (browser : Browser) (task : Task α)

/-! ## Events -/

/-- What happens in a run: the browser is called, or the task. -/
inductive Event where
  | call (action : Action)
  /-- The task is asked for its script. -/
  | script (context : ReadyContext)
  /-- The task merges a result. -/
  | merge (r : ScriptResult)

/-- The call of the browser that an event is, if it is one. -/
def Event.action? : Event → Option Action
  | call action => some action
  | script _ | merge _ => none

namespace Drive

/-- The context in which the next step asks the task for its script. -/
def asks? (s : Drive) : Option ReadyContext :=
  match s.stage, browser.cookie.outcome with
  | .readingCookie, .ok value => (value.filter (· != "")).map (⟨·, setup.apiBase⟩)
  | _, _ => none

/-- What happens in the next step: the task is asked, and then the browser is called.  The calls
are those that would be noted if none had been noted before. -/
def happens (s : Drive) : List Event :=
  let next := ({ s with calls := [] } : Drive).step setup browser task
  (s.asks? setup browser).toList.map .script ++ next.calls.reverse.map (.call ·.action)

end Drive

/-! ## Steps -/

/-- The status after what a step attempts, if it attempts anything. -/
def Status.attempt (s : Status) : Option Status → Status
  | some next => s.goTo next
  | none => s

/-- A drive can go from one stage to another, with an attempt to go on to a status, while some
events happen. -/
inductive Stage.Leads : Stage → Option Status → List Event → Stage → Prop where
  | begun : Leads .beginning none [.call (.launch setup.profileDir)] .launching
  | unlaunched {fault} (h : browser.launch.outcome = .error fault) :
      Leads .launching none [] .stalled
  | launched (h : browser.launch.outcome = .ok ()) :
      Leads .launching (some .awaitingReady) [.call (.navigate setup.entry)] .navigating
  | lost {fault} (h : browser.navigate.outcome = .error fault) : Leads .navigating none [] .stalled
  | navigated (h : browser.navigate.outcome = .ok ()) :
      Leads .navigating none [.call .readAddress] (.asking 0 false)
  | ready {k asked} (h : setup.sight (browser.address k).outcome = .ready) :
      Leads (.asking k asked) none [] .settling
  | elsewhere {k asked} (h : setup.sight (browser.address k).outcome = .elsewhere) :
      Leads (.asking k asked) none [] (.pausing k true)
  | unseen {k asked} (h : setup.sight (browser.address k).outcome = .unreadable) :
      Leads (.asking k asked) none [] (.pausing k asked)
  | gone {k asked} (h : setup.sight (browser.address k).outcome = .closed) :
      Leads (.asking k asked) none [] (.ended (.error (.session .closed)))
  | again {k asked} : Leads (.pausing k asked) none [.call .readAddress] (.asking (k + 1) asked)
  | settled :
      Leads .settling (some .running) [.call (.readCookie setup.organizationCookie)] .readingCookie
  | unread {fault} (h : browser.cookie.outcome = .error fault) :
      Leads .readingCookie none [] (.ended (.error (.session fault)))
  | unnamed {value} (h : browser.cookie.outcome = .ok value) (hv : value.filter (· != "") = none) :
      Leads .readingCookie none [] (.ended (.error .noOrganization))
  | unscripted {value organization f} (h : browser.cookie.outcome = .ok value)
      (hv : value.filter (· != "") = some organization)
      (hs : task.script ⟨organization, setup.apiBase⟩ = .error f) :
      Leads .readingCookie none [.script ⟨organization, setup.apiBase⟩] (.ended (.error f))
  | scripted {value organization script} (h : browser.cookie.outcome = .ok value)
      (hv : value.filter (· != "") = some organization)
      (hs : task.script ⟨organization, setup.apiBase⟩ = .ok script) :
      Leads .readingCookie none
        [.script ⟨organization, setup.apiBase⟩, .call (.inject script)] .injecting
  | refused {fault} (h : browser.inject.outcome = .error fault) :
      Leads .injecting none [] (.ended (.error (.injection fault.message)))
  | injected (due : Nat) (h : browser.inject.outcome = .ok ()) :
      Leads .injecting none [] (.ticking 0 due)
  | ticked {k due} (next : Nat) : Leads (.ticking k due) none [.call .poll] (.polling k next)
  | closed {k next} (h : readingOf (browser.poll k).outcome = .closed) :
      Leads (.polling k next) none [] (.ended (.error (.session .closed)))
  | unreadable {k next} (h : readingOf (browser.poll k).outcome = .unreadable) :
      Leads (.polling k next) none [] (.ticking (k + 1) next)
  | done {k next state outcome} (h : readingOf (browser.poll k).outcome = .state state)
      (hdone : state.outcome? = some outcome) : Leads (.polling k next) none [] (.ended outcome)
  | undone {k next state} (h : readingOf (browser.poll k).outcome = .state state)
      (hdone : state.outcome? = none) : Leads (.polling k next) none [] (.ticking (k + 1) next)

/-- Does a session have to be open for a drive to come to a stage?  The first such stage is that at
which the entry page is opened. -/
def Stage.opens : Stage → Bool
  | .navigating => true
  | _ => false

/-- A greater reading is shown, with its text. -/
theorem Progress.observe_of_lt {p : Progress} {reading : Nat} (h : p.count < reading)
    (text : Nat → String) :
    p.observe text reading = { p with count := reading, statusText := text reading } := by
  simp only [observe, record, if_pos h, if_pos (Nat.sub_pos_of_lt h)]
  rfl

/-- A reading that is not greater than the count changes nothing. -/
theorem Progress.observe_of_not_lt {p : Progress} {reading : Nat} (h : ¬ p.count < reading)
    (text : Nat → String) : p.observe text reading = p := by
  simp only [observe, record, if_neg h, Nat.lt_irrefl, if_false]

/-- A reading keeps the status. -/
@[simp] theorem Progress.status_observe (p : Progress) (text : Nat → String) (reading : Nat) :
    (p.observe text reading).status = p.status := by
  by_cases h : p.count < reading
  · rw [observe_of_lt h]
  · rw [observe_of_not_lt h]

namespace Drive

/-- What one step can do. -/
theorem step_leads {s : Drive} (h : s.stage.isOver = false) :
    ∃ attempt, s.stage.Leads setup browser task attempt (s.happens setup browser task)
        (s.step setup browser task).stage ∧
      (s.step setup browser task).progress.status = s.progress.status.attempt attempt ∧
      (s.step setup browser task).isOpen =
      ((s.step setup browser task).stage.opens || s.isOpen) := by
  obtain ⟨time, stage, progress, isOpen, calls⟩ := s
  cases stage with
  | beginning => exact ⟨_, .begun, rfl, rfl⟩
  | launching =>
    cases h' : browser.launch.outcome with
    | error fault =>
      simp only [step, happens, asks?, h']
      exact ⟨_, .unlaunched h', rfl, rfl⟩
    | ok _ =>
      simp only [step, happens, asks?, h']
      exact ⟨_, .launched h', rfl, rfl⟩
  | navigating =>
    cases h' : browser.navigate.outcome with
    | error fault =>
      simp only [step, happens, asks?, h']
      exact ⟨_, .lost h', rfl, rfl⟩
    | ok _ =>
      simp only [step, happens, asks?, h']
      exact ⟨_, .navigated h', rfl, rfl⟩
  | asking k asked =>
    cases h' : setup.sight (browser.address k).outcome with
    | ready =>
      simp only [step, happens, asks?, takeAddress, h']
      exact ⟨_, .ready h', rfl, rfl⟩
    | elsewhere =>
      simp only [step, happens, asks?, takeAddress, h']
      cases asked <;> exact ⟨_, .elsewhere h', rfl, rfl⟩
    | unreadable =>
      simp only [step, happens, asks?, takeAddress, h']
      exact ⟨_, .unseen h', rfl, rfl⟩
    | closed =>
      simp only [step, happens, asks?, takeAddress, h']
      exact ⟨_, .gone h', rfl, rfl⟩
  | pausing k asked => exact ⟨_, .again, rfl, rfl⟩
  | settling => exact ⟨_, .settled, rfl, rfl⟩
  | readingCookie =>
    cases h' : browser.cookie.outcome with
    | error fault =>
      simp only [step, happens, asks?, takeCookie, h']
      exact ⟨_, .unread h', rfl, rfl⟩
    | ok value =>
      cases hv : value.filter (· != "") with
      | none =>
        simp only [step, happens, asks?, takeCookie, h', hv]
        exact ⟨_, .unnamed h' hv, rfl, rfl⟩
      | some organization =>
        cases hs : task.script ⟨organization, setup.apiBase⟩ with
        | error f =>
          simp only [step, happens, asks?, takeCookie, h', hv, hs]
          exact ⟨_, .unscripted h' hv hs, rfl, rfl⟩
        | ok script =>
          simp only [step, happens, asks?, takeCookie, h', hv, hs]
          exact ⟨_, .scripted h' hv hs, rfl, rfl⟩
  | injecting =>
    cases h' : browser.inject.outcome with
    | error fault =>
      simp only [step, happens, asks?, h']
      exact ⟨_, .refused h', rfl, rfl⟩
    | ok _ =>
      simp only [step, happens, asks?, h']
      exact ⟨_, .injected _ h', rfl, rfl⟩
  | ticking k due => exact ⟨_, .ticked _, rfl, rfl⟩
  | polling k next =>
    cases h' : readingOf (browser.poll k).outcome with
    | closed =>
      simp only [step, happens, asks?, takePoll, h']
      exact ⟨_, .closed h', rfl, rfl⟩
    | unreadable =>
      simp only [step, happens, asks?, takePoll, h']
      exact ⟨_, .unreadable h', rfl, rfl⟩
    | state state =>
      cases hdone : state.outcome? with
      | some outcome =>
        simp only [step, happens, asks?, takePoll, h', hdone]
        exact ⟨_, .done h' hdone, Progress.status_observe _ _ _, rfl⟩
      | none =>
        simp only [step, happens, asks?, takePoll, h', hdone]
        exact ⟨_, .undone h' hdone, Progress.status_observe _ _ _, rfl⟩
  | stalled => simp [Stage.isOver] at h
  | ended outcome => simp [Stage.isOver] at h

/-- A step notes its calls in front of those that were noted before. -/
theorem calls_step (s : Drive) :
    (s.step setup browser task).calls =
      (({ s with calls := [] } : Drive).step setup browser task).calls ++ s.calls := by
  obtain ⟨time, stage, progress, isOpen, calls⟩ := s
  cases stage with
  | beginning | pausing _ _ | settling | ticking _ _ | stalled | ended _ => rfl
  | launching => cases h : browser.launch.outcome <;> simp only [step, h] <;> rfl
  | navigating => cases h : browser.navigate.outcome <;> simp only [step, h] <;> rfl
  | asking k asked =>
    cases h : setup.sight (browser.address k).outcome <;> simp only [step, takeAddress, h] <;>
      cases asked <;> rfl
  | readingCookie =>
    simp only [step, takeCookie]
    split
    · rfl
    · split
      · rfl
      · split <;> rfl
  | injecting => cases h : browser.inject.outcome <;> simp only [step, h] <;> rfl
  | polling k next =>
    simp only [step, takePoll]
    split
    · rfl
    · rfl
    · split <;> rfl

/-- The calls that are noted after a step are those of before and then those that happen. -/
theorem actions_step (s : Drive) :
    (s.step setup browser task).calls.reverse.map (·.action) =
      s.calls.reverse.map (·.action) ++
        (s.happens setup browser task).filterMap Event.action? := by
  have hcalls : ∀ made : List Call,
      (made.map fun c => Event.call c.action).filterMap Event.action? = made.map (·.action) := by
    intro made
    rw [List.filterMap_map, ← List.filterMap_eq_map]
    rfl
  have hscripts :
      ((s.asks? setup browser).toList.map Event.script).filterMap Event.action? = [] := by
    cases s.asks? setup browser <;> rfl
  rw [calls_step, List.reverse_append, List.map_append, happens, List.filterMap_append, hscripts,
    List.nil_append, hcalls]

/-- A step needs to know of the task no more than its texts and the answer to what it asks. -/
theorem step_congr {s : Drive} {task' : Task α} (hstatus : task'.initialStatus = task.initialStatus)
    (htext : task'.progressText = task.progressText)
    (hscript : ∀ context ∈ s.asks? setup browser, task'.script context = task.script context) :
    s.step setup browser task' = s.step setup browser task := by
  obtain ⟨time, stage, progress, isOpen, calls⟩ := s
  cases stage with
  | settling => simp only [step, hstatus]
  | polling k next => simp only [step, takePoll, htext]
  | readingCookie =>
    simp only [step, takeCookie]
    cases h : browser.cookie.outcome with
    | error fault => rfl
    | ok value =>
      cases hv : value.filter (· != "") with
      | none => simp only [hv]
      | some organization =>
        have hasked : task'.script ⟨organization, setup.apiBase⟩ =
            task.script ⟨organization, setup.apiBase⟩ :=
          hscript _ (by simp [asks?, h, hv])
        simp only [hv, hasked]
  | _ => rfl

/-! ## Runs of steps -/

section

variable {setup browser task}

/-- Before the limit a drive goes on with a step. -/
theorem advance_of_lt {limit : Nat} {s : Drive} (h : s.stage.isOver = false ∧ s.time < limit) :
    s.advance setup browser task limit =
      (s.step setup browser task).advance setup browser task limit := by
  rw [advance, dif_pos h]

/-- At the limit, or when it is over, a drive stays where it is. -/
theorem advance_of_not_lt {limit : Nat} {s : Drive}
    (h : ¬ (s.stage.isOver = false ∧ s.time < limit)) :
    s.advance setup browser task limit = s := by
  rw [advance, dif_neg h]

end

/-- What every step keeps holds at the end if it holds at the beginning. -/
theorem advance_invariant {P : Drive → Prop}
    (hstep : ∀ s, s.stage.isOver = false → P s → P (s.step setup browser task)) (limit : Nat)
    {s : Drive} (hs : P s) : P (s.advance setup browser task limit) := by
  induction s using advance.induct setup browser task limit with
  | case1 s h ih =>
    rw [advance_of_lt h]
    exact ih (hstep s h.1 hs)
  | case2 s h => rwa [advance_of_not_lt h]

/-- The drives from one on, as far as they come before the limit. -/
def trail (limit : Nat) (s : Drive) : List Drive :=
  if _h : s.stage.isOver = false ∧ s.time < limit then
    s :: trail limit (s.step setup browser task)
  else [s]
termination_by (limit - s.time, s.rank)
decreasing_by
  obtain h' | ⟨h', h''⟩ := s.step_lt setup browser task _h.1
  · exact Prod.Lex.left _ _ (by omega)
  · rw [h']
    exact Prod.Lex.right _ h''

section

variable {setup browser task}

/-- Before the limit the trail goes on with a step. -/
theorem trail_of_lt {limit : Nat} {s : Drive} (h : s.stage.isOver = false ∧ s.time < limit) :
    s.trail setup browser task limit =
      s :: (s.step setup browser task).trail setup browser task limit := by
  rw [trail, dif_pos h]

/-- At the limit, or when the drive is over, its trail ends. -/
theorem trail_of_not_lt {limit : Nat} {s : Drive}
    (h : ¬ (s.stage.isOver = false ∧ s.time < limit)) :
    s.trail setup browser task limit = [s] := by
  rw [trail, dif_neg h]

end

/-- A trail begins where it is taken. -/
theorem exists_trail_eq_cons (limit : Nat) (s : Drive) :
    ∃ rest, s.trail setup browser task limit = s :: rest := by
  by_cases h : s.stage.isOver = false ∧ s.time < limit
  · exact ⟨_, trail_of_lt h⟩
  · exact ⟨[], trail_of_not_lt h⟩

/-- A trail ends where the drive comes to. -/
theorem getLast?_trail (limit : Nat) (s : Drive) :
    (s.trail setup browser task limit).getLast? = some (s.advance setup browser task limit) := by
  induction s using trail.induct setup browser task limit with
  | case1 s h ih => rw [trail_of_lt h, advance_of_lt h, List.getLast?_cons, ih, Option.getD_some]
  | case2 s h => rw [trail_of_not_lt h, advance_of_not_lt h, List.getLast?_singleton]

/-- What every step keeps holds all along a trail. -/
theorem trail_invariant {P : Drive → Prop}
    (hstep : ∀ s, s.stage.isOver = false → P s → P (s.step setup browser task)) (limit : Nat)
    {s : Drive} (hs : P s) : ∀ t ∈ s.trail setup browser task limit, P t := by
  induction s using trail.induct setup browser task limit with
  | case1 s h ih =>
    rw [trail_of_lt h]
    exact List.forall_mem_cons.mpr ⟨hs, ih (hstep s h.1 hs)⟩
  | case2 s h =>
    rw [trail_of_not_lt h]
    exact List.forall_mem_singleton.mpr hs

end Drive

/-! ## Runs -/

/-- What the drive of a run comes to before the run is over or cut off. -/
abbrev lastDrive (cancelAt : Option Nat) (shown : Progress) : Drive :=
  driveTo setup browser task (limit task.timeout.toMillis cancelAt) shown

/-- A run whose drive is over in time settles the outcome of the drive, and any other is cut
off. -/
theorem run_eq_conclude (cancelAt : Option Nat) (clock : Clock) (shown : Progress)
    (w : Workspace) :
    (∃ outcome, (lastDrive setup browser task cancelAt shown).stage = .ended outcome ∧
      run setup browser task cancelAt clock shown w =
        conclude (lastDrive setup browser task cancelAt shown)
          (lastDrive setup browser task cancelAt shown).time
          (settle task clock outcome w).1 (settle task clock outcome w).2) ∨
    ((∀ outcome, (lastDrive setup browser task cancelAt shown).stage ≠ .ended outcome) ∧
      run setup browser task cancelAt clock shown w =
        conclude (lastDrive setup browser task cancelAt shown)
          (limit task.timeout.toMillis cancelAt) w (.error (cutOff task.timeout cancelAt))) := by
  by_cases h : ∃ outcome, (lastDrive setup browser task cancelAt shown).stage = .ended outcome
  · obtain ⟨outcome, hstage⟩ := h
    exact .inl ⟨outcome, hstage, by simp only [run, hstage]⟩
  · have hnot := not_exists.mp h
    refine .inr ⟨hnot, ?_⟩
    unfold run
    dsimp only
    split
    · rename_i outcome hstage
      exact absurd hstage (hnot outcome)
    · rfl

section

variable {setup browser task} {cancelAt : Option Nat} {clock : Clock} {shown : Progress}
  {w : Workspace}

/-- What is shown at the end is what the drive shows, finished by the outcome of the run. -/
theorem progress_run :
    (run setup browser task cancelAt clock shown w).progress =
      (lastDrive setup browser task cancelAt shown).progress.finish
        (run setup browser task cancelAt clock shown w).outcome := by
  rcases run_eq_conclude setup browser task cancelAt clock shown w with
    ⟨outcome, -, hrun⟩ | ⟨-, hrun⟩
  · rw [hrun]
    rfl
  · rw [hrun]
    rfl

/-- The drive of a run that succeeds is over with a result. -/
theorem exists_ended_of_run_ok {a : α}
    (h : (run setup browser task cancelAt clock shown w).outcome = .ok a) :
    ∃ r, (lastDrive setup browser task cancelAt shown).stage = .ended (.ok r) := by
  rcases run_eq_conclude setup browser task cancelAt clock shown w with
    ⟨outcome, hstage, hrun⟩ | ⟨-, hrun⟩
  · rw [hrun] at h
    cases outcome with
    | ok r => exact ⟨r, hstage⟩
    | error f => cases h
  · rw [hrun] at h
    cases h

end

end ChatArchive.Operation
