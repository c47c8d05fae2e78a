import ChatArchive.Operation.Fetch
import ChatArchive.Proofs.Operation.Trail
import Mathlib.Data.List.Destutter

/-!
# The statuses of an operation

Every stage shows a certain status until the operation ends (`Stage.Shows`), and a step either keeps
the status or goes on to the one that follows (`Stage.Leads.shows`).  So the statuses of a fresh
operation are a way from the first one, and then the end that the outcome of the run names
(`statuses_of_perform`).  An end is final: nothing that is attempted later, and no later run,
changes it (`Progress.Later.status_eq`).

There is an end only if there is a run.  A timeout that ends beyond the last time of the clock
leaves the operation as it was prepared (`no_end_of_endless_fetch`).
-/

namespace ChatArchive.Operation

/-! ## Statuses -/

namespace Status

/-- One status follows another before the end. -/
inductive Follows : Status → Status → Prop where
  | ready : Follows initializing awaitingReady
  | running : Follows awaitingReady running

/-- The statuses from one to another, each following the one before. -/
inductive Way : Status → List Status → Status → Prop where
  | stay (s : Status) : Way s [s] s
  | go {s t last : Status} {path : List Status} (h : s.Follows t) (hway : Way t path last) :
      Way s (s :: path) last

/-- A way from the first status passes one status after the other, and all of them if it comes to
the last. -/
theorem Way.of_initializing {path : List Status} {last : Status}
    (h : Way initializing path last) :
    ∃ middle, path = initializing :: middle ∧
      (middle = [] ∨ middle = [awaitingReady] ∨ middle = [awaitingReady, running]) ∧
      (last = running → middle = [awaitingReady, running]) := by
  cases h with
  | stay => exact ⟨[], rfl, .inl rfl, fun h => by cases h⟩
  | go h hway =>
    cases h
    cases hway with
    | stay => exact ⟨_, rfl, .inr (.inl rfl), fun h => by cases h⟩
    | go h hway =>
      cases h
      cases hway with
      | stay => exact ⟨_, rfl, .inr (.inr rfl), fun _ => rfl⟩
      | go h hway => cases h

/-- No status follows itself. -/
theorem Follows.ne {s t : Status} (h : s.Follows t) : s ≠ t := by
  cases h <;> decide

/-- An end is not left for another status. -/
theorem goTo_of_isTerminal {s : Status} (h : s.isTerminal = true) (next : Status) :
    s.goTo next = s := by
  simp [goTo, canGoTo, h]

/-- An operation that has not ended can end, with success only if it is running. -/
theorem goTo_end {s next : Status} (h : s.isTerminal = false) (hnext : next.isTerminal = true)
    (hcompleted : next = completed → s = running) : s.goTo next = next := by
  cases s <;> cases next <;> simp_all [isTerminal, goTo, canGoTo, rank]

/-- An end is not left by any attempt. -/
theorem attempt_of_isTerminal {s : Status} (h : s.isTerminal = true) (next : Option Status) :
    s.attempt next = s := by
  cases next with
  | none => rfl
  | some next => exact goTo_of_isTerminal h next

end Status

/-! ## Ends -/

namespace Progress

variable {α : Type} {outcome : Except Failure α}

/-- Every outcome names an end. -/
theorem isTerminal_finalStatus (outcome : Except Failure α) :
    (finalStatus outcome).isTerminal = true := by
  cases outcome with
  | ok a => rfl
  | error f => cases f <;> rfl

/-- Success alone names the status of completed operations. -/
theorem finalStatus_eq_completed_iff :
    finalStatus outcome = .completed ↔ ∃ a, outcome = .ok a := by
  cases outcome with
  | ok a => simp [finalStatus]
  | error f => cases f <;> simp [finalStatus]

/-- A cancel alone names the status of cancelled ones. -/
theorem finalStatus_eq_cancelled_iff :
    finalStatus outcome = .cancelled ↔ outcome = .error .cancelled := by
  cases outcome with
  | ok a => simp [finalStatus]
  | error f => cases f <;> simp [finalStatus]

/-- A deadline alone names the status of those whose time is up. -/
theorem finalStatus_eq_timedOut_iff :
    finalStatus outcome = .timedOut ↔ ∃ t, outcome = .error (.timedOut t) := by
  cases outcome with
  | ok a => simp [finalStatus]
  | error f => cases f <;> simp [finalStatus]

/-- All other failures name the status of failed ones. -/
theorem finalStatus_eq_failed_iff :
    finalStatus outcome = .failed ↔
      ∃ f, outcome = .error f ∧ f ≠ .cancelled ∧ ∀ t, f ≠ .timedOut t := by
  cases outcome with
  | ok a => simp [finalStatus]
  | error f => cases f <;> simp [finalStatus]

/-- The end that an outcome names is shown, by a running operation if it is success. -/
theorem goTo_finalStatus {s : Status} (h : s.isTerminal = false)
    (hok : ∀ a, outcome = .ok a → s = .running) :
    s.goTo (finalStatus outcome) = finalStatus outcome := by
  refine Status.goTo_end h (isTerminal_finalStatus outcome) fun hcompleted => ?_
  obtain ⟨a, ha⟩ := finalStatus_eq_completed_iff.mp hcompleted
  exact hok a ha

end Progress

/-! ## Stages -/

/-- The status that an operation shows at a stage of its drive. -/
def Stage.Shows : Stage → Status → Prop
  | .beginning, s | .launching, s => s = .initializing
  | .navigating, s | .asking _ _, s | .pausing _ _, s | .settling, s => s = .awaitingReady
  | .readingCookie, s | .injecting, s | .ticking _ _, s | .polling _ _, s | .ended (.ok _), s =>
    s = .running
  | .stalled, s | .ended (.error _), s => s.isTerminal = false

section

variable {α : Type} {setup : Setup} {browser : Browser} {task : Task α}

/-- No stage of a drive shows an end. -/
theorem Stage.Shows.not_terminal {stage : Stage} {s : Status} (h : stage.Shows s) :
    s.isTerminal = false := by
  unfold Stage.Shows at h
  split at h <;> first | exact h | (rw [h]; rfl)

/-- A step keeps the status, or goes on to the one that follows. -/
theorem Stage.Leads.shows {stage next : Stage} {attempt : Option Status} {events : List Event}
    {s : Status} (h : stage.Leads setup browser task attempt events next) (hs : stage.Shows s) :
    next.Shows (s.attempt attempt) ∧ (s.attempt attempt = s ∨ s.Follows (s.attempt attempt)) := by
  cases h with
  | launched =>
    cases hs
    exact ⟨rfl, .inr .ready⟩
  | settled =>
    cases hs
    exact ⟨rfl, .inr .running⟩
  | @done k next state outcome h hdone =>
    cases hs
    cases outcome <;> exact ⟨rfl, .inl rfl⟩
  | _ =>
    cases hs
    exact ⟨rfl, .inl rfl⟩

variable (setup browser task)

/-- Along a drive the stage shows the status. -/
theorem shows_step {s : Drive} (h : s.stage.isOver = false)
    (hs : s.stage.Shows s.progress.status) :
    (s.step setup browser task).stage.Shows (s.step setup browser task).progress.status ∧
      ((s.step setup browser task).progress.status = s.progress.status ∨
        s.progress.status.Follows (s.step setup browser task).progress.status) := by
  obtain ⟨attempt, hleads, hstatus, -⟩ := s.step_leads setup browser task h
  rw [hstatus]
  exact hleads.shows hs

/-- The statuses along a trail, each once, are a way. -/
theorem exists_way_of_trail (limit : Nat) {s : Drive} (hs : s.stage.Shows s.progress.status)
    {final : Status} (hfinal : final.isTerminal = true) :
    ∃ path, s.progress.status.Way path (s.advance setup browser task limit).progress.status ∧
      ((s.trail setup browser task limit).map (·.progress.status) ++ [final]).destutter (· ≠ ·) =
        path ++ [final] := by
  induction s using Drive.trail.induct setup browser task limit with
  | case1 s h ih =>
    obtain ⟨hshows, hnext⟩ := shows_step setup browser task h.1 hs
    obtain ⟨path, hway, hpath⟩ := ih hshows
    obtain ⟨rest, hrest⟩ :=
      (s.step setup browser task).exists_trail_eq_cons setup browser task limit
    rw [Drive.advance_of_lt h, Drive.trail_of_lt h]
    -- the rest of the trail begins with the next drive, whose status is compared with this one
    rw [hrest] at hpath ⊢
    rw [List.map_cons, List.cons_append, List.destutter_cons'] at hpath
    rw [List.map_cons, List.map_cons, List.cons_append, List.cons_append,
      List.destutter_cons_cons, hpath]
    rcases hnext with hsame | hfollows
    · rw [if_neg (not_not.mpr hsame.symm), ← hsame]
      exact ⟨path, hway, hpath⟩
    · rw [if_pos hfollows.ne]
      exact ⟨_, .go hfollows hway, rfl⟩
  | case2 s h =>
    rw [Drive.advance_of_not_lt h, Drive.trail_of_not_lt h]
    have hne : s.progress.status ≠ final := by
      intro he
      have hnot := hs.not_terminal
      rw [he, hfinal] at hnot
      cases hnot
    refine ⟨_, .stay _, ?_⟩
    simp [hne]

end

/-! ## Runs -/

section

variable {α : Type} {setup : Setup} {browser : Browser} {task : Task α} {owner : Option String}
  {cancelAt : Option Nat} {clock : Clock} {w : Workspace} {start : Span}

/-- There is no run if the clock can never show that the time is up, and only then. -/
theorem perform_eq_none_iff :
    perform setup browser task owner cancelAt clock w start = none ↔
      task.timeout.isReachable start = false := by
  simp [perform]

/-- If the clock can show that the time is up, the prepared operation is run. -/
theorem perform_eq_some_iff {e : Ending α} :
    perform setup browser task owner cancelAt clock w start = some e ↔
      task.timeout.isReachable start = true ∧
        run setup browser task cancelAt clock (task.prepare owner) w = e := by
  simp [perform]

end

/-- The statuses that an operation shows in a run, one after the other. -/
def statuses {α : Type} (setup : Setup) (browser : Browser) (task : Task α) (cancelAt : Option Nat)
    (clock : Clock) (shown : Progress) (w : Workspace) : List Status :=
  let drives := (Drive.start shown).trail setup browser task (limit task.timeout.toMillis cancelAt)
  (drives.map (·.progress.status) ++
    [(run setup browser task cancelAt clock shown w).progress.status]).destutter (· ≠ ·)

/-- What the same operation shows after attempts to go on and after more runs. -/
inductive Progress.Later (p : Progress) : Progress → Prop where
  | same : Later p p
  | goTo {q : Progress} (h : Later p q) (next : Status) : Later p (q.goTo next)
  | run {q : Progress} (h : Later p q) {α : Type} (setup : Setup) (browser : Browser)
      (task : Task α) (cancelAt : Option Nat) (clock : Clock) (w : Workspace) :
      Later p (Operation.run setup browser task cancelAt clock q w).progress

section

variable {α : Type} (setup : Setup) (browser : Browser) (task : Task α) {cancelAt : Option Nat}
  {clock : Clock} {w : Workspace}

/-- The stage that a drive comes to shows the status. -/
theorem shows_driveTo (limit : Nat) {shown : Progress} (h : shown.status = .initializing) :
    (driveTo setup browser task limit shown).stage.Shows
      (driveTo setup browser task limit shown).progress.status := by
  refine Drive.advance_invariant setup browser task
    (P := fun s => s.stage.Shows s.progress.status) ?_ limit h
  intro s hs hshows
  exact (shows_step setup browser task hs hshows).1

/-- An operation that succeeds has been running. -/
theorem status_driveTo_of_ok {shown : Progress} (h : shown.status = .initializing) {a : α}
    (ha : (run setup browser task cancelAt clock shown w).outcome = .ok a) :
    (lastDrive setup browser task cancelAt shown).progress.status = .running := by
  have hshows := shows_driveTo setup browser task (limit task.timeout.toMillis cancelAt) h
  obtain ⟨r, hstage⟩ := exists_ended_of_run_ok ha
  rwa [hstage] at hshows

/-- A fresh operation ends with the status that the outcome of its run names. -/
theorem status_run {shown : Progress} (h : shown.status = .initializing) :
    (run setup browser task cancelAt clock shown w).progress.status =
      Progress.finalStatus (run setup browser task cancelAt clock shown w).outcome := by
  have hshows := shows_driveTo setup browser task (limit task.timeout.toMillis cancelAt) h
  rw [progress_run]
  exact Progress.goTo_finalStatus hshows.not_terminal fun a ha =>
    status_driveTo_of_ok setup browser task h ha

/-- Statuses that are all the same are shown once. -/
theorem destutter_eq_singleton {s : Status} {l : List Status} (h : ∀ t ∈ l, t = s) :
    (s :: l).destutter (· ≠ ·) = [s] := by
  induction l with
  | nil => rfl
  | cons t l ih =>
    obtain ⟨rfl, hl⟩ := List.forall_mem_cons.mp h
    rw [List.destutter_cons_cons, if_neg (by simp)]
    exact ih hl

/-- A run of an operation that has ended shows nothing but the end. -/
theorem statuses_of_isTerminal {shown : Progress} (h : shown.status.isTerminal = true) :
    (run setup browser task cancelAt clock shown w).progress.status = shown.status ∧
      statuses setup browser task cancelAt clock shown w = [shown.status] := by
  have hstep : ∀ s : Drive, s.stage.isOver = false → s.progress.status = shown.status →
      (s.step setup browser task).progress.status = shown.status := by
    intro s hs hstatus
    obtain ⟨attempt, -, hattempt, -⟩ := s.step_leads setup browser task hs
    rw [hattempt, hstatus, Status.attempt_of_isTerminal h]
  have hrun : (run setup browser task cancelAt clock shown w).progress.status = shown.status := by
    have hdrive : (lastDrive setup browser task cancelAt shown).progress.status = shown.status :=
      Drive.advance_invariant setup browser task
        (P := fun s => s.progress.status = shown.status) hstep _ rfl
    rw [progress_run]
    exact (Status.goTo_of_isTerminal (hdrive ▸ h) _).trans hdrive
  have htrail := Drive.trail_invariant setup browser task
    (P := fun s => s.progress.status = shown.status) hstep (limit task.timeout.toMillis cancelAt)
    (s := Drive.start shown) rfl
  obtain ⟨rest, hrest⟩ := (Drive.start shown).exists_trail_eq_cons setup browser task
    (limit task.timeout.toMillis cancelAt)
  rw [hrest] at htrail
  refine ⟨hrun, ?_⟩
  simp only [statuses, hrest, hrun, List.map_cons, List.cons_append]
  refine destutter_eq_singleton fun t ht => ?_
  rcases List.mem_append.mp ht with hmem | hmem
  · obtain ⟨s, hs, rfl⟩ := List.mem_map.mp hmem
    exact htrail s (List.mem_cons_of_mem _ hs)
  · exact List.mem_singleton.mp hmem

end

/-- An end is final, whatever is attempted later. -/
theorem Progress.Later.status_eq {p q : Progress} (h : p.Later q)
    (hp : p.status.isTerminal = true) : q.status = p.status := by
  induction h with
  | same => rfl
  | goTo _ next ih => exact (Status.goTo_of_isTerminal (ih ▸ hp) next).trans ih
  | run _ setup browser task _ _ _ ih =>
    exact (statuses_of_isTerminal setup browser task (ih ▸ hp)).1.trans ih

/-- There is a run exactly if the clock can show that the time is up.  Then the statuses of a fresh
operation go from the first one as far as its drive comes, and then to the end that the outcome of
its run names.  Success needs the whole way, and the end is final: no attempt to go on and no run
after it shows anything else.  Without a run the operation is left as it was prepared, with the
first status. -/
theorem statuses_of_perform {α : Type} (setup : Setup) (browser : Browser) (task : Task α)
    (owner : Option String) (cancelAt : Option Nat) (clock : Clock) (w : Workspace)
    (start : Span) :
    match perform setup browser task owner cancelAt clock w start with
    | none =>
      task.timeout.isReachable start = false ∧ (task.prepare owner).status = .initializing
    | some e =>
      task.timeout.isReachable start = true ∧
      let final := e.progress.status
      (∃ middle, statuses setup browser task cancelAt clock (task.prepare owner) w =
          .initializing :: middle ++ [final] ∧
        (middle = [] ∨ middle = [.awaitingReady] ∨ middle = [.awaitingReady, .running]) ∧
        (final = .completed → middle = [.awaitingReady, .running])) ∧
      final.isTerminal = true ∧
      (final = .completed ↔ ∃ a, e.outcome = .ok a) ∧
      (final = .cancelled ↔ e.outcome = .error .cancelled) ∧
      (final = .timedOut ↔ ∃ t, e.outcome = .error (.timedOut t)) ∧
      (final = .failed ↔ ∃ f, e.outcome = .error f ∧ f ≠ .cancelled ∧ ∀ t, f ≠ .timedOut t) ∧
      ∀ q, e.progress.Later q → q.status = final ∧
        ∀ {β : Type} (setup' : Setup) (browser' : Browser) (task' : Task β)
          (cancelAt' : Option Nat) (clock' : Clock) (w' : Workspace),
          statuses setup' browser' task' cancelAt' clock' q w' = [final] := by
  cases hperform : perform setup browser task owner cancelAt clock w start with
  | none => exact ⟨perform_eq_none_iff.mp hperform, rfl⟩
  | some e =>
    obtain ⟨hreachable, rfl⟩ := perform_eq_some_iff.mp hperform
    refine ⟨hreachable, ?_⟩
    intro final
    have hinit : (task.prepare owner).status = .initializing := rfl
    have hfinal : final = Progress.finalStatus _ := status_run setup browser task hinit
    have hterminal : final.isTerminal = true := hfinal ▸ Progress.isTerminal_finalStatus _
    refine ⟨?_, hterminal, hfinal ▸ Progress.finalStatus_eq_completed_iff,
      hfinal ▸ Progress.finalStatus_eq_cancelled_iff, hfinal ▸ Progress.finalStatus_eq_timedOut_iff,
      hfinal ▸ Progress.finalStatus_eq_failed_iff, ?_⟩
    · obtain ⟨path, hway, hpath⟩ := exists_way_of_trail setup browser task
        (limit task.timeout.toMillis cancelAt) (s := Drive.start (task.prepare owner)) hinit
        hterminal
      obtain ⟨middle, rfl, hmiddle, hrunning⟩ := Status.Way.of_initializing hway
      refine ⟨middle, hpath, hmiddle, fun hc => hrunning ?_⟩
      obtain ⟨a, ha⟩ := Progress.finalStatus_eq_completed_iff.mp (hfinal.symm.trans hc)
      exact status_driveTo_of_ok setup browser task hinit ha
    · intro q hq
      have hstatus := hq.status_eq hterminal
      refine ⟨hstatus, fun setup' browser' task' cancelAt' clock' w' => ?_⟩
      have hq' : q.status.isTerminal = true := hstatus ▸ hterminal
      rw [(statuses_of_isTerminal setup' browser' task' hq').2, hstatus]

/-- A fetch with the longest timeout that a settings file can hold never ends, with any browser and
whatever the clock shows when it begins: there is no run, and the operation keeps a status that is
no end. -/
theorem no_end_of_endless_fetch :
    let task := Fetch.task { OperationSettings.default with fetchSeconds := Word.maxNat 64 }
    let clock : Clock := fun _ => Timestamp.epoch
    (∀ (setup : Setup) (browser : Browser) (start : Span),
      perform setup browser task none none clock ⟨.empty, ⟨[], []⟩⟩ start = none) ∧
      (task.prepare none).status.isTerminal = false := by
  intro task clock
  refine ⟨fun setup browser start => perform_eq_none_iff.mpr ?_, rfl⟩
  have hmax : Word.maxNat 63 < Word.maxNat 64 := by decide
  have htimeout : task.timeout = ⟨Word.maxNat 64, 0⟩ := rfl
  simp only [htimeout, Span.isReachable, decide_eq_false_iff_not]
  omega

end ChatArchive.Operation
