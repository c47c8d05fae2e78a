import ChatArchive.Proofs.Operation.Atomic

/-!
# The course of a run

All runs take one course and only differ in how far they come: a session is opened and the entry
page with it, the address is read until the page is ready, the cookie is read, the task is asked for
its script, that is injected, there are polls, and the result is merged (`fullCourse`).  `Past` says
what has happened when a drive is at a stage; a step keeps it (`Stage.Leads.past`), and so does the
whole drive (`Drive.past_advance`).

What has happened at the end is therefore the beginning of a full course, and then the session is
closed if it was opened (`course_of_run`).
-/

namespace ChatArchive.Operation

open List (replicate)

/-! ## The full course -/

section

variable (setup : Setup)

/-- What happens until the page is ready, if the address is read `n` times. -/
def arrival (n : Nat) : List Event :=
  [.call (.launch setup.profileDir), .call (.navigate setup.entry)] ++
    replicate n (.call .readAddress)

/-- What happens until the script is injected. -/
def preparation (n : Nat) (context : ReadyContext) (script : String) : List Event :=
  arrival setup n ++
    [.call (.readCookie setup.organizationCookie), .script context, .call (.inject script)]

/-- What happens until the result is merged, if there are `m` polls. -/
def fullCourse (n : Nat) (context : ReadyContext) (script : String) (m : Nat) (r : ScriptResult) :
    List Event :=
  preparation setup n context script ++ replicate m (.call .poll) ++ [.merge r]

variable {α : Type} (browser : Browser) (task : Task α)

/-- The page is ready when its address is read for the `k`-th time, counted from zero, and the
cookie names the organization of the context. -/
structure IsReadyFor (k : Nat) (context : ReadyContext) : Prop where
  ready : setup.sight (browser.address k).outcome = .ready
  named : browser.cookie.outcome = .ok (some context.organization)
  ne_empty : context.organization ≠ ""
  apiBase_eq : context.apiBase = setup.apiBase

/-- The events are the beginning of a full course, and none of them happens before it may: the task
is asked for its script once the page is ready and the organization named, what is injected is that
script, polls follow on an injection that succeeded, and the result that is merged was handed
over. -/
structure IsCourse (k : Nat) (context : ReadyContext) (script : String) (m : Nat)
    (r : ScriptResult) (events : List Event) : Prop where
  along : events <+: fullCourse setup (k + 1) context script m r
  ready : .script context ∈ events → IsReadyFor setup browser k context
  scripted : .call (.inject script) ∈ events → task.script context = .ok script
  injected : .call .poll ∈ events → browser.inject.outcome = .ok ()
  handedOver : .merge r ∈ events → browser.HandsOver r

end

section

variable {α : Type} {setup : Setup} {browser : Browser} {task : Task α} {k m : Nat}
  {context : ReadyContext} {script : String} {r : ScriptResult} {events : List Event}

namespace IsCourse

/-- What is the beginning of a course is one. -/
theorem beginning {beginning : List Event}
    (h : IsCourse setup browser task k context script m r events) (hb : beginning <+: events) :
    IsCourse setup browser task k context script m r beginning where
  along := hb.trans h.along
  ready hmem := h.ready (hb.subset hmem)
  scripted hmem := h.scripted (hb.subset hmem)
  injected hmem := h.injected (hb.subset hmem)
  handedOver hmem := h.handedOver (hb.subset hmem)

/-- A run that is over at the cookie is on its course. -/
theorem of_cookie (k : Nat) (context : ReadyContext) (script : String) (m : Nat)
    (r : ScriptResult) : IsCourse setup browser task k context script m r
      (arrival setup (k + 1) ++ [.call (.readCookie setup.organizationCookie)]) where
  along := ⟨_, by simp only [fullCourse, preparation, List.append_assoc]; rfl⟩
  ready hmem := by simp [arrival] at hmem
  scripted hmem := by simp [arrival] at hmem
  injected hmem := by simp [arrival] at hmem
  handedOver hmem := by simp [arrival] at hmem

/-- So is one that is over when the script was asked for. -/
theorem of_script (hready : IsReadyFor setup browser k context) (script : String) (m : Nat)
    (r : ScriptResult) : IsCourse setup browser task k context script m r
      (arrival setup (k + 1) ++
        [.call (.readCookie setup.organizationCookie), .script context]) where
  along := ⟨_, by simp only [fullCourse, preparation, List.append_assoc]; rfl⟩
  ready _ := hready
  scripted hmem := by simp [arrival] at hmem
  injected hmem := by simp [arrival] at hmem
  handedOver hmem := by simp [arrival] at hmem

/-- So is one that is over when the script was handed to the page. -/
theorem of_preparation (hready : IsReadyFor setup browser k context)
    (hscript : task.script context = .ok script) (m : Nat) (r : ScriptResult) :
    IsCourse setup browser task k context script m r
      (preparation setup (k + 1) context script) where
  along := ⟨_, by rw [fullCourse, List.append_assoc]⟩
  ready _ := hready
  scripted _ := hscript
  injected hmem := by simp [preparation, arrival] at hmem
  handedOver hmem := by simp [preparation, arrival] at hmem

/-- So is one that is over while the page is polled. -/
theorem of_polls (hready : IsReadyFor setup browser k context)
    (hscript : task.script context = .ok script) (hinject : browser.inject.outcome = .ok ())
    (m : Nat) (r : ScriptResult) : IsCourse setup browser task k context script m r
      (preparation setup (k + 1) context script ++ replicate m (.call .poll)) where
  along := ⟨_, rfl⟩
  ready _ := hready
  scripted _ := hscript
  injected _ := hinject
  handedOver hmem := by simp [preparation, arrival] at hmem

/-- So is one that comes to the merge, which is the last of its course. -/
theorem of_merge (hready : IsReadyFor setup browser k context)
    (hscript : task.script context = .ok script) (hinject : browser.inject.outcome = .ok ())
    (m : Nat) (hover : browser.HandsOver r) : IsCourse setup browser task k context script m r
      (fullCourse setup (k + 1) context script m r) where
  along := List.prefix_rfl
  ready _ := hready
  scripted _ := hscript
  injected _ := hinject
  handedOver _ := hover

end IsCourse

end

/-! ## What has happened at a stage -/

/-- The merge that follows on a drive, if it is over with a result. -/
def Stage.merges : Stage → List Event
  | .ended (.ok r) => [.merge r]
  | _ => []

section

variable {α : Type} (setup : Setup) (browser : Browser) (task : Task α)

/-- What has happened when a drive is at a stage, and whether a session is open then. -/
inductive Past : Stage → Bool → List Event → Prop where
  | beginning : Past .beginning false []
  | launching : Past .launching false [.call (.launch setup.profileDir)]
  | unlaunched : Past .stalled false [.call (.launch setup.profileDir)]
  | navigating : Past .navigating true (arrival setup 0)
  | lost : Past .stalled true (arrival setup 0)
  | asking (k : Nat) (asked : Bool) : Past (.asking k asked) true (arrival setup (k + 1))
  | pausing (k : Nat) (asked : Bool) : Past (.pausing k asked) true (arrival setup (k + 1))
  | settling {k : Nat} (h : setup.sight (browser.address k).outcome = .ready) :
      Past .settling true (arrival setup (k + 1))
  | readingCookie {k : Nat} (h : setup.sight (browser.address k).outcome = .ready) :
      Past .readingCookie true
        (arrival setup (k + 1) ++ [.call (.readCookie setup.organizationCookie)])
  | injecting {k : Nat} {context : ReadyContext} {script : String}
      (h : IsReadyFor setup browser k context) (hs : task.script context = .ok script) :
      Past .injecting true (preparation setup (k + 1) context script)
  | ticking {k : Nat} {context : ReadyContext} {script : String} (m due : Nat)
      (h : IsReadyFor setup browser k context) (hs : task.script context = .ok script)
      (hi : browser.inject.outcome = .ok ()) : Past (.ticking m due) true
        (preparation setup (k + 1) context script ++ replicate m (.call .poll))
  | polling {k : Nat} {context : ReadyContext} {script : String} (m next : Nat)
      (h : IsReadyFor setup browser k context) (hs : task.script context = .ok script)
      (hi : browser.inject.outcome = .ok ()) : Past (.polling m next) true
        (preparation setup (k + 1) context script ++ replicate (m + 1) (.call .poll))
  | done {k : Nat} {context : ReadyContext} {script : String} (m : Nat) (r : ScriptResult)
      (h : IsReadyFor setup browser k context) (hs : task.script context = .ok script)
      (hi : browser.inject.outcome = .ok ()) : Past (.ended (.ok r)) true
        (preparation setup (k + 1) context script ++ replicate m (.call .poll))
  | failed {k : Nat} {context : ReadyContext} {script : String} {m : Nat} {r : ScriptResult}
      {events : List Event} (f : Failure)
      (h : IsCourse setup browser task k context script m r events) :
      Past (.ended (.error f)) true events

end

section

variable {α : Type} {setup : Setup} {browser : Browser} {task : Task α}

/-- What has happened at any stage is a course, and without an open session no more than the attempt
to open one. -/
theorem Past.isCourse {stage : Stage} {isOpen : Bool} {events : List Event}
    (h : Past setup browser task stage isOpen events) :
    (∃ k context script m r, IsCourse setup browser task k context script m r events) ∧
      (isOpen = false → events <+: [.call (.launch setup.profileDir)]) := by
  -- where no task was asked yet, any script and any result will do
  have early : ∀ k, IsCourse setup browser task k ⟨"", ""⟩ "" 0 ⟨false, none, none⟩
      (arrival setup (k + 1) ++ [.call (.readCookie setup.organizationCookie)]) :=
    fun k => .of_cookie k _ _ _ _
  have harrival : ∀ k, IsCourse setup browser task k ⟨"", ""⟩ "" 0 ⟨false, none, none⟩
      (arrival setup (k + 1)) := fun k => (early k).beginning (List.prefix_append _ _)
  have hopening : arrival setup 0 <+: arrival setup 1 := ⟨[.call .readAddress], rfl⟩
  have hlaunch : [Event.call (.launch setup.profileDir)] <+: arrival setup 1 := ⟨_, rfl⟩
  cases h with
  | beginning =>
    exact ⟨⟨_, _, _, _, _, (harrival 0).beginning List.nil_prefix⟩, fun _ => List.nil_prefix⟩
  | launching | unlaunched =>
    exact ⟨⟨_, _, _, _, _, (harrival 0).beginning hlaunch⟩, fun _ => List.prefix_rfl⟩
  | navigating | lost => exact ⟨⟨_, _, _, _, _, (harrival 0).beginning hopening⟩, nofun⟩
  | asking k _ | pausing k _ => exact ⟨⟨_, _, _, _, _, harrival k⟩, nofun⟩
  | @settling k => exact ⟨⟨_, _, _, _, _, harrival k⟩, nofun⟩
  | @readingCookie k => exact ⟨⟨_, _, _, _, _, early k⟩, nofun⟩
  | injecting h hs => exact ⟨⟨_, _, _, _, _, .of_preparation h hs 0 ⟨false, none, none⟩⟩, nofun⟩
  | ticking m _ h hs hi => exact ⟨⟨_, _, _, _, _, .of_polls h hs hi m ⟨false, none, none⟩⟩, nofun⟩
  | polling m _ h hs hi =>
    exact ⟨⟨_, _, _, _, _, .of_polls h hs hi (m + 1) ⟨false, none, none⟩⟩, nofun⟩
  | done m r h hs hi => exact ⟨⟨_, _, _, _, _, .of_polls h hs hi m r⟩, nofun⟩
  | failed f h => exact ⟨⟨_, _, _, _, _, h⟩, nofun⟩

/-- The merge of a result that was handed over completes the course. -/
theorem Past.isCourse_merges {stage : Stage} {isOpen : Bool} {events : List Event}
    (h : Past setup browser task stage isOpen events) (hheard : stage.Heard browser) :
    (∃ k context script m r,
      IsCourse setup browser task k context script m r (events ++ stage.merges)) ∧
      (isOpen = false → events ++ stage.merges <+: [.call (.launch setup.profileDir)]) := by
  have hcourse := h.isCourse
  cases h with
  | done m r h hs hi => exact ⟨⟨_, _, _, _, _, .of_merge h hs hi m hheard⟩, nofun⟩
  | _ => simpa only [Stage.merges, List.append_nil] using hcourse

/-- A cookie that is not empty names the organization. -/
theorem isReadyFor_of_cookie {k : Nat} {value : Option String} {organization : String}
    (hready : setup.sight (browser.address k).outcome = .ready)
    (h : browser.cookie.outcome = .ok value)
    (hv : value.filter (· != "") = some organization) :
    IsReadyFor setup browser k ⟨organization, setup.apiBase⟩ := by
  obtain ⟨rfl, hne⟩ := Option.filter_eq_some_iff.mp hv
  exact ⟨hready, h, by simpa using hne, rfl⟩

/-- A step keeps what has happened, with what happens in it. -/
theorem Stage.Leads.past {stage next : Stage} {attempt : Option Status}
    {events happened : List Event} {isOpen : Bool}
    (h : stage.Leads setup browser task attempt events next)
    (hs : Past setup browser task stage isOpen happened) :
    Past setup browser task next (next.opens || isOpen) (happened ++ events) := by
  cases h with
  | begun => cases hs; exact .launching
  | unlaunched h => cases hs; exact .unlaunched
  | launched h => cases hs; exact .navigating
  | lost h => cases hs; exact .lost
  | navigated h => cases hs; exact .asking 0 false
  | ready h =>
    cases hs
    rw [List.append_nil]
    exact .settling h
  | elsewhere h | unseen h =>
    cases hs
    rw [List.append_nil]
    exact .pausing _ _
  | @again k asked =>
    cases hs
    have hreads : arrival setup (k + 1) ++ [.call .readAddress] = arrival setup (k + 1 + 1) := by
      rw [arrival, arrival, List.append_assoc, ← List.replicate_succ']
    rw [hreads]
    exact .asking (k + 1) asked
  | settled =>
    cases hs with
    | settling h => exact .readingCookie h
  | unscripted h hv hf =>
    cases hs with
    | readingCookie hready =>
      rw [List.append_assoc]
      exact .failed _ (.of_script (isReadyFor_of_cookie hready h hv) "" 0 ⟨false, none, none⟩)
  | scripted h hv hscript =>
    cases hs with
    | readingCookie hready =>
      rw [List.append_assoc]
      exact .injecting (isReadyFor_of_cookie hready h hv) hscript
  | injected due hi =>
    cases hs with
    | injecting h hs =>
      rw [List.append_nil]
      have := Past.ticking 0 due h hs hi
      rwa [List.replicate_zero, List.append_nil] at this
  | ticked next =>
    cases hs with
    | ticking _ _ h hs hi =>
      rw [List.append_assoc, ← List.replicate_succ']
      exact .polling _ next h hs hi
  | unreadable | undone =>
    cases hs with
    | polling _ _ h hs hi =>
      rw [List.append_nil]
      exact .ticking _ _ h hs hi
  | @done k next state outcome hread hdone =>
    have hcourse := hs.isCourse.1
    cases hs with
    | polling _ _ h hs hi =>
      rw [List.append_nil]
      cases outcome with
      | ok r => exact .done (k + 1) r h hs hi
      | error f =>
        obtain ⟨k, context, script, m, r, hcourse⟩ := hcourse
        exact .failed f hcourse
  | gone | unread | unnamed | refused | closed =>
    have hcourse := hs.isCourse.1
    cases hs
    rw [List.append_nil]
    obtain ⟨k, context, script, m, r, hcourse⟩ := hcourse
    exact .failed _ hcourse

end

/-! ## Along a drive -/

namespace Drive

variable {α : Type} (setup : Setup) (browser : Browser) (task : Task α)

/-- What happens from a drive on, as far as it comes before the limit. -/
def events (limit : Nat) (s : Drive) : List Event :=
  (s.trail setup browser task limit).dropLast.flatMap (·.happens setup browser task)

section

variable {setup browser task}

/-- The events of a drive are those of its next step and those of the rest. -/
theorem events_of_lt {limit : Nat} {s : Drive} (h : s.stage.isOver = false ∧ s.time < limit) :
    s.events setup browser task limit =
      s.happens setup browser task ++
        (s.step setup browser task).events setup browser task limit := by
  obtain ⟨rest, hrest⟩ := (s.step setup browser task).exists_trail_eq_cons setup browser task limit
  rw [events, events, trail_of_lt h, hrest, List.dropLast_cons_cons, List.flatMap_cons]

/-- At the limit nothing further happens. -/
theorem events_of_not_lt {limit : Nat} {s : Drive}
    (h : ¬ (s.stage.isOver = false ∧ s.time < limit)) : s.events setup browser task limit = [] := by
  rw [events, trail_of_not_lt h, List.dropLast_singleton, List.flatMap_nil]

end

/-- A drive keeps what has happened, with what happens along it. -/
theorem past_advance (limit : Nat) {s : Drive} {happened : List Event}
    (hs : Past setup browser task s.stage s.isOpen happened) :
    Past setup browser task (s.advance setup browser task limit).stage
      (s.advance setup browser task limit).isOpen
      (happened ++ s.events setup browser task limit) := by
  induction s using trail.induct setup browser task limit generalizing happened with
  | case1 s h ih =>
    obtain ⟨attempt, hleads, -, hopen⟩ := s.step_leads setup browser task h.1
    have hpast := hleads.past hs
    rw [← hopen] at hpast
    rw [advance_of_lt h, events_of_lt h, ← List.append_assoc]
    exact ih hpast
  | case2 s h =>
    rw [advance_of_not_lt h, events_of_not_lt h, List.append_nil]
    exact hs

/-- The calls that are noted at the end of a drive are those of before and then those that happen
along it. -/
theorem actions_advance (limit : Nat) (s : Drive) :
    (s.advance setup browser task limit).calls.reverse.map (·.action) =
      s.calls.reverse.map (·.action) ++
        (s.events setup browser task limit).filterMap Event.action? := by
  induction s using trail.induct setup browser task limit with
  | case1 s h ih =>
    rw [advance_of_lt h, ih, actions_step, events_of_lt h, List.filterMap_append, List.append_assoc]
  | case2 s h => rw [advance_of_not_lt h, events_of_not_lt h, List.filterMap_nil, List.append_nil]

/-- A drive needs to know of the task no more than its texts and the answers to what it asks along
the way. -/
theorem advance_congr {task' : Task α} (hstatus : task'.initialStatus = task.initialStatus)
    (htext : task'.progressText = task.progressText) (limit : Nat) {s : Drive}
    (hscript : ∀ context, .script context ∈ s.events setup browser task limit →
      task'.script context = task.script context) :
    s.advance setup browser task' limit = s.advance setup browser task limit := by
  induction s using trail.induct setup browser task limit with
  | case1 s h ih =>
    rw [events_of_lt h] at hscript
    have hstep : s.step setup browser task' = s.step setup browser task := by
      refine step_congr setup browser task hstatus htext fun context hcontext => hscript _ ?_
      refine List.mem_append_left _ (List.mem_append_left _ (List.mem_map_of_mem ?_))
      exact Option.mem_toList.mpr hcontext
    rw [advance_of_lt h, advance_of_lt h, hstep]
    exact ih fun context hcontext => hscript _ (List.mem_append_right _ hcontext)
  | case2 s h => rw [advance_of_not_lt h, advance_of_not_lt h]

/-- An open session stays open. -/
theorem isOpen_advance (limit : Nat) {s : Drive} (h : s.isOpen = true) :
    (s.advance setup browser task limit).isOpen = true := by
  refine advance_invariant setup browser task (P := fun s => s.isOpen = true) ?_ limit h
  intro s hs hopen
  obtain ⟨attempt, -, -, hstep⟩ := s.step_leads setup browser task hs
  rw [hstep, hopen, Bool.or_true]

end Drive

/-! ## Runs -/

section

variable {α : Type} (setup : Setup) (browser : Browser) (task : Task α)

/-- The browser opens a session before the limit. -/
def Browser.OpensBefore (limit : Nat) : Prop :=
  browser.launch.outcome = .ok () ∧ browser.launch.delay < limit

/-- A session is open at the end of a drive exactly if the browser opened it in time. -/
theorem isOpen_driveTo_iff (limit : Nat) (shown : Progress) :
    (driveTo setup browser task limit shown).isOpen = true ↔ browser.OpensBefore limit := by
  unfold driveTo Browser.OpensBefore
  by_cases hlimit : 0 < limit
  · -- the first step calls for the session, and the second takes the answer
    rw [Drive.advance_of_lt ⟨rfl, hlimit⟩]
    generalize hs : (Drive.start shown).step setup browser task = s
    have hstage : s.stage = .launching := by rw [← hs]; rfl
    have htime : s.time = browser.launch.delay := by rw [← hs]; exact Nat.zero_add _
    have hclosed : s.isOpen = false := by rw [← hs]; rfl
    have hover : s.stage.isOver = false := by rw [hstage]; rfl
    by_cases hdelay : browser.launch.delay < limit
    · rw [Drive.advance_of_lt ⟨hover, htime ▸ hdelay⟩]
      cases hlaunch : browser.launch.outcome with
      | ok _ =>
        have hopen : (s.step setup browser task).isOpen = true := by
          simp only [Drive.step, hstage, hlaunch]
          rfl
        simp [Drive.isOpen_advance setup browser task limit hopen, hdelay]
      | error fault =>
        have hstall : (s.step setup browser task).stage = .stalled := by
          simp only [Drive.step, hstage, hlaunch]
          rfl
        have hshut : (s.step setup browser task).isOpen = false := by
          simp only [Drive.step, hstage, hlaunch]
          exact hclosed
        rw [Drive.advance_of_not_lt (by simp [hstall, Stage.isOver]), hshut]
        simp
    · rw [Drive.advance_of_not_lt (by simp [htime, hdelay]), hclosed]
      simp [hdelay]
  · rw [Drive.advance_of_not_lt fun h => hlimit h.2]
    have hdelay : ¬ browser.launch.delay < limit := fun h => hlimit (Nat.zero_lt_of_lt h)
    simp [Drive.start, hdelay]

/-- What happens in a run: what happens along its drive, the merge, and the close if a session is
open. -/
def events (cancelAt : Option Nat) (shown : Progress) : List Event :=
  let last := lastDrive setup browser task cancelAt shown
  (Drive.start shown).events setup browser task (limit task.timeout.toMillis cancelAt) ++
    last.stage.merges ++ if last.isOpen then [.call .close] else []

/-- The calls that a run notes are the calls that happen in it. -/
theorem actions_run (cancelAt : Option Nat) (clock : Clock) (shown : Progress) (w : Workspace) :
    (run setup browser task cancelAt clock shown w).calls.map (·.action) =
      (events setup browser task cancelAt shown).filterMap Event.action? := by
  have hdrive := Drive.actions_advance setup browser task (limit task.timeout.toMillis cancelAt)
    (Drive.start shown)
  have hmerges : ∀ stage : Stage, stage.merges.filterMap Event.action? = [] := by
    intro stage
    unfold Stage.merges
    split <;> rfl
  have hconclude : ∀ (s : Drive) (time : Nat) (w : Workspace) (outcome : Except Failure α),
      (conclude s time w outcome).calls.map (·.action) =
        s.calls.reverse.map (·.action) ++ if s.isOpen then [.close] else [] := by
    intro s time w outcome
    cases hopen : s.isOpen <;> simp [conclude, hopen]
  have hcalls : (run setup browser task cancelAt clock shown w).calls.map (·.action) =
      (lastDrive setup browser task cancelAt shown).calls.reverse.map (·.action) ++
        if (lastDrive setup browser task cancelAt shown).isOpen then [.close] else [] := by
    rcases run_eq_conclude setup browser task cancelAt clock shown w with
      ⟨outcome, -, hrun⟩ | ⟨-, hrun⟩
    · rw [hrun, hconclude]
    · rw [hrun, hconclude]
  have hclose : ∀ isOpen : Bool, (if isOpen then [Event.call .close] else []).filterMap
      Event.action? = if isOpen then [.close] else [] := by
    intro isOpen
    cases isOpen <;> rfl
  rw [hcalls, events, List.filterMap_append, List.filterMap_append, hmerges, hclose,
    List.append_nil]
  exact congrArg (· ++ _) hdrive

/-- A run needs to know of the task no more than its texts, its timeout, and the answers to what it
asks: the script for the contexts and the merges of the results among the events. -/
theorem run_congr (task' : Task α) (htimeout : task'.timeout = task.timeout)
    (hstatus : task'.initialStatus = task.initialStatus)
    (htext : task'.progressText = task.progressText) {cancelAt : Option Nat} {clock : Clock}
    {shown : Progress} {w : Workspace}
    (hscript : ∀ context, .script context ∈ events setup browser task cancelAt shown →
      task'.script context = task.script context)
    (hmerge : ∀ r, .merge r ∈ events setup browser task cancelAt shown →
      task'.merge clock r w = task.merge clock r w) :
    run setup browser task' cancelAt clock shown w =
      run setup browser task cancelAt clock shown w := by
  have hdrive : driveTo setup browser task' (limit task.timeout.toMillis cancelAt) shown =
      driveTo setup browser task (limit task.timeout.toMillis cancelAt) shown := by
    refine Drive.advance_congr setup browser task hstatus htext _ fun context hcontext => ?_
    exact hscript context (List.mem_append_left _ (List.mem_append_left _ hcontext))
  unfold run
  rw [htimeout]
  dsimp only
  rw [hdrive]
  cases hstage :
      (driveTo setup browser task (limit task.timeout.toMillis cancelAt) shown).stage with
  | ended outcome =>
    cases outcome with
    | ok r =>
      have hmerged : task'.merge clock r w = task.merge clock r w := by
        refine hmerge r (List.mem_append_left _ (List.mem_append_right _ ?_))
        rw [lastDrive, hstage]
        exact List.mem_singleton.mpr rfl
      simp only [settle, hmerged]
    | error f => rfl
  | _ => rfl

/-- A run takes its course as far as it comes, and then closes the session if the browser opened one
before the limit; otherwise it does no more than ask for a session.  An operation that is cancelled
before it runs does nothing.  The calls that are noted are those that happen, and of the task
nothing else is asked than what happens. -/
theorem course_of_run (cancelAt : Option Nat) (clock : Clock) (shown : Progress) (w : Workspace) :
    let e := run setup browser task cancelAt clock shown w
    let happened := events setup browser task cancelAt shown
    let opened := browser.OpensBefore (limit task.timeout.toMillis cancelAt)
    e.calls.map (·.action) = happened.filterMap Event.action? ∧
    (∃ before,
      (∃ k context script m r, IsCourse setup browser task k context script m r before) ∧
      (opened ∧ happened = before ++ [.call .close] ∨
        ¬ opened ∧ happened = before ∧ before <+: [.call (.launch setup.profileDir)])) ∧
    (cancelAt = some 0 → happened = []) ∧
    ∀ script' merge',
      (∀ context, .script context ∈ happened → script' context = task.script context) →
      (∀ r, .merge r ∈ happened → merge' clock r w = task.merge clock r w) →
      run setup browser { task with script := script', merge := merge' } cancelAt clock shown w =
        e := by
  intro e happened opened
  refine ⟨actions_run setup browser task cancelAt clock shown w, ?_, ?_, ?_⟩
  · have hbegin : Past setup browser task (Drive.start shown).stage (Drive.start shown).isOpen [] :=
      .beginning
    have hpast :=
      Drive.past_advance setup browser task (limit task.timeout.toMillis cancelAt) hbegin
    obtain ⟨hcourse, hclosed⟩ := hpast.isCourse_merges
      (heard_driveTo setup browser task (limit task.timeout.toMillis cancelAt) shown)
    have hopened :=
      isOpen_driveTo_iff setup browser task (limit task.timeout.toMillis cancelAt) shown
    rw [List.nil_append] at hcourse hclosed
    refine ⟨_, hcourse, ?_⟩
    cases hopen : (lastDrive setup browser task cancelAt shown).isOpen with
    | true => exact .inl ⟨hopened.mp hopen, by simp only [happened, events, hopen]; rfl⟩
    | false =>
      refine .inr ⟨fun h => ?_, by simp only [happened, events, hopen]; exact List.append_nil _,
        hclosed hopen⟩
      exact absurd (hopened.mpr h) (by rw [lastDrive] at hopen; simp [hopen])
  · rintro rfl
    have hlimit : limit task.timeout.toMillis (some 0) = 0 := Nat.zero_min _
    have hnot : ¬ ((Drive.start shown).stage.isOver = false ∧ (Drive.start shown).time < 0) :=
      fun h => Nat.not_lt_zero _ h.2
    simp only [happened, events, lastDrive, driveTo, hlimit]
    rw [Drive.events_of_not_lt hnot, Drive.advance_of_not_lt hnot]
    rfl
  · intro script' merge' hscript hmerge
    exact run_congr setup browser task { task with script := script', merge := merge' } rfl rfl rfl
      hscript hmerge

end

end ChatArchive.Operation
