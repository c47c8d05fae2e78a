import ChatArchive.Proofs.Operation.Polling
import Mathlib.Algebra.GroupWithZero.Nat
import Mathlib.Data.List.Chain

/-!
# The count of a run

The page publishes a counter, which may go back, stand still or leap, and which is read whenever a
poll finds a state.  A step that takes in a state raises the count to its reading if that is
greater, and shows the text of the new count; no other step touches the count (`Drive.count_step`),
asks for a text of progress (`Drive.step_of_not_takes`) or, among those that take a reply, changes
what is shown.

Along a drive the count therefore climbs with its readings (`Drive.climbs_readings`), and all that
is said of whole runs follows from that (`counts_of_run`).
-/

namespace ChatArchive.Operation

variable {α : Type} (setup : Setup) (browser : Browser) (task : Task α)

/-! ## Readings of the counter -/

namespace Progress

/-- A reading raises the count by what is told. -/
theorem add_raise_record (p : Progress) (reading : Nat) :
    p.count + (p.record reading).2 = max p.count reading := by
  unfold record
  split <;> dsimp only <;> omega

/-- A reading raises the count to itself, and never lowers it. -/
theorem count_observe (p : Progress) (text : Nat → String) (reading : Nat) :
    (p.observe text reading).count = max p.count reading := by
  by_cases h : p.count < reading
  · rw [observe_of_lt h, Nat.max_eq_right (Nat.le_of_lt h)]
  · rw [observe_of_not_lt h, Nat.max_eq_left (Nat.le_of_not_lt h)]

end Progress

namespace Drive

/-- The state that the next step takes in: that of the reply which the drive waits for, if it can be
read. -/
def takes? (s : Drive) : Option PollState :=
  match s.stage with
  | .polling k _ => (browser.poll k).state?
  | _ => none

/-- The drives that take in a state before the limit, and the states. -/
def readings (limit : Nat) (s : Drive) : List (Drive × PollState) :=
  (s.trail setup browser task limit).filterMap fun t =>
    if t.time < limit then (t.takes? browser).map (t, ·) else none

/-- The next step shows a text, whatever was shown before. -/
def Rewrites (s : Drive) (text : String) : Prop :=
  ∀ shown, ((s.say shown).step setup browser task).progress.statusText = text

/-- The next step leaves the text that is shown. -/
def LeavesText (s : Drive) : Prop :=
  ∀ shown, ((s.say shown).step setup browser task).progress.statusText = shown

/-! ## Steps -/

section

variable {setup browser task} {s : Drive} {state : PollState}

/-- A drive takes a state if it waits for the answer to a poll and that can be read. -/
theorem takes?_eq_some_iff : s.takes? browser = some state ↔
    ∃ k next, s.stage = .polling k next ∧ (browser.poll k).state? = some state := by
  unfold takes?
  constructor
  · intro h
    split at h
    · exact ⟨_, _, ‹_›, h⟩
    · cases h
  · rintro ⟨k, next, hstage, hstate⟩
    rw [hstage]
    exact hstate

/-- A drive that is over takes nothing. -/
theorem takes?_of_isOver (h : s.stage.isOver = true) : s.takes? browser = none := by
  unfold takes?
  split
  · rename_i hstage
    rw [hstage] at h
    cases h
  · rfl

/-- What is shown after the answer to a poll. -/
theorem progress_step_of_polling {k next : Nat} (h : s.stage = .polling k next) :
    (s.step setup browser task).progress =
      match s.takes? browser with
      | some state => s.progress.observe task.progressText state.count
      | none => s.progress := by
  have hstep : s.step setup browser task = s.takePoll browser task k next := by
    simp only [step, h]
  rw [hstep, (takePoll_eq s k next).1]
  cases hstate : (browser.poll k).state? with
  | none => simp only [polling, takes?, h, hstate]
  | some state => simp only [polling, takes?, h, hstate]

/-- A step that takes a state shows its count. -/
theorem progress_step_of_takes (h : s.takes? browser = some state) :
    (s.step setup browser task).progress = s.progress.observe task.progressText state.count := by
  obtain ⟨k, next, hstage, -⟩ := takes?_eq_some_iff.mp h
  rw [progress_step_of_polling hstage, h]

/-- A step that takes in no state leaves the count. -/
theorem count_step_of_not_takes (h : s.takes? browser = none) :
    (s.step setup browser task).progress.count = s.progress.count := by
  obtain ⟨time, stage, progress, isOpen, calls⟩ := s
  cases stage with
  | polling k next => rw [progress_step_of_polling rfl, h]
  | beginning | pausing _ _ | settling | ticking _ _ | stalled | ended _ => rfl
  | launching => cases hl : browser.launch.outcome <;> simp only [step, hl] <;> rfl
  | navigating => cases hn : browser.navigate.outcome <;> simp only [step, hn] <;> rfl
  | injecting => cases hi : browser.inject.outcome <;> simp only [step, hi] <;> rfl
  | asking k asked =>
    cases ha : setup.sight (browser.address k).outcome <;> simp only [step, takeAddress, ha] <;>
      cases asked <;> rfl
  | readingCookie =>
    simp only [step, takeCookie]
    split
    · rfl
    · split
      · rfl
      · split <;> rfl

/-- A step raises the count to the reading that it takes in, if that is greater. -/
theorem count_step (s : Drive) : (s.step setup browser task).progress.count =
    (s.takes? browser).elim s.progress.count fun state => max s.progress.count state.count := by
  cases h : s.takes? browser with
  | none => exact count_step_of_not_takes h
  | some state => rw [progress_step_of_takes h, Progress.count_observe, Option.elim_some]

/-- No step lowers the count. -/
theorem count_le_step (s : Drive) :
    s.progress.count ≤ (s.step setup browser task).progress.count := by
  rw [count_step]
  cases s.takes? browser with
  | none => exact Nat.le_refl _
  | some state => exact Nat.le_max_left _ _

/-- A greater reading is shown with its text. -/
theorem rewrites_of_lt (h : s.takes? browser = some state) (hlt : s.progress.count < state.count) :
    s.Rewrites setup browser task (task.progressText state.count) := by
  intro shown
  have hlt' : (s.say shown).progress.count < state.count := hlt
  rw [progress_step_of_takes (s := s.say shown) h, Progress.observe_of_lt hlt']

/-- A state that does not raise the count leaves the text. -/
theorem leavesText_of_not_lt (h : s.takes? browser = some state)
    (hnot : ¬ s.progress.count < state.count) : s.LeavesText setup browser task := by
  intro shown
  have hnot' : ¬ (s.say shown).progress.count < state.count := hnot
  rw [progress_step_of_takes (s := s.say shown) h, Progress.observe_of_not_lt hnot']
  rfl

/-- A reply that bears no state leaves the text. -/
theorem leavesText_of_polling {k next : Nat} (h : s.stage = .polling k next)
    (hnone : s.takes? browser = none) : s.LeavesText setup browser task := by
  intro shown
  have hnone' : (s.say shown).takes? browser = none := hnone
  rw [progress_step_of_polling (s := s.say shown) h, hnone']
  rfl

/-- A step that takes in no state asks for no text of progress. -/
theorem step_of_not_takes (h : s.takes? browser = none) (text : Nat → String) :
    s.step setup browser { task with progressText := text } = s.step setup browser task := by
  obtain ⟨time, stage, progress, isOpen, calls⟩ := s
  cases stage with
  | polling k next =>
    have hstate : (browser.poll k).state? = none := h
    simp only [step, takePoll, readingOf_eq, hstate]
    cases (browser.poll k).isClosed <;> rfl
  | _ => rfl

end

/-! ## Drives -/

section

variable {setup browser task} {limit : Nat} {s : Drive}

/-- The readings of a drive are that of its next step and those of the rest. -/
theorem readings_of_lt (h : s.stage.isOver = false ∧ s.time < limit) :
    s.readings setup browser task limit = (s.takes? browser).toList.map (s, ·) ++
      (s.step setup browser task).readings setup browser task limit := by
  rw [readings, trail_of_lt h, List.filterMap_cons, if_pos h.2]
  cases s.takes? browser <;> rfl

/-- At the limit there are no further readings. -/
theorem readings_of_not_lt (h : ¬ (s.stage.isOver = false ∧ s.time < limit)) :
    s.readings setup browser task limit = [] := by
  rw [readings, trail_of_not_lt h, List.filterMap_cons, List.filterMap_nil]
  by_cases htime : s.time < limit
  · have hover : s.stage.isOver = true := by simpa [htime] using h
    rw [if_pos htime, takes?_of_isOver hover]
    rfl
  · rw [if_neg htime]

/-- Every reading is taken by its drive. -/
theorem takes?_of_mem_readings {t : Drive} {state : PollState}
    (h : (t, state) ∈ s.readings setup browser task limit) : t.takes? browser = some state := by
  obtain ⟨t', -, ht⟩ := List.mem_filterMap.mp h
  split at ht
  · obtain ⟨state', htakes, heq⟩ := Option.map_eq_some_iff.mp ht
    cases heq
    exact htakes
  · cases ht

end

/-- Readings raise the count from `n` to `m`, one after the other. -/
inductive Climbs : Nat → List (Drive × PollState) → Nat → Prop where
  | stay (n : Nat) : Climbs n [] n
  | go {n m : Nat} {s : Drive} {state : PollState} {rest : List (Drive × PollState)}
      (hs : s.progress.count = n) (hrest : Climbs (max n state.count) rest m) :
      Climbs n ((s, state) :: rest) m

namespace Climbs

variable {n m : Nat} {taken : List (Drive × PollState)}

/-- The count comes to the greatest reading. -/
theorem eq_foldl (h : Climbs n taken m) : m = (taken.map (·.2.count)).foldl max n := by
  induction h with
  | stay n => rfl
  | go _ _ ih => exact ih

/-- The raises that are told add up. -/
theorem add_sum_eq (h : Climbs n taken m) :
    n + (taken.map fun (s, state) => (s.progress.record state.count).2).sum = m := by
  induction h with
  | stay n => rfl
  | @go n m s state rest hs _ ih =>
    rw [List.map_cons, List.sum_cons, ← Nat.add_assoc, ← ih]
    rw [← hs, Progress.add_raise_record]

/-- What is shown before a reading is the greatest of those before it. -/
theorem count_eq (h : Climbs n taken m) {i : Nat} {s : Drive} {state : PollState}
    (hi : taken[i]? = some (s, state)) :
    s.progress.count = ((taken.map (·.2.count)).take i).foldl max n := by
  induction h generalizing i with
  | stay n => cases hi
  | go hs _ ih =>
    cases i with
    | zero =>
      cases hi
      exact hs
    | succ i => exact ih hi

end Climbs

/-- Along a drive the count climbs with the readings. -/
theorem climbs_readings (limit : Nat) (s : Drive) :
    Climbs s.progress.count (s.readings setup browser task limit)
      (s.advance setup browser task limit).progress.count := by
  induction s using trail.induct setup browser task limit with
  | case1 s h ih =>
    rw [readings_of_lt h, advance_of_lt h]
    rw [count_step] at ih
    cases htakes : s.takes? browser with
    | none =>
      rw [htakes] at ih
      exact ih
    | some state =>
      rw [htakes] at ih
      exact .go rfl ih
  | case2 s h =>
    rw [readings_of_not_lt h, advance_of_not_lt h]
    exact .stay _

/-- Along a trail the count never goes back. -/
theorem isChain_counts (limit : Nat) (s : Drive) :
    ((s.trail setup browser task limit).map (·.progress.count)).IsChain (· ≤ ·) := by
  induction s using trail.induct setup browser task limit with
  | case1 s h ih =>
    obtain ⟨rest, hrest⟩ :=
      (s.step setup browser task).exists_trail_eq_cons setup browser task limit
    rw [trail_of_lt h, hrest]
    rw [hrest] at ih
    exact .cons_cons (count_le_step s) ih
  | case2 s h =>
    rw [trail_of_not_lt h]
    exact .singleton _

end Drive

/-! ## Replies by the calls -/

/-- The states in the replies to some polls, those that come before a limit. -/
def Browser.heard (limit : Nat) (polls : List Call) : List PollState :=
  polls.zipIdx.filterMap fun (call, k) =>
    if call.time + (browser.poll k).delay < limit then (browser.poll k).state? else none

/-- One more poll adds its state, if its answer comes before the limit. -/
theorem Browser.heard_concat (limit : Nat) (polls : List Call) (call : Call) :
    browser.heard limit (polls ++ [call]) = browser.heard limit polls ++
      if call.time + (browser.poll polls.length).delay < limit then
        (browser.poll polls.length).state?.toList
      else [] := by
  rw [heard, heard, List.zipIdx_append, List.filterMap_append, Nat.zero_add]
  congr 1
  simp only [List.zipIdx_cons, List.zipIdx_nil, List.filterMap_cons, List.filterMap_nil]
  split_ifs <;> cases (browser.poll polls.length).state? <;> rfl

namespace Drive

/-- The polls that were made, in order. -/
def polls (s : Drive) : List Call := (s.calls.filter (·.action == .poll)).reverse

/-- The states that were taken in so far, by the polls that were made: a reply that is still waited
for comes at the time of the drive, and polls are made only when replies are taken. -/
def HasHeard (limit : Nat) (s : Drive) (states : List PollState) : Prop :=
  match s.stage with
  | .ticking k _ => s.polls.length = k ∧ browser.heard limit s.polls = states
  | .polling k _ => ∃ before call, s.polls = before ++ [call] ∧ before.length = k ∧
      call.time + (browser.poll k).delay = s.time ∧ browser.heard limit before = states
  | .stalled | .ended _ => browser.heard limit s.polls = states
  | _ => s.polls = [] ∧ states = []

section

variable {setup browser task} {limit : Nat} {s : Drive} {states : List PollState}

/-- A step adds to what was heard the state that it takes. -/
theorem HasHeard.step (h : s.HasHeard browser limit states) (hover : s.stage.isOver = false)
    (htime : s.time < limit) : (s.step setup browser task).HasHeard browser limit
      (states ++ (s.takes? browser).toList) := by
  obtain ⟨time, stage, progress, isOpen, calls⟩ := s
  cases stage with
  | ticking k due =>
    obtain ⟨hk, hheard⟩ := h
    refine ⟨_, ⟨time, .poll, progress⟩, List.reverse_cons, hk, rfl, ?_⟩
    exact hheard.trans (List.append_nil _).symm
  | polling k next =>
    obtain ⟨before, call, hpolls, hk, harrives, hheard⟩ := h
    let s : Drive := ⟨time, .polling k next, progress, isOpen, calls⟩
    have hstates : browser.heard limit s.polls = states ++ (s.takes? browser).toList := by
      rw [hpolls, Browser.heard_concat, hk, harrives, if_pos htime, hheard]
      rfl
    have hlength : s.polls.length = k + 1 := by rw [hpolls, List.length_append, hk]; rfl
    obtain ⟨-, hcalls, hend⟩ : _ ∧ (s.takePoll browser task k next).calls = s.calls ∧ _ :=
      takePoll_eq s k next
    have hpolls' : (s.takePoll browser task k next).polls = s.polls := by rw [polls, hcalls, polls]
    change (s.takePoll browser task k next).HasHeard browser limit _
    rw [HasHeard, hend, hpolls']
    simp only [polling]
    cases (browser.poll k).end? with
    | none => exact ⟨hlength, hstates⟩
    | some outcome => exact hstates
  | stalled | ended _ => cases hover
  -- before the first poll nothing is heard, and no call is a poll
  | beginning | pausing _ _ | settling =>
    obtain ⟨hpolls, rfl⟩ := h
    exact ⟨hpolls, rfl⟩
  | launching =>
    obtain ⟨hpolls, rfl⟩ := h
    cases hl : browser.launch.outcome with
    | error fault =>
      simp only [Drive.step, hl]
      exact congrArg (browser.heard limit) hpolls
    | ok _ =>
      simp only [Drive.step, hl]
      exact ⟨hpolls, rfl⟩
  | navigating =>
    obtain ⟨hpolls, rfl⟩ := h
    cases hn : browser.navigate.outcome with
    | error fault =>
      simp only [Drive.step, hn]
      exact congrArg (browser.heard limit) hpolls
    | ok _ =>
      simp only [Drive.step, hn]
      exact ⟨hpolls, rfl⟩
  | asking k asked =>
    obtain ⟨hpolls, rfl⟩ := h
    cases ha : setup.sight (browser.address k).outcome with
    | closed =>
      simp only [Drive.step, takeAddress, ha]
      exact congrArg (browser.heard limit) hpolls
    | _ =>
      simp only [Drive.step, takeAddress, ha]
      cases asked <;> exact ⟨hpolls, rfl⟩
  | readingCookie =>
    obtain ⟨hpolls, rfl⟩ := h
    have hended := congrArg (browser.heard limit) hpolls
    simp only [Drive.step, takeCookie]
    split
    · exact hended
    · split
      · exact hended
      · split
        · exact hended
        · exact ⟨hpolls, rfl⟩
  | injecting =>
    obtain ⟨hpolls, rfl⟩ := h
    cases hi : browser.inject.outcome with
    | error fault =>
      simp only [Drive.step, hi]
      exact congrArg (browser.heard limit) hpolls
    | ok _ =>
      simp only [Drive.step, hi]
      exact ⟨congrArg List.length hpolls, congrArg (browser.heard limit) hpolls⟩

/-- A drive that goes no further has heard all that comes to it before the limit. -/
theorem HasHeard.heard_polls (h : s.HasHeard browser limit states)
    (hnot : ¬ (s.stage.isOver = false ∧ s.time < limit)) :
    browser.heard limit s.polls = states := by
  unfold HasHeard at h
  split at h
  · exact h.2
  · rename_i hstage
    obtain ⟨before, call, hpolls, hk, harrives, hheard⟩ := h
    have hlate : ¬ s.time < limit := fun ht => hnot ⟨by rw [hstage]; rfl, ht⟩
    rw [hpolls, Browser.heard_concat, hk, harrives, if_neg hlate, List.append_nil, hheard]
  · exact h
  · exact h
  · rw [h.1, h.2]
    rfl

/-- The states that a drive takes in are those in the replies to its polls. -/
theorem HasHeard.heard_advance (h : s.HasHeard browser limit states) :
    browser.heard limit (s.advance setup browser task limit).polls =
      states ++ (s.readings setup browser task limit).map (·.2) := by
  induction s using trail.induct setup browser task limit generalizing states with
  | case1 s hlt ih =>
    have hmap : ((s.takes? browser).toList.map (s, ·)).map (·.2) = (s.takes? browser).toList := by
      cases s.takes? browser <;> rfl
    rw [advance_of_lt hlt, readings_of_lt hlt, ih (h.step hlt.1 hlt.2), List.map_append, hmap,
      List.append_assoc]
  | case2 s hnot =>
    rw [advance_of_not_lt hnot, readings_of_not_lt hnot, h.heard_polls hnot]
    exact (List.append_nil _).symm

end

end Drive

/-! ## Runs -/

/-- The polls of a run are those of its drive. -/
theorem polls_run (cancelAt : Option Nat) (clock : Clock) (shown : Progress) (w : Workspace) :
    (run setup browser task cancelAt clock shown w).calls.filter (·.action == .poll) =
      (lastDrive setup browser task cancelAt shown).polls := by
  have hconclude : ∀ (s : Drive) (time : Nat) (w : Workspace) (outcome : Except Failure α),
      (conclude s time w outcome).calls.filter (·.action == .poll) = s.polls := by
    intro s time w outcome
    cases hopen : s.isOpen <;> simp [conclude, hopen, Drive.polls]
  rcases run_eq_conclude setup browser task cancelAt clock shown w with
    ⟨outcome, -, hrun⟩ | ⟨-, hrun⟩
  · rw [hrun, hconclude]
  · rw [hrun, hconclude]

/-- The counts that an operation shows in a run, at each step and at the end, never go back.  The
states that are taken in are those in the replies that come before the run is cancelled or its time
is up.  At the end the count is the greatest of zero and their readings, and the raises that were
told for them add up to it.

A reply with a greater reading than all before it rewrites the text that is shown, to that of the
new count; any other reply leaves the text, and what else happens asks for no text of progress. -/
theorem counts_of_run (owner : Option String) (cancelAt : Option Nat) (clock : Clock)
    (w : Workspace) :
    let start := Drive.start (task.prepare owner)
    let until_ := limit task.timeout.toMillis cancelAt
    let e := run setup browser task cancelAt clock (task.prepare owner) w
    let drives := start.trail setup browser task until_
    let taken := start.readings setup browser task until_
    let readings := taken.map (·.2.count)
    (drives.map (·.progress.count) ++ [e.progress.count]).Pairwise (· ≤ ·) ∧
    taken.map (·.2) = browser.heard until_ (e.calls.filter (·.action == .poll)) ∧
    (0 :: readings).max? = some e.progress.count ∧
    (taken.map fun (s, state) => (s.progress.record state.count).2).sum = e.progress.count ∧
    (∀ i s state, taken[i]? = some (s, state) →
      let most := (readings.take i).foldl max 0
      (most < state.count → s.Rewrites setup browser task (task.progressText state.count)) ∧
      (state.count ≤ most → s.LeavesText setup browser task)) ∧
    (∀ s ∈ drives, s.takes? browser = none →
      (∀ k next, s.stage = .polling k next → s.LeavesText setup browser task) ∧
      ∀ text, s.step setup browser { task with progressText := text } =
        s.step setup browser task) ∧
    e.progress.statusText = Progress.finalText e.outcome := by
  intro start until_ e drives taken readings
  have hclimbs : Drive.Climbs 0 taken (start.advance setup browser task until_).progress.count :=
    start.climbs_readings setup browser task until_
  have hend : e.progress =
      (start.advance setup browser task until_).progress.finish e.outcome := progress_run
  have hcount : e.progress.count = (start.advance setup browser task until_).progress.count := by
    rw [hend]
    rfl
  refine ⟨?_, ?_, ?_, ?_, ?_, ?_, ?_⟩
  · have hlast : (drives.map (·.progress.count)).getLast? = some e.progress.count := by
      rw [List.getLast?_map, Drive.getLast?_trail, hcount]
      rfl
    rw [← List.isChain_iff_pairwise, List.isChain_append, hlast]
    refine ⟨start.isChain_counts setup browser task until_, .singleton _, ?_⟩
    rintro n ⟨⟩ m ⟨⟩
    exact Nat.le_refl _
  · have hbegin : start.HasHeard browser until_ [] := ⟨rfl, rfl⟩
    rw [polls_run]
    exact hbegin.heard_advance.symm
  · rw [List.max?_cons', hcount, hclimbs.eq_foldl]
  · rw [hcount, ← hclimbs.add_sum_eq, Nat.zero_add]
  · intro i s state hi most
    have hmost : s.progress.count = most := hclimbs.count_eq hi
    have htakes : s.takes? browser = some state :=
      Drive.takes?_of_mem_readings (List.mem_of_getElem? hi)
    rw [← hmost]
    exact ⟨Drive.rewrites_of_lt htakes,
      fun h => Drive.leavesText_of_not_lt htakes (Nat.not_lt_of_le h)⟩
  · intro (s : Drive) _ hnone
    exact ⟨fun k next hstage => Drive.leavesText_of_polling hstage hnone,
      Drive.step_of_not_takes hnone⟩
  · rw [hend]
    rfl

end ChatArchive.Operation
