import ChatArchive.Operation.Browser
import ChatArchive.Operation.Setup
import ChatArchive.Operation.Task

/-!
# Driving the browser

An operation opens a session, goes to the entry page, waits until that is ready and settled, reads
the cookie that names the organization, injects the script, and polls until its work is done.

A drive is always waiting for something, and knows when that comes.  `Drive.step` takes what has
come and goes on to what is waited for next.  A drive comes to a standstill when its work is done,
when it has failed, and when the browser cannot be opened; then only the deadline or a cancel ends
the operation.

`Drive.step_lt` says that time goes on: no drive goes round at one instant for ever.
-/

namespace ChatArchive.Operation

/-- What a drive waits for. -/
inductive Stage where
  /-- Nothing: it begins now. -/
  | beginning
  | launching
  | navigating
  /-- The address of the page, for the `k`-th time; `asked` if the user was asked to log in. -/
  | asking (k : Nat) (asked : Bool)
  /-- The time until the address is read again. -/
  | pausing (k : Nat) (asked : Bool)
  /-- The time that the page is given once it is ready. -/
  | settling
  | readingCookie
  | injecting
  /-- The time of the `k`-th poll, which was to be at `due`. -/
  | ticking (k due : Nat)
  /-- The answer to the `k`-th poll; the next is to be at `next`. -/
  | polling (k next : Nat)
  /-- Nothing that would come. -/
  | stalled
  /-- Nothing: it is over. -/
  | ended (outcome : Except Failure ScriptResult)

/-- Is a drive at a standstill? -/
def Stage.isOver : Stage → Bool
  | stalled | ended _ => true
  | _ => false

/-- A drive. -/
structure Drive where
  /-- When that comes which the drive waits for. -/
  time : Nat
  stage : Stage
  progress : Progress
  /-- Is a session open? -/
  isOpen : Bool
  /-- The calls that were made, the latest first. -/
  calls : List Call

/-! ## Replies that come again and again -/

/-- What the address of the page tells. -/
inductive Sight where
  | ready
  | elsewhere
  | unreadable
  | closed
  deriving Repr, DecidableEq

/-- What an answer tells of the page. -/
def Setup.sight (setup : Setup) : Except BrowserFault Url → Sight
  | .ok page => if setup.isReady page then .ready else .elsewhere
  | .error .closed => .closed
  | .error _ => .unreadable

/-- What a poll tells: the state that the page publishes, nothing that can be read, or that the
session is closed. -/
inductive Reading where
  | state (s : PollState)
  | unreadable
  | closed

/-- The reading of an answer: a closed browser is told apart from an answer that is no state. -/
def readingOf : Except BrowserFault Json → Reading
  | .ok j =>
    match decodeReply PollState.decoder j with
    | .ok s => .state s
    | .error _ => .unreadable
  | .error .closed => .closed
  | .error _ => .unreadable

/-- Show a reading of the counter.  The text changes only with the count. -/
def Progress.observe (p : Progress) (text : Nat → String) (reading : Nat) : Progress :=
  let (q, raise) := p.record reading
  if 0 < raise then q.say (text q.count) else q

/-- What a state says of the end of the work: nothing while that goes on, and else the result. -/
def PollState.outcome? (s : PollState) : Option (Except Failure ScriptResult) :=
  if s.done then
    match s.result with
    | some r => some (decodeReply ScriptResult.decoder r)
    | none => some (.error (.script "operation finished without a result"))
  else none

namespace Drive

/-- A drive that begins. -/
def start (p : Progress) : Drive := ⟨0, .beginning, p, false, []⟩

/-! ## Parts of steps -/

/-- Show a text. -/
def say (s : Drive) (text : String) : Drive := { s with progress := s.progress.say text }

/-- Go on to a status. -/
def goTo (s : Drive) (next : Status) : Drive := { s with progress := s.progress.goTo next }

/-- Wait for a time that comes after some milliseconds. -/
def wait (s : Drive) (delay : Nat) (next : Stage) : Drive :=
  { s with time := s.time + delay, stage := next }

/-- Make a call, and wait for its answer. -/
def call (s : Drive) (action : Action) (delay : Nat) (next : Stage) : Drive :=
  { s.wait delay next with calls := ⟨s.time, action, s.progress⟩ :: s.calls }

/-- Stand still, showing why. -/
def stall (s : Drive) (what : String) (fault : BrowserFault) : Drive :=
  { s.say (what ++ ": " ++ fault.message) with stage := .stalled }

/-- Be over. -/
def endWith (s : Drive) (outcome : Except Failure ScriptResult) : Drive :=
  { s with stage := .ended outcome }

/-- End with a failure. -/
def fail (s : Drive) (f : Failure) : Drive := s.endWith (.error f)

/-- Wait for the time of a poll, which may have passed. -/
def awaitTick (s : Drive) (k due : Nat) : Drive :=
  { s with time := max due s.time, stage := .ticking k due }

/-- When the poll after one at `now` is to be, if that was to be at `due`.  Polls keep their grid
unless one is late. -/
def nextTick (interval due now : Nat) : Nat :=
  if due + 5 < now then now + interval else due + interval

/-! ## Steps -/

variable {α : Type} (setup : Setup) (browser : Browser) (task : Task α)

/-- Read the address of the page for the `k`-th time. -/
def askAddress (s : Drive) (k : Nat) (asked : Bool) : Drive :=
  s.call .readAddress (browser.address k).delay (.asking k asked)

/-- Take the address of the page. -/
def takeAddress (s : Drive) (k : Nat) (asked : Bool) : Drive :=
  match setup.sight (browser.address k).outcome with
  | .ready => s.wait setup.settleMillis .settling
  | .elsewhere =>
    (if asked then s else s.say "Waiting for login in the browser window").wait setup.pollMillis
      (.pausing k true)
  | .unreadable => s.wait setup.pollMillis (.pausing k asked)
  | .closed => s.fail (.session .closed)

/-- Take the cookie, and inject the script for the organization that it names. -/
def takeCookie (s : Drive) : Drive :=
  match browser.cookie.outcome with
  | .error fault => s.fail (.session fault)
  | .ok value =>
    match value.filter (· != "") with
    | none => s.fail .noOrganization
    | some organization =>
      match task.script ⟨organization, setup.apiBase⟩ with
      | .error f => s.fail f
      | .ok script => s.call (.inject script) browser.inject.delay .injecting

/-- Take the answer to a poll. -/
def takePoll (s : Drive) (k next : Nat) : Drive :=
  match readingOf (browser.poll k).outcome with
  | .closed => s.fail (.session .closed)
  | .unreadable => s.awaitTick (k + 1) next
  | .state state =>
    let s := { s with progress := s.progress.observe task.progressText state.count }
    match state.outcome? with
    | some outcome => s.endWith outcome
    | none => s.awaitTick (k + 1) next

/-- Take what has come, and go on to what is waited for next. -/
def step (s : Drive) : Drive :=
  match s.stage with
  | .beginning =>
    (s.say "Opening browser session").call (.launch setup.profileDir) browser.launch.delay
      .launching
  | .launching =>
    match browser.launch.outcome with
    | .error fault => s.stall "Browser session failed to start" fault
    | .ok _ =>
      ((({ s with isOpen := true }).goTo .awaitingReady).say "Loading").call
        (.navigate setup.entry) browser.navigate.delay .navigating
  | .navigating =>
    match browser.navigate.outcome with
    | .error fault => s.stall "Navigation failed" fault
    | .ok _ => s.askAddress browser 0 false
  | .asking k asked => s.takeAddress setup browser k asked
  | .pausing k asked => s.askAddress browser (k + 1) asked
  | .settling =>
    ((s.goTo .running).say task.initialStatus).call (.readCookie setup.organizationCookie)
      browser.cookie.delay .readingCookie
  | .readingCookie => s.takeCookie setup browser task
  | .injecting =>
    match browser.inject.outcome with
    | .error fault => s.fail (.injection fault.message)
    | .ok _ => s.awaitTick 0 s.time
  | .ticking k due =>
    s.call .poll (browser.poll k).delay (.polling k (nextTick setup.pollMillis due s.time))
  | .polling k next => s.takePoll browser task k next
  | .stalled | .ended _ => s

/-! ## Time goes on -/

/-- The rank of waiting until `time` for the answer to a poll: it depends on whether the next poll
is to follow at once. -/
def pollRank (time next : Nat) : Nat := if next ≤ time then 3 else 1

/-- How many steps can follow at one instant, at most. -/
def rank (s : Drive) : Nat :=
  match s.stage with
  | .beginning => 11
  | .launching => 10
  | .navigating => 9
  | .pausing _ _ => 8
  | .asking _ _ => 7
  | .settling => 6
  | .readingCookie => 5
  | .injecting => 4
  | .polling _ next => pollRank s.time next
  | .ticking _ _ => 2
  | .stalled | .ended _ => 0

/-- The next tick is still to come. -/
theorem lt_nextTick {interval : Nat} (h : 10 ≤ interval) (due now : Nat) :
    now < nextTick interval due now := by
  unfold nextTick
  split <;> omega

/-- A step goes on in time, or else down in rank. -/
theorem step_lt (s : Drive) (h : s.stage.isOver = false) :
    s.time < (s.step setup browser task).time ∨
      (s.step setup browser task).time = s.time ∧
        (s.step setup browser task).rank < s.rank := by
  have hpoll := setup.pollMillis_ge
  obtain ⟨time, stage, progress, isOpen, calls⟩ := s
  cases stage with
  | beginning =>
    simp [step, call, wait, say, rank]
    omega
  | launching =>
    cases h' : browser.launch.outcome with
    | error fault => simp [step, stall, say, rank, h']
    | ok _ =>
      simp [step, call, wait, say, goTo, rank, h']
      omega
  | navigating =>
    cases h' : browser.navigate.outcome with
    | error fault => simp [step, stall, say, rank, h']
    | ok _ =>
      simp [step, askAddress, call, wait, rank, h']
      omega
  | asking k asked =>
    simp only [step, takeAddress]
    split <;> cases asked <;> simp [wait, say, fail, endWith, rank] <;> omega
  | pausing k asked =>
    simp [step, askAddress, call, wait, rank]
    omega
  | settling =>
    simp [step, call, wait, say, goTo, rank]
    omega
  | readingCookie =>
    simp only [step, takeCookie]
    split
    · simp [fail, endWith, rank]
    · split
      · simp [fail, endWith, rank]
      · split
        · simp [fail, endWith, rank]
        · simp [call, wait, rank]
          omega
  | injecting =>
    cases h' : browser.inject.outcome <;> simp [step, fail, endWith, awaitTick, rank, h']
  | ticking k due =>
    have hnext := lt_nextTick hpoll due time
    obtain hd | hd := Nat.eq_zero_or_pos (browser.poll k).delay
    · refine .inr ⟨by simp [step, call, wait, hd], ?_⟩
      simp [step, call, wait, rank, hd, pollRank, Nat.not_le_of_lt hnext]
    · exact .inl (Nat.lt_add_of_pos_right hd)
  | polling k next =>
    have hover : 0 < pollRank time next := by unfold pollRank; split <;> omega
    have htick : time < max next time ∨ max next time = time ∧ 2 < pollRank time next := by
      unfold pollRank
      split <;> omega
    simp only [step, takePoll]
    split
    · exact .inr ⟨rfl, hover⟩
    · exact htick
    · split
      · exact .inr ⟨rfl, hover⟩
      · exact htick
  | stalled => simp [Stage.isOver] at h
  | ended outcome => simp [Stage.isOver] at h

/-- Drive on as long as that which is waited for comes before the limit. -/
def advance (limit : Nat) (s : Drive) : Drive :=
  if _h : s.stage.isOver = false ∧ s.time < limit then
    advance limit (s.step setup browser task)
  else s
termination_by (limit - s.time, s.rank)
decreasing_by
  obtain h' | ⟨h', h''⟩ := s.step_lt setup browser task _h.1
  · exact Prod.Lex.left _ _ (by omega)
  · rw [h']
    exact Prod.Lex.right _ h''

end Drive

end ChatArchive.Operation
