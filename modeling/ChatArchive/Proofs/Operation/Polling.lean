import ChatArchive.Proofs.Operation.Trail
import Mathlib.Logic.Relation

/-!
# Replies that cannot be read

Twice a drive asks the browser again and again: for the address of the page until that is ready, and
for the state that the page publishes until the work is done.  Both are a `Loop` over replies: each
reply changes what is shown, or nothing, and some end the loop.  `Loop.reaches` goes along the
replies, round by round (`address_round`, `poll_round`).

Replies that cannot be read change nothing and end nothing, so that a drive comes to the same end,
and shows the same, as one that does not get them (`ends_without_unreadable`); only the time is
another.
-/

namespace ChatArchive.Operation

variable {α : Type} (setup : Setup) (browser : Browser) (task : Task α)

/-! ## Steps one after the other -/

namespace Drive

/-- A drive that is left to itself comes to another one by some steps. -/
abbrev Reaches : Drive → Drive → Prop :=
  Relation.ReflTransGen fun s t => s.stage.isOver = false ∧ t = s.step setup browser task

/-- How often the drive made a call. -/
def made (s : Drive) (action : Action) : Nat := s.calls.countP (·.action == action)

end Drive

/-! ## Loops over replies -/

/-- A loop over replies: what is shown after a reply, and the stage that the drive goes on to if the
reply ends the loop. -/
structure Loop (ρ : Type) where
  see : Progress → ρ → Progress
  exit? : ρ → Option Stage

namespace Loop

variable {ρ : Type} (loop : Loop ρ)

/-- Does a reply end the loop? -/
def ends (a : ρ) : Bool := (loop.exit? a).isSome

/-- What is shown after some replies, none of them behind the first that ends the loop. -/
def shown (p : Progress) : List ρ → Progress
  | [] => p
  | a :: rest => if loop.ends a then loop.see p a else shown (loop.see p a) rest

/-- A reply changes nothing and ends nothing. -/
structure Ignores (a : ρ) : Prop where
  exit : loop.exit? a = none
  see (p : Progress) : loop.see p a = p

variable {loop}

/-- Replies that are ignored may be left out. -/
theorem shown_filter {keeps : ρ → Bool} (h : ∀ a, keeps a = false → loop.Ignores a) (p : Progress)
    (replies : List ρ) : loop.shown p (replies.filter keeps) = loop.shown p replies := by
  induction replies generalizing p with
  | nil => rfl
  | cons a rest ih =>
    cases ha : keeps a with
    | true => rw [List.filter_cons_of_pos ha, shown, shown, ih]
    | false =>
      have hends : loop.ends a = false := by rw [ends, (h a ha).exit]; rfl
      rw [List.filter_cons_of_neg (by simp [ha]), shown, hends, (h a ha).see]
      exact ih p

/-- What ends the loop is not among the replies that are left out. -/
theorem findSome?_filter {β : Type} {f : ρ → Option β} {keeps : ρ → Bool}
    (h : ∀ a, keeps a = false → f a = none) (replies : List ρ) :
    (replies.filter keeps).findSome? f = replies.findSome? f := by
  have hf : (fun a => if keeps a then f a else none) = f := by
    funext a
    cases ha : keeps a with
    | true => rfl
    | false => exact (h a ha).symm
  rw [← List.head?_filterMap, ← List.head?_filterMap, List.filterMap_filter, hf]

/-- From round to round a drive goes along the replies, to the first that ends the loop or to the
end of the list.  `At k` holds of a drive before round `k`, and `calls k` have been made when the
loop ends in it. -/
theorem reaches (loop : Loop ρ) {reply : Nat → ρ} {At : Nat → Drive → Prop} {action : Action}
    {calls : Nat → Nat}
    (hround : ∀ k s, At k s → ∃ e, s.Reaches setup browser task e ∧
      e.progress = loop.see s.progress (reply k) ∧
      match loop.exit? (reply k) with
      | some stage => e.stage = stage ∧ e.made action = calls k
      | none => At (k + 1) e)
    {replies : List ρ} {k : Nat} (hreplies : ∀ i a, replies[i]? = some a → reply (k + i) = a)
    {s : Drive} (hs : At k s) :
    ∃ e, s.Reaches setup browser task e ∧ e.progress = loop.shown s.progress replies ∧
      match replies.findSome? loop.exit? with
      | some stage => e.stage = stage ∧ e.made action = calls (k + replies.findIdx loop.ends)
      | none => At (k + replies.length) e := by
  induction replies generalizing k s with
  | nil => exact ⟨s, .refl, rfl, hs⟩
  | cons a rest ih =>
    have ha : reply k = a := hreplies 0 a rfl
    obtain ⟨t, hst, hprogress, ht⟩ := hround k s hs
    rw [ha] at hprogress ht
    rw [shown, List.findSome?_cons, List.findIdx_cons]
    cases hexit : loop.exit? a with
    | some stage =>
      have hends : loop.ends a = true := by rw [ends, hexit]; rfl
      rw [hexit] at ht
      rw [hends]
      exact ⟨t, hst, hprogress, ht⟩
    | none =>
      have hends : loop.ends a = false := by rw [ends, hexit]; rfl
      have hnext : ∀ n, k + 1 + n = k + (n + 1) := fun n => by omega
      have hrest : ∀ i b, rest[i]? = some b → reply (k + 1 + i) = b := by
        intro i b hb
        rw [hnext]
        exact hreplies (i + 1) b hb
      rw [hexit] at ht
      obtain ⟨e, hte, hshown, he⟩ := ih hrest ht
      rw [hprogress] at hshown
      simp only [hnext] at he
      rw [hends]
      exact ⟨e, hst.trans hte, hshown, he⟩

end Loop

/-! ## Polls -/

namespace Answer

/-- Does the answer report that the session is closed? -/
def isClosed {β : Type} (a : Answer β) : Bool :=
  match a.outcome with
  | .error .closed => true
  | _ => false

/-- The state that an answer bears, as it is or as its text. -/
def state? (a : Answer Json) : Option PollState :=
  match a.outcome with
  | .ok j => (decodeReply PollState.decoder j).toOption
  | .error _ => none

/-- Can the answer to a poll be read? -/
def isReadable (a : Answer Json) : Bool := a.isClosed || a.state?.isSome

/-- The end that an answer reports: the session is closed, or the work is done. -/
def end? (a : Answer Json) : Option (Except Failure ScriptResult) :=
  if a.isClosed then some (.error (.session .closed)) else a.state?.bind (·.outcome?)

end Answer

/-- What a poll tells is a closed session or the state that the answer bears. -/
theorem readingOf_eq (a : Answer Json) : readingOf a.outcome =
    if a.isClosed then .closed else
      match a.state? with
      | some state => .state state
      | none => .unreadable := by
  obtain ⟨delay, outcome⟩ := a
  cases outcome with
  | error fault => cases fault <;> rfl
  | ok j =>
    simp only [readingOf, Answer.isClosed, Answer.state?]
    cases decodeReply PollState.decoder j <;> rfl

/-- The polls until the work is done. -/
def polling (text : Nat → String) : Loop (Answer Json) where
  see p a :=
    match a.state? with
    | some state => p.observe text state.count
    | none => p
  exit? a := a.end?.map .ended

/-- An answer that cannot be read ends nothing. -/
theorem Answer.end?_of_not_readable (a : Answer Json) (h : a.isReadable = false) :
    a.end? = none := by
  obtain ⟨hclosed, hstate⟩ := Bool.or_eq_false_iff.mp h
  have hstate : a.state? = none := by simpa using hstate
  rw [end?, hclosed, hstate]
  rfl

/-- The polls go on as if there had been no such answer. -/
theorem polling_ignores (text : Nat → String) (a : Answer Json) (h : a.isReadable = false) :
    (polling text).Ignores a where
  exit := congrArg (Option.map Stage.ended) (a.end?_of_not_readable h)
  see p := by
    have hstate : a.state? = none := by simpa using (Bool.or_eq_false_iff.mp h).2
    simp only [polling, hstate]

/-- The drive is before its `k`-th poll, of those that follow on `base` others. -/
def Drive.AtPoll (base k : Nat) (s : Drive) : Prop :=
  (∃ due, s.stage = .ticking k due) ∧ s.made .poll = base + k

section

variable {setup browser task}

/-- What comes of the answer to a poll. -/
theorem takePoll_eq (s : Drive) (k next : Nat) :
    let e := s.takePoll browser task k next
    e.progress = (polling task.progressText).see s.progress (browser.poll k) ∧
      e.calls = s.calls ∧
      e.stage =
        ((polling task.progressText).exit? (browser.poll k)).getD (.ticking (k + 1) next) := by
  simp only [Drive.takePoll, readingOf_eq, polling, Answer.end?]
  cases hclosed : (browser.poll k).isClosed with
  | true =>
    have hnone : (browser.poll k).state? = none := by
      unfold Answer.isClosed at hclosed
      unfold Answer.state?
      split at hclosed <;> simp_all
    rw [hnone]
    exact ⟨rfl, rfl, rfl⟩
  | false =>
    cases hstate : (browser.poll k).state? with
    | none => exact ⟨rfl, rfl, rfl⟩
    | some state =>
      cases hdone : state.outcome? with
      | none => simp [Drive.awaitTick, hdone]
      | some outcome => simp [Drive.endWith, hdone]

/-- A drive makes a poll and takes the answer. -/
theorem poll_round {base k : Nat} {s : Drive} (hs : s.AtPoll base k) :
    ∃ e, s.Reaches setup browser task e ∧
      e.progress = (polling task.progressText).see s.progress (browser.poll k) ∧
      match (polling task.progressText).exit? (browser.poll k) with
      | some stage => e.stage = stage ∧ e.made .poll = base + (k + 1)
      | none => e.AtPoll base (k + 1) := by
  obtain ⟨⟨due, hstage⟩, hmade⟩ := hs
  let next := Drive.nextTick setup.pollMillis due s.time
  let called := s.call .poll (browser.poll k).delay (.polling k next)
  have hcall : s.step setup browser task = called := by simp only [Drive.step, hstage]; rfl
  have htake : called.step setup browser task = called.takePoll browser task k next := rfl
  have hover : s.stage.isOver = false := by rw [hstage]; rfl
  obtain ⟨hprogress, hcalls, hend⟩ := takePoll_eq called k next
  refine ⟨called.takePoll browser task k next,
    .head ⟨hover, hcall.symm⟩ (.single ⟨rfl, htake.symm⟩), hprogress, ?_⟩
  have hpolls : (called.takePoll browser task k next).made .poll = base + (k + 1) := by
    rw [← Nat.add_assoc, ← hmade]
    unfold Drive.made
    rw [hcalls]
    exact List.countP_cons_of_pos rfl
  cases hexit : (polling task.progressText).exit? (browser.poll k) with
  | some stage =>
    rw [hexit] at hend
    exact ⟨hend, hpolls⟩
  | none =>
    rw [hexit] at hend
    exact ⟨⟨next, hend⟩, hpolls⟩

end

/-! ## Addresses -/

/-- What is shown while the user has to log in. -/
def loginText : String := "Waiting for login in the browser window"

/-- The stage that an address leads to: the page is ready, or the session is closed. -/
def Setup.destination? (a : Answer Url) : Option Stage :=
  match a.outcome with
  | .ok page => if setup.isReady page then some .settling else none
  | .error .closed => some (.ended (.error (.session .closed)))
  | .error _ => none

/-- The readings of the address until the page is ready. -/
def waiting : Loop (Answer Url) where
  see p a :=
    match a.outcome with
    | .ok page => if setup.isReady page then p else p.say loginText
    | .error _ => p
  exit? := setup.destination?

/-- Can the answer be read: is it an address, or does it report that the session is closed? -/
def Answer.isAddress (a : Answer Url) : Bool :=
  match a.outcome with
  | .ok _ | .error .closed => true
  | .error _ => false

/-- What is no address leads nowhere. -/
theorem Setup.destination?_of_not_address (a : Answer Url) (h : a.isAddress = false) :
    setup.destination? a = none := by
  obtain ⟨delay, outcome⟩ := a
  cases outcome with
  | ok page => cases h
  | error fault =>
    cases fault with
    | closed => cases h
    | _ => rfl

/-- The page is waited for as if there had been no such answer. -/
theorem waiting_ignores (a : Answer Url) (h : a.isAddress = false) :
    (waiting setup).Ignores a where
  exit := setup.destination?_of_not_address a h
  see p := by
    obtain ⟨delay, outcome⟩ := a
    cases outcome with
    | ok page => cases h
    | error fault => rfl

/-- What comes of an address.  The text is shown only once, which makes no difference. -/
theorem takeAddress_eq {s : Drive} {asked : Bool}
    (hasked : asked = true → s.progress.say loginText = s.progress) (k : Nat) :
    let e := s.takeAddress setup browser k asked
    e.progress = (waiting setup).see s.progress (browser.address k) ∧ e.calls = s.calls ∧
      match (waiting setup).exit? (browser.address k) with
      | some stage => e.stage = stage
      | none => ∃ asked, e.stage = .pausing k asked ∧
        (asked = true → e.progress.say loginText = e.progress) := by
  simp only [Drive.takeAddress, waiting, Setup.destination?, Setup.sight]
  cases (browser.address k).outcome with
  | ok page =>
    dsimp only
    cases setup.isReady page with
    | true => exact ⟨rfl, rfl, rfl⟩
    | false =>
      cases asked with
      | true => exact ⟨(hasked rfl).symm, rfl, true, rfl, hasked⟩
      | false => exact ⟨rfl, rfl, true, rfl, fun _ => rfl⟩
  | error fault =>
    cases fault with
    | closed => exact ⟨rfl, rfl, rfl⟩
    | _ => exact ⟨rfl, rfl, asked, rfl, hasked⟩

/-- The drive waits for its `k`-th address, after `base` readings before the first.  The text is
shown if the user was asked to log in. -/
def Drive.AtAddress (base k : Nat) (s : Drive) : Prop :=
  ∃ asked, s.stage = .asking k asked ∧ (asked = true → s.progress.say loginText = s.progress) ∧
    s.made .readAddress = base + (k + 1)

section

variable {setup browser task}

/-- A drive takes the address of the page and asks for it again. -/
theorem address_round {base k : Nat} {s : Drive} (hs : s.AtAddress base k) :
    ∃ e, s.Reaches setup browser task e ∧
      e.progress = (waiting setup).see s.progress (browser.address k) ∧
      match (waiting setup).exit? (browser.address k) with
      | some stage => e.stage = stage ∧ e.made .readAddress = base + (k + 1)
      | none => e.AtAddress base (k + 1) := by
  obtain ⟨asked, hstage, hasked, hmade⟩ := hs
  let taken := s.takeAddress setup browser k asked
  have hstep : s.step setup browser task = taken := by simp only [Drive.step, hstage]; rfl
  have hover : s.stage.isOver = false := by rw [hstage]; rfl
  have htaken : s.Reaches setup browser task taken := .single ⟨hover, hstep.symm⟩
  obtain ⟨hprogress, hcalls, hend⟩ := takeAddress_eq setup browser hasked k
  have hreads : taken.made .readAddress = base + (k + 1) := by
    rw [← hmade]
    unfold Drive.made
    rw [hcalls]
  cases hexit : (waiting setup).exit? (browser.address k) with
  | some stage =>
    rw [hexit] at hend
    exact ⟨taken, htaken, hprogress, hend, hreads⟩
  | none =>
    rw [hexit] at hend
    obtain ⟨asked', hpausing, hasked'⟩ := hend
    have hagain : taken.step setup browser task = taken.askAddress browser (k + 1) asked' := by
      simp only [Drive.step, taken, hpausing]
    have hover' : taken.stage.isOver = false := by simp only [taken, hpausing]; rfl
    have hreads' : (taken.askAddress browser (k + 1) asked').made .readAddress =
        taken.made .readAddress + 1 := List.countP_cons_of_pos rfl
    refine ⟨taken.askAddress browser (k + 1) asked', htaken.tail ⟨hover', hagain.symm⟩, hprogress,
      asked', rfl, hasked', ?_⟩
    rw [hreads', hreads]
    rfl

end

/-! ## Lists of replies -/

/-- A browser that answers polls with a list of replies. -/
def Browser.polled (replies : List (Answer Json)) (last : Answer Json) : Browser :=
  { browser with poll := Answer.sequence replies last }

/-- A browser that answers with a list of addresses. -/
def Browser.addressed (replies : List (Answer Url)) (last : Answer Url) : Browser :=
  { browser with address := Answer.sequence replies last }

/-- A reply that is in the list comes in its turn. -/
theorem Answer.sequence_of_getElem? {β : Type} {replies : List (Answer β)} {i : Nat}
    {a : Answer β} (h : replies[i]? = some a) (last : Answer β) :
    Answer.sequence replies last (0 + i) = a := by
  rw [Nat.zero_add, Answer.sequence, List.getD_eq_getElem?_getD, h]
  rfl

section

variable {setup browser task}

/-- Where a drive comes to with a list of polls. -/
theorem reaches_polled (s : Drive) (replies : List (Answer Json)) (last : Answer Json) :
    ∃ e, (s.awaitTick 0 s.time).Reaches setup (browser.polled replies last) task e ∧
      e.progress = (polling task.progressText).shown s.progress replies ∧
      match replies.findSome? Answer.end? with
      | some outcome => e.stage = .ended outcome ∧
        e.made .poll = s.made .poll + (replies.findIdx (·.end?.isSome) + 1)
      | none => ∃ due, e.stage = .ticking replies.length due := by
  have hexit : replies.findSome? (polling task.progressText).exit? =
      (replies.findSome? Answer.end?).map .ended := List.map_findSome?.symm
  have hends : (polling task.progressText).ends = fun a => a.end?.isSome :=
    funext fun a => Option.isSome_map
  have hstart : (s.awaitTick 0 s.time).AtPoll (s.made .poll) 0 := ⟨⟨_, rfl⟩, rfl⟩
  have hreach := (polling task.progressText).reaches setup (browser.polled replies last) task
    (fun k t ht => poll_round ht) (fun i a ha => Answer.sequence_of_getElem? ha last) hstart
  simp only [Nat.zero_add, hexit, hends] at hreach
  obtain ⟨e, hreach, hshown, he⟩ := hreach
  refine ⟨e, hreach, hshown, ?_⟩
  cases hend : replies.findSome? Answer.end? with
  | some outcome =>
    rw [hend] at he
    exact he
  | none =>
    rw [hend] at he
    exact he.1

/-- Where a drive comes to with a list of addresses. -/
theorem reaches_addressed (s : Drive) (replies : List (Answer Url)) (last : Answer Url) :
    ∃ e, (s.askAddress (browser.addressed replies last) 0 false).Reaches setup
        (browser.addressed replies last) task e ∧
      e.progress = (waiting setup).shown s.progress replies ∧
      match replies.findSome? setup.destination? with
      | some stage => e.stage = stage ∧ e.made .readAddress =
          s.made .readAddress + (replies.findIdx (fun a => (setup.destination? a).isSome) + 1)
      | none => ∃ asked, e.stage = .asking replies.length asked := by
  have hstart : (s.askAddress (browser.addressed replies last) 0 false).AtAddress
      (s.made .readAddress) 0 := ⟨false, rfl, nofun, List.countP_cons_of_pos rfl⟩
  have hexit : (waiting setup).exit? = setup.destination? := rfl
  have hends : (waiting setup).ends = fun a => (setup.destination? a).isSome := rfl
  have hreach := (waiting setup).reaches setup (browser.addressed replies last) task
    (fun k t ht => address_round ht) (fun i a ha => Answer.sequence_of_getElem? ha last) hstart
  simp only [Nat.zero_add, hexit, hends] at hreach
  obtain ⟨e, hreach, hshown, he⟩ := hreach
  refine ⟨e, hreach, hshown, ?_⟩
  cases hend : replies.findSome? setup.destination? with
  | some stage =>
    rw [hend] at he
    exact he
  | none =>
    rw [hend] at he
    obtain ⟨asked, hasking, -⟩ := he
    exact ⟨asked, hasking⟩

end

/-- Replies that cannot be read make no difference but in time.  With a list of polls a drive comes
to the same end, and shows the same, as with the readable ones of them, or goes on behind both
lists; it makes no poll behind the first that reports a closed session or that the work is done.
The same is true of a list of addresses, where the drive goes on as soon as the page is ready or the
session closed. -/
theorem ends_without_unreadable (s : Drive) :
    (∀ (replies : List (Answer Json)) (last last' : Answer Json),
      let readable := replies.filter (·.isReadable)
      ∃ e e' : Drive,
        (s.awaitTick 0 s.time).Reaches setup (browser.polled replies last) task e ∧
        (s.awaitTick 0 s.time).Reaches setup (browser.polled readable last') task e' ∧
        e'.progress = e.progress ∧
        match replies.findSome? Answer.end? with
        | some outcome => e.stage = .ended outcome ∧ e'.stage = .ended outcome ∧
          e.made .poll = s.made .poll + (replies.findIdx (·.end?.isSome) + 1)
        | none => (∃ due, e.stage = .ticking replies.length due) ∧
          ∃ due, e'.stage = .ticking readable.length due) ∧
    ∀ (replies : List (Answer Url)) (last last' : Answer Url),
      let readable := replies.filter (·.isAddress)
      ∃ e e' : Drive,
        (s.askAddress (browser.addressed replies last) 0 false).Reaches setup
          (browser.addressed replies last) task e ∧
        (s.askAddress (browser.addressed readable last') 0 false).Reaches setup
          (browser.addressed readable last') task e' ∧
        e'.progress = e.progress ∧
        match replies.findSome? setup.destination? with
        | some stage => e.stage = stage ∧ e'.stage = stage ∧ e.made .readAddress =
            s.made .readAddress + (replies.findIdx (fun a => (setup.destination? a).isSome) + 1)
        | none => (∃ asked, e.stage = .asking replies.length asked) ∧
          ∃ asked, e'.stage = .asking readable.length asked := by
  constructor
  · intro replies last last' readable
    have hshown := Loop.shown_filter (polling_ignores task.progressText) s.progress replies
    have hend := Loop.findSome?_filter Answer.end?_of_not_readable replies
    obtain ⟨e, hreach, hprogress, he⟩ := reaches_polled s replies last
    obtain ⟨e', hreach', hprogress', he'⟩ := reaches_polled s readable last'
    refine ⟨e, e', hreach, hreach', hprogress'.trans (hshown.trans hprogress.symm), ?_⟩
    rw [hend] at he'
    cases houtcome : replies.findSome? Answer.end? with
    | some outcome =>
      rw [houtcome] at he he'
      exact ⟨he.1, he'.1, he.2⟩
    | none =>
      rw [houtcome] at he he'
      exact ⟨he, he'⟩
  · intro replies last last' readable
    have hshown := Loop.shown_filter (waiting_ignores setup) s.progress replies
    have hend := Loop.findSome?_filter setup.destination?_of_not_address replies
    obtain ⟨e, hreach, hprogress, he⟩ := reaches_addressed s replies last
    obtain ⟨e', hreach', hprogress', he'⟩ := reaches_addressed s readable last'
    refine ⟨e, e', hreach, hreach', hprogress'.trans (hshown.trans hprogress.symm), ?_⟩
    rw [hend] at he'
    cases hstage : replies.findSome? setup.destination? with
    | some stage =>
      rw [hstage] at he he'
      exact ⟨he.1, he'.1, he.2⟩
    | none =>
      rw [hstage] at he he'
      exact ⟨he, he'⟩

end ChatArchive.Operation
