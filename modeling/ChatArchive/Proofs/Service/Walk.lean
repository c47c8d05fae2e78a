import ChatArchive.Proofs.Store.Keys
import ChatArchive.Service.Walk
import Mathlib.Data.Nat.Find

/-!
# How far a walk goes

The rules by which a walk stops are said here of a page and the pages before it alone
(`WalkStop.Holds`), without what a walk keeps of these.  A walk that went on has kept just what
`Walk.after` collects from its pages, and the next page stops it by the first rule that holds
(`Walk.accept_after`).  So a walk takes the pages up to the first one that a rule stops it at
(`Walk.extent_acceptAll`), and nothing that is fed to it afterwards changes it.
-/

namespace ChatArchive

/-! ## The rules -/

namespace WalkStop

/-- A rule holds of a page that comes behind earlier ones, where `limit` pages may be taken. -/
def Holds (limit : Nat) (earlier : List ListingPage) (page : ListingPage) : WalkStop → Prop
  | nothingNew => ∀ item ∈ page.items, ∃ p ∈ earlier, ∃ known ∈ p.items, known.id = item.id
  | shortPage => ∃ first, earlier.head? = some first ∧ page.items.length < first.items.length
  | endOfListing => page.next = none
  | repeatedCursor => ∃ next, page.next = some next ∧
      (page.cursor = some next ∨ ∃ p ∈ earlier, p.next = some next)
  | ceiling => earlier.length + 1 = limit

/-- The place of a rule in their order. -/
def rank : WalkStop → Nat
  | nothingNew => 0
  | shortPage => 1
  | endOfListing => 2
  | repeatedCursor => 3
  | ceiling => 4

/-- The rule is the first one that holds of the page. -/
def IsFirst (limit : Nat) (earlier : List ListingPage) (page : ListingPage) (reason : WalkStop) :
    Prop :=
  reason.Holds limit earlier page ∧
    ∀ rule : WalkStop, rule.rank < reason.rank → ¬ rule.Holds limit earlier page

/-- What the rules say of the page: the first one that holds, or nothing if none does. -/
def Decides (limit : Nat) (earlier : List ListingPage) (page : ListingPage) :
    Option WalkStop → Prop
  | some reason => reason.IsFirst limit earlier page
  | none => ∀ rule : WalkStop, ¬ rule.Holds limit earlier page

end WalkStop

namespace Walk

/-- A rule stops a walk at the page in some position. -/
def StopsAt (limit : Nat) (pages : List ListingPage) (i : Nat) (reason : WalkStop) : Prop :=
  ∃ page, pages[i]? = some page ∧ WalkStop.Decides limit (pages.take i) page (some reason)

/-- No rule stops a walk at the page in some position. -/
def GoesOnAt (limit : Nat) (pages : List ListingPage) (i : Nat) : Prop :=
  ∀ page, pages[i]? = some page → WalkStop.Decides limit (pages.take i) page none

/-- How many pages a walk takes of those that it is fed, and the reason that it gives. -/
inductive Extent (limit : Nat) (pages : List ListingPage) : Nat → Option WalkStop → Prop
  /-- No page may be taken, and the first one that is fed shows that. -/
  | barred (hlimit : limit = 0) :
      Extent limit pages 0 (if pages = [] then none else some .ceiling)
  /-- The walk goes on up to a page at which it is stopped. -/
  | stopped (hlimit : 0 < limit) {i : Nat} {reason : WalkStop}
      (hbefore : ∀ j < i, GoesOnAt limit pages j) (hstop : StopsAt limit pages i reason) :
      Extent limit pages (i + 1) (some reason)
  /-- There is no such page. -/
  | exhausted (hlimit : 0 < limit) (hall : ∀ j, GoesOnAt limit pages j) :
      Extent limit pages pages.length none

/-! ## What a walk keeps -/

/-- The items of some pages. -/
def itemsOf (pages : List ListingPage) : List ListingItem := pages.flatMap (·.items)

/-- A walk that took some pages and was not stopped. -/
def after (limit : Nat) (earlier : List ListingPage) : Walk where
  ceiling := limit
  pages := earlier.length
  firstSize := earlier.head?.map fun p => p.items.length
  cursors := earlier.reverse.flatMap fun p => p.next.toList
  items := firstOfEach ListingItem.id (itemsOf earlier)
  stop := none

/-- An item is kept if it is the first with its identifier. -/
theorem keep_firstOfEach (xs : List ListingItem) (x : ListingItem) :
    keep (firstOfEach ListingItem.id xs) x = firstOfEach ListingItem.id (xs ++ [x]) := by
  have hknown : ((firstOfEach ListingItem.id xs).any fun i => i.id == x.id) = true ↔
      x.id ∈ xs.map ListingItem.id := by
    rw [← List.mem_eraseDups, ← map_key_firstOfEach, List.any_eq_true, List.mem_map]
    simp only [beq_iff_eq]
  rw [firstOfEach_concat, keep]
  simp only [hknown]

/-- Keeping the items of one more page keeps the first item of each identifier on all of them. -/
theorem foldl_keep (xs ys : List ListingItem) :
    ys.foldl keep (firstOfEach ListingItem.id xs) = firstOfEach ListingItem.id (xs ++ ys) := by
  induction ys generalizing xs with
  | nil => rw [List.append_nil]; rfl
  | cons y ys ih =>
    rw [List.foldl_cons, keep_firstOfEach, ih, List.append_assoc, List.singleton_append]

/-- The items of one more page come last. -/
theorem itemsOf_concat (earlier : List ListingPage) (page : ListingPage) :
    itemsOf (earlier ++ [page]) = itemsOf earlier ++ page.items := by
  simp [itemsOf]

/-- A page adds no item exactly if nothing on it is new. -/
theorem length_items_after_iff (limit : Nat) (earlier : List ListingPage) (page : ListingPage) :
    (after limit (earlier ++ [page])).items.length = (after limit earlier).items.length ↔
      WalkStop.nothingNew.Holds limit earlier page := by
  have hlength := (length_firstOfEach_append ListingItem.id (itemsOf earlier) page.items).2
  rw [after, after, itemsOf_concat, hlength]
  simp only [WalkStop.Holds, itemsOf, List.mem_flatMap]
  refine forall₂_congr fun item _ => ?_
  constructor
  · rintro ⟨known, ⟨p, hp, hknown⟩, hid⟩
    exact ⟨p, hp, known, hknown, hid⟩
  · rintro ⟨p, hp, known, hknown, hid⟩
    exact ⟨known, ⟨p, hp, hknown⟩, hid⟩

/-- A page takes no item away. -/
theorem length_items_after_le (limit : Nat) (earlier : List ListingPage) (page : ListingPage) :
    (after limit earlier).items.length ≤ (after limit (earlier ++ [page])).items.length := by
  rw [after, after, itemsOf_concat]
  exact (length_firstOfEach_append _ _ _).1

/-- A cursor is known if an earlier page led to it. -/
theorem mem_cursors_after_iff (limit : Nat) (earlier : List ListingPage) (next : String) :
    next ∈ (after limit earlier).cursors ↔ ∃ p ∈ earlier, p.next = some next := by
  simp [after]

/-! ## One page -/

/-- A page is short if it has fewer items than the first one. -/
theorem any_firstSize_after_iff (limit : Nat) (earlier : List ListingPage) (page : ListingPage) :
    ((after limit earlier).firstSize.any fun n => page.items.length < n) = true ↔
      WalkStop.shortPage.Holds limit earlier page := by
  cases earlier with
  | nil => simp [after, WalkStop.Holds]
  | cons first rest => simp [after, WalkStop.Holds]

/-- After a page a walk gives the first rule that holds of it as the reason to stop, and none if
none holds. -/
theorem stopAfter_after {limit : Nat} {earlier : List ListingPage} (hlimit : earlier.length < limit)
    (page : ListingPage) : WalkStop.Decides limit earlier page
      ((after limit earlier).stopAfter page (after limit (earlier ++ [page])).items) := by
  have hnew := length_items_after_iff limit earlier page
  have hshort := any_firstSize_after_iff limit earlier page
  unfold stopAfter
  by_cases hnothing : WalkStop.nothingNew.Holds limit earlier page
  · rw [if_pos (hnew.mpr hnothing)]
    exact ⟨hnothing, fun rule hrank => absurd hrank (Nat.not_lt_zero _)⟩
  rw [if_neg (mt hnew.mp hnothing)]
  by_cases hless : WalkStop.shortPage.Holds limit earlier page
  · rw [if_pos (hshort.mpr hless)]
    refine ⟨hless, fun rule hrank => ?_⟩
    cases rule <;> first | assumption | exact absurd hrank (by decide)
  rw [if_neg (mt hshort.mp hless)]
  cases hnext : page.next with
  | none =>
    refine ⟨hnext, fun rule hrank => ?_⟩
    cases rule <;> first | assumption | exact absurd hrank (by decide)
  | some next =>
    have hend : ¬ WalkStop.endOfListing.Holds limit earlier page := by
      simp [WalkStop.Holds, hnext]
    have hseen : (page.cursor = some next ∨ next ∈ (after limit earlier).cursors) ↔
        WalkStop.repeatedCursor.Holds limit earlier page := by
      simp [WalkStop.Holds, mem_cursors_after_iff, hnext]
    have hfull : (after limit earlier).ceiling ≤ (after limit earlier).pages + 1 ↔
        WalkStop.ceiling.Holds limit earlier page := by
      simp only [WalkStop.Holds, after]
      omega
    dsimp only
    split_ifs with hcursor hpages
    · refine ⟨hseen.mp hcursor, fun rule hrank => ?_⟩
      cases rule <;> first | assumption | exact absurd hrank (by decide)
    · have hnovel := mt hseen.mpr hcursor
      refine ⟨hfull.mp hpages, fun rule hrank => ?_⟩
      cases rule <;> first | assumption | exact absurd hrank (by decide)
    · have hnovel := mt hseen.mpr hcursor
      have hroom := mt hfull.mpr hpages
      intro rule
      cases rule <;> assumption

/-- A walk that went on takes the next page. -/
theorem accept_after {limit : Nat} {earlier : List ListingPage} (hlimit : earlier.length < limit)
    (page : ListingPage) :
    (after limit earlier).accept page = { after limit (earlier ++ [page]) with
      stop := (after limit earlier).stopAfter page (after limit (earlier ++ [page])).items } := by
  have hitems : page.items.foldl keep (after limit earlier).items =
      (after limit (earlier ++ [page])).items := by
    rw [after, foldl_keep, after, itemsOf_concat]
  have hgoing : ¬ (after limit earlier).stop.isSome = true := Bool.false_ne_true
  have hroom : ¬ (after limit earlier).ceiling ≤ (after limit earlier).pages :=
    Nat.not_le.mpr hlimit
  rw [accept, if_neg hgoing, if_neg hroom, hitems]
  cases earlier <;> simp [after]

/-- A walk that stopped takes no more pages. -/
theorem acceptAll_of_stopped {w : Walk} (hw : w.stop.isSome = true) (pages : List ListingPage) :
    w.acceptAll pages = w := by
  induction pages with
  | nil => rfl
  | cons page pages ih =>
    have hfixed : w.accept page = w := if_pos hw
    rw [acceptAll, List.foldl_cons, hfixed]
    exact ih

/-- Pages in a row are taken in a row. -/
theorem acceptAll_append (w : Walk) (pages more : List ListingPage) :
    w.acceptAll (pages ++ more) = (w.acceptAll pages).acceptAll more := List.foldl_append

/-! ## All pages -/

/-- What the rules say of a page does not depend on later pages. -/
theorem goesOnAt_append_iff {limit : Nat} {pages more : List ListingPage} {i : Nat}
    (hi : i < pages.length) : GoesOnAt limit (pages ++ more) i ↔ GoesOnAt limit pages i := by
  unfold GoesOnAt
  rw [List.getElem?_append_left hi, List.take_append_of_le_length (Nat.le_of_lt hi)]

/-- A walk that no rule stops has room for the next page, and has kept what there was to keep. -/
theorem acceptAll_of_goesOn {limit : Nat} (hlimit : 0 < limit) {pages : List ListingPage}
    (hpages : ∀ i < pages.length, GoesOnAt limit pages i) :
    pages.length < limit ∧ (start limit).acceptAll pages = after limit pages := by
  induction pages using List.reverseRecOn with
  | nil => exact ⟨hlimit, rfl⟩
  | append_singleton pages page ih =>
    rw [List.length_append, List.length_singleton] at hpages ⊢
    obtain ⟨hroom, hwalk⟩ := ih fun i hi =>
      (goesOnAt_append_iff hi).mp (hpages i (Nat.lt_succ_of_lt hi))
    have hnone := hpages pages.length (Nat.lt_succ_self _) page (by simp)
    rw [List.take_left] at hnone
    refine ⟨?_, ?_⟩
    · have hceiling : ¬ pages.length + 1 = limit := hnone .ceiling
      omega
    · rw [acceptAll_append, hwalk]
      show (after limit pages).accept page = _
      rw [accept_after hroom]
      have hstop := stopAfter_after hroom page
      cases hreason : (after limit pages).stopAfter page (after limit (pages ++ [page])).items with
      | none => rfl
      | some reason =>
        rw [hreason] at hstop
        exact absurd hstop.1 (hnone reason)

/-- Pages at which a walk goes on, by themselves. -/
theorem goesOnAt_take {limit : Nat} {pages : List ListingPage} {i : Nat}
    (hbefore : ∀ j < i, GoesOnAt limit pages j) :
    ∀ j < (pages.take i).length, GoesOnAt limit (pages.take i) j := by
  intro j hj
  have hall := hbefore j (Nat.lt_of_lt_of_le hj (List.length_take_le ..))
  rw [← List.take_append_drop i pages] at hall
  exact (goesOnAt_append_iff hj).mp hall

/-- One more page is the next one. -/
theorem take_succ_of_getElem? {pages : List ListingPage} {i : Nat} {page : ListingPage}
    (hpage : pages[i]? = some page) : pages.take (i + 1) = pages.take i ++ [page] := by
  rw [List.take_add_one, hpage]
  rfl

/-- Behind pages at which a walk goes on, the rules decide about the next one. -/
theorem acceptAll_take_succ {limit : Nat} (hlimit : 0 < limit) {pages : List ListingPage} {i : Nat}
    {page : ListingPage} (hbefore : ∀ j < i, GoesOnAt limit pages j)
    (hpage : pages[i]? = some page) :
    i < limit ∧ ∃ stop, WalkStop.Decides limit (pages.take i) page stop ∧
      (start limit).acceptAll (pages.take (i + 1)) =
        { after limit (pages.take (i + 1)) with stop := stop } := by
  have hlength : (pages.take i).length = i :=
    List.length_take_of_le (Nat.le_of_lt (List.getElem?_eq_some_iff.mp hpage).1)
  obtain ⟨hroom, hwalk⟩ := acceptAll_of_goesOn hlimit (goesOnAt_take hbefore)
  refine ⟨hlength ▸ hroom, _, stopAfter_after hroom page, ?_⟩
  rw [take_succ_of_getElem? hpage, acceptAll_append, hwalk]
  exact accept_after hroom page

/-- Once a walk is stopped, what is fed to it does not matter. -/
theorem acceptAll_take_of_stopped {w : Walk} {pages : List ListingPage} {i j : Nat} (hij : i ≤ j)
    (hstop : (w.acceptAll (pages.take i)).stop.isSome = true) :
    w.acceptAll (pages.take j) = w.acceptAll (pages.take i) := by
  have hsplit : pages.take j = pages.take i ++ (pages.take j).drop i := by
    conv_lhs => rw [← List.take_append_drop i (pages.take j)]
    rw [List.take_take, Nat.min_eq_left hij]
  rw [hsplit, acceptAll_append, acceptAll_of_stopped hstop]

/-- Every page at which a walk goes on has a new item. -/
theorem length_le_items_of_goesOn {limit : Nat} {pages : List ListingPage}
    (hpages : ∀ i < pages.length, GoesOnAt limit pages i) :
    pages.length ≤ (after limit pages).items.length := by
  induction pages using List.reverseRecOn with
  | nil => exact Nat.zero_le _
  | append_singleton pages page ih =>
    rw [List.length_append, List.length_singleton] at hpages ⊢
    have hfewer := ih fun i hi => (goesOnAt_append_iff hi).mp (hpages i (Nat.lt_succ_of_lt hi))
    have hnone := hpages pages.length (Nat.lt_succ_self _) page (by simp)
    rw [List.take_left] at hnone
    have hmore : (after limit (pages ++ [page])).items.length ≠ (after limit pages).items.length :=
      mt (length_items_after_iff limit pages page).mp (hnone .nothingNew)
    have hle := length_items_after_le limit pages page
    omega

/-- A walk that may take nothing says so as soon as a page is fed to it. -/
theorem acceptAll_of_no_limit (pages : List ListingPage) : (start 0).acceptAll pages =
    { after 0 [] with stop := if pages = [] then none else some .ceiling } := by
  cases pages with
  | nil => rfl
  | cons page rest => exact acceptAll_of_stopped (w := (start 0).accept page) rfl rest

/-- If a walk does not go on at every page, there is a first one at which it stops. -/
theorem exists_first_stop {limit : Nat} {pages : List ListingPage}
    (hnot : ¬ ∀ j, GoesOnAt limit pages j) :
    ∃ i page, pages[i]? = some page ∧ (∀ j < i, GoesOnAt limit pages j) ∧
      ¬ WalkStop.Decides limit (pages.take i) page none := by
  classical
  have hex : ∃ i, ¬ GoesOnAt limit pages i := not_forall.mp hnot
  obtain ⟨page, hat⟩ := not_forall.mp (Nat.find_spec hex)
  obtain ⟨hpage, hstops⟩ := Classical.not_imp.mp hat
  exact ⟨Nat.find hex, page, hpage, fun j hj => not_not.mp (Nat.find_min hex hj), hstops⟩

/-- A walk takes the first pages of those that are fed to it, as far as the rules say, and keeps
what there is to keep of these.  Other pages behind them do not matter. -/
theorem exists_extent (limit : Nat) (pages : List ListingPage) :
    ∃ (k : Nat) (stop : Option WalkStop), Extent limit pages k stop ∧ k ≤ pages.length ∧
      k ≤ limit ∧ k ≤ (after limit (pages.take k)).items.length + 1 ∧
      (start limit).acceptAll pages = { after limit (pages.take k) with stop := stop } ∧
      ∀ j, k ≤ j → 0 < j →
        (start limit).acceptAll (pages.take j) = (start limit).acceptAll pages := by
  rcases Nat.eq_zero_or_pos limit with rfl | hlimit
  · refine ⟨0, _, .barred rfl, Nat.zero_le _, Nat.zero_le _, Nat.zero_le _,
      acceptAll_of_no_limit pages, ?_⟩
    intro j _ hj
    have hempty : pages.take j = [] ↔ pages = [] := by
      simp [List.take_eq_nil_iff, Nat.ne_of_gt hj]
    rw [acceptAll_of_no_limit, acceptAll_of_no_limit]
    simp only [hempty]
  by_cases hall : ∀ j, GoesOnAt limit pages j
  · obtain ⟨hroom, hwalk⟩ := acceptAll_of_goesOn hlimit fun i _ => hall i
    have hfew := length_le_items_of_goesOn fun i _ => hall i
    refine ⟨pages.length, none, .exhausted hlimit hall, Nat.le_refl _, Nat.le_of_lt hroom, ?_⟩
    rw [List.take_length]
    refine ⟨Nat.le_succ_of_le hfew, hwalk, ?_⟩
    intro j hj _
    rw [List.take_of_length_le hj]
  · obtain ⟨i, page, hpage, hbefore, hstops⟩ := exists_first_stop hall
    have hi := (List.getElem?_eq_some_iff.mp hpage).1
    obtain ⟨hroom, stop, hdecides, hwalk⟩ := acceptAll_take_succ hlimit hbefore hpage
    cases stop with
    | none => exact absurd hdecides hstops
    | some reason =>
      have hstopped : ∀ j, i + 1 ≤ j → (start limit).acceptAll (pages.take j) =
          { after limit (pages.take (i + 1)) with stop := some reason } := by
        intro j hj
        rw [acceptAll_take_of_stopped hj (by rw [hwalk]; rfl), hwalk]
      have hlast := hstopped pages.length hi
      rw [List.take_length] at hlast
      -- only the last page may have nothing new
      have hfew := length_le_items_of_goesOn (goesOnAt_take hbefore)
      rw [List.length_take_of_le (Nat.le_of_lt hi)] at hfew
      have hmore := length_items_after_le limit (pages.take i) page
      rw [← take_succ_of_getElem? hpage] at hmore
      refine ⟨i + 1, some reason, .stopped hlimit hbefore ⟨page, hpage, hdecides⟩, hi, hroom,
        Nat.succ_le_succ (Nat.le_trans hfew hmore), hlast, ?_⟩
      intro j hj _
      rw [hstopped j hj, hlast]

/-- Of the pages that are fed to it a walk takes those up to the first one that a rule stops it at,
or all if there is none.  It keeps the first item of each identifier on these pages, at least one of
every page but the last.  Once it is stopped it stays as it is, whatever is fed to it. -/
theorem extent_acceptAll (limit : Nat) (pages : List ListingPage) :
    let w := (start limit).acceptAll pages
    Extent limit pages w.pages w.stop ∧
    w.items = firstOfEach ListingItem.id (itemsOf (pages.take w.pages)) ∧
    (w.pages ≤ limit ∧
      w.pages ≤ ((itemsOf (pages.take w.pages)).map ListingItem.id).eraseDups.length + 1) ∧
    ∀ j, w.pages ≤ j → 0 < j → (start limit).acceptAll (pages.take j) = w := by
  intro w
  obtain ⟨k, stop, hextent, hle, hlimit, hfew, hwalk, hrest⟩ := exists_extent limit pages
  have hw : w = { after limit (pages.take k) with stop := stop } := hwalk
  have hpages : w.pages = k := by
    rw [hw]
    exact List.length_take_of_le hle
  have hstop : w.stop = stop := by rw [hw]
  have hitems : w.items = firstOfEach ListingItem.id (itemsOf (pages.take w.pages)) := by
    rw [hpages, hw]
    rfl
  rw [← length_firstOfEach, ← hitems, hpages, hstop]
  refine ⟨hextent, ?_, ⟨hlimit, ?_⟩, hrest⟩
  · rw [hitems, hpages]
  · rw [hw]
    exact hfew

end Walk

end ChatArchive
