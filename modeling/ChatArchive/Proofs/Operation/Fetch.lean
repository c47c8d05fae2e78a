import ChatArchive.Operation.Fetch
import ChatArchive.Proofs.Operation.Reply
import ChatArchive.Proofs.Service.Walk
import ChatArchive.Proofs.Store.Listing
import ChatArchive.Snapshot.Metadata

/-!
# What fetching makes of the store

A walk keeps the first item of each identifier on the pages that it takes, and of several items
with one identifier a merge would let the last count.  Since the walk hands every identifier over
once, the two agree: the store becomes what the first items say (`Store.relisted_mergeListing`),
and each of them counts once, as new or as known (`Store.counts_mergeItems`).
-/

namespace ChatArchive.Operation.Fetch

open Store

/-- Fetching merges what the walk keeps of the pages that it takes. -/
theorem mergePages_eq {limit k : Nat} {pages : List ListingPage} {stop : Option WalkStop}
    (hk : k ≤ pages.length)
    (hwalk : (Walk.start limit).acceptAll pages =
      { Walk.after limit (pages.take k) with stop := stop })
    (clock : Clock) (store : Store) :
    let items := firstOfEach ListingItem.id (Walk.itemsOf (pages.take k))
    let merged := store.mergeListing clock items
    let reason := stop.getD (if k = 0 then .endOfListing else .ceiling)
    mergePages limit clock pages store = (merged.1, ⟨k, items.length, merged.2, reason⟩) := by
  intro items merged reason
  have hlength : (pages.take k).length = k := List.length_take_of_le hk
  unfold mergePages stopOf
  rw [hwalk]
  dsimp only [Walk.after]
  rw [hlength]

/-- Of the pages that were fetched the first ones are merged, as far as the rules of a walk say,
and there are at most as many as may be asked for.  Every identifier on them counts once, as a new
one if it makes the store grow, and its first item says what its record becomes. -/
theorem merge_of_pages {settings : OperationSettings} {r : ScriptResult} {w : Workspace}
    {pages : List ListingPage} (hstore : w.store.Reachable)
    (hpages : r.dataAs decoder = .ok pages) (clock : Clock) :
    ∃ (store : Store) (summary : FetchSummary),
      (task settings).merge clock r w = ({ w with store := store }, .ok summary) ∧
      store.Reachable ∧
      (summary.pages ≤ max 1 settings.pageCeiling ∧
        ∃ stop, Walk.Extent (max 1 settings.pageCeiling) pages summary.pages stop ∧
          summary.stop = stop.getD (if summary.pages = 0 then .endOfListing else .ceiling)) ∧
      (summary.distinct =
          ((Walk.itemsOf (pages.take summary.pages)).map ListingItem.id).eraseDups.length ∧
        summary.distinct = summary.counts.added + summary.counts.updated) ∧
      store.size = w.store.size + summary.counts.added ∧
      Store.Relisted clock (Walk.itemsOf (pages.take summary.pages)) w.store store ∧
      (w.store.size = 0 → store.size = summary.distinct) := by
  obtain ⟨k, stop, hextent, hk, hlimit, -, hwalk, -⟩ :=
    Walk.exists_extent (max 1 settings.pageCeiling) pages
  have hmerge := mergePages_eq hk hwalk clock w.store
  have hindexed := hstore.consistent.indexed
  have hlisted := Store.relisted_mergeListing hindexed clock (Walk.itemsOf (pages.take k))
  have hdistinct := length_firstOfEach ListingItem.id (Walk.itemsOf (pages.take k))
  generalize firstOfEach ListingItem.id (Walk.itemsOf (pages.take k)) = items at *
  obtain ⟨hgrown, hall⟩ := Store.counts_mergeListing hindexed clock items
  let reason := stop.getD (if k = 0 then .endOfListing else .ceiling)
  refine ⟨(w.store.mergeListing clock items).1,
    ⟨k, items.length, (w.store.mergeListing clock items).2, reason⟩, ?_, ?_,
    ⟨hlimit, stop, hextent, rfl⟩, ⟨hdistinct, hall.symm⟩, hgrown, hlisted, ?_⟩
  · show Fetch.merge (ceiling settings) clock r w = _
    rw [Fetch.merge, hpages, ceiling, Nat.max_comm]
    dsimp only
    rw [hmerge]
  · exact .change (.mergeListing clock items) hstore trivial
  · intro hempty
    have hnone : w.store.ids = [] := List.eq_nil_of_length_eq_zero ((length_ids _).trans hempty)
    rw [size, ← length_ids, hlisted.ids_eq, hnone, List.nil_append]
    exact hdistinct.symm

/-- Two pages share the identifier "b", of which the first item counts.  The record that the store
has is listed again, with another title and time; an item without a time gets that of the clock, and
one without a name an empty title. -/
theorem merge_of_overlapping_pages :
    let minute : Timestamp := ⟨60, 0, by decide, by decide, by decide, by decide⟩
    let item (id : String) (name time : Json) : Json :=
      .obj [("name", name), ("updated_at", time), ("uuid", .str id)]
    let page (items : List Json) (next : String) : Json :=
      .obj [("items", .arr items), ("next_cursor", .str next)]
    let listed : Json := .str "1970-01-01T00:01:00Z"
    let r := resultOf "pages"
      [page [item "a" (.str "One") listed, item "b" (.str "Two") .null] "b",
        page [item "b" (.str "Three") listed, item "c" .null listed] "c"]
    let w : Workspace := ⟨Store.ofRecords [Record.ofListing "a" "Old" Timestamp.epoch], ⟨[], []⟩⟩
    w.store.Reachable ∧ ∃ (pages : List ListingPage) (store : Store) (summary : FetchSummary),
      r.dataAs decoder = .ok pages ∧
      (task .default).merge (fun _ => Timestamp.epoch) r w =
        ({ w with store := store }, .ok summary) ∧
      summary.pages = 2 ∧ store.size = w.store.size + summary.counts.added ∧
      store.records[0]?.map CachedRecord.ofRecord = some ⟨"a", "One", minute⟩ ∧
      (store.get? "b").map CachedRecord.ofRecord = some ⟨"b", "Two", Timestamp.epoch⟩ ∧
      (store.get? "c").map CachedRecord.ofRecord = some ⟨"c", "", minute⟩ := by
  intro minute item page listed r w
  let old := Record.ofListing "a" "Old" Timestamp.epoch
  have hstore : w.store.Reachable := .ofRecords _
  have hrecords : w.store.records = [old] :=
    Store.records_ofRecords (by decide) (by simp [Record.ofListing])
  have hids : w.store.ids = ["a"] := congrArg (·.map Record.id) hrecords
  have hpages : r.dataAs decoder = .ok
    [⟨none, some "b", [⟨"a", some "One", some minute⟩, ⟨"b", some "Two", none⟩]⟩,
     ⟨none, some "c", [⟨"b", some "Three", some minute⟩, ⟨"c", none, some minute⟩]⟩] := by rfl
  obtain ⟨store, summary, hmerge, -, -, -, hsize, hlisted, -⟩ :=
    @merge_of_pages .default r w _ hstore hpages fun _ => Timestamp.epoch
  have htwo : summary.pages = 2 := by
    have hpair : some 2 = some summary.pages :=
      congrArg (fun out => out.2.toOption.map FetchSummary.pages) hmerge
    exact (Option.some.inj hpair).symm
  rw [htwo] at hlisted
  obtain ⟨-, ha⟩ := hlisted.known 0 old ⟨"a", some "One", some minute⟩ (by rw [hrecords]; rfl) rfl
  obtain ⟨-, hb⟩ := hlisted.new "b" ⟨"b", some "Two", none⟩ (by rw [hids]; decide) rfl
  obtain ⟨-, hc⟩ := hlisted.new "c" ⟨"c", none, some minute⟩ (by rw [hids]; decide) rfl
  exact ⟨hstore, _, store, summary, hpages, hmerge, htwo, hsize, by rw [ha]; rfl, by rw [hb]; rfl,
    by rw [hc]; rfl⟩

end ChatArchive.Operation.Fetch
