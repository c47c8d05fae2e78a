import ChatArchive.CommandLine.Run
import ChatArchive.Proofs.Snapshot.Outcome

/-!
# What a command finds

A command works on the records of the snapshots: those of the metadata, if these are current, with
the contents that are of use (`load_of_current`).  Where there are records, they came from current
metadata (`exists_of_load`).

Where content is not searched, what is visible of these records depends on the metadata alone.
`IsFound` says it of the entries of the metadata, and `isFound_visible` reads it off the view.
-/

namespace ChatArchive

/-! ## Entries that are found -/

/-- A query finds a conversation of which the listing is known: in a search for identifiers by its
identifier, with no excluded term in the title, and in any other search by its title. -/
def Query.Lists (q : Query) (e : CachedRecord) : Prop :=
  match q.mode with
  | .ids wanted => (∃ w ∈ wanted, w.toList <:+: e.id.toList) ∧ ¬q.Excludes e.title
  | _ => q.Matches e.title

/-- Where titles alone are searched, the listing of a record decides whether it is shown. -/
theorem Criteria.shows_ofQuery (q : Query) (r : Record) :
    (Criteria.ofQuery q).Shows r ↔ q.Lists (CachedRecord.ofRecord r) := by
  have hwithin : (Criteria.ofQuery q).Within r.updatedAt := by
    simp [Criteria.Within, Criteria.ofQuery]
  have htexts : (Criteria.ofQuery q).searchedTexts r = [r.title.text] := rfl
  have hquery : (Criteria.ofQuery q).query = q := rfl
  unfold Criteria.Shows Criteria.Finds Query.Lists
  rw [and_iff_right hwithin, hquery]
  cases q.mode <;> simp [htexts, CachedRecord.ofRecord]

/-- Where titles alone are searched for something, the title is noted and the snippet of it. -/
theorem Criteria.hit?_verdict_ofQuery {q : Query} (hq : q.mode.IsLocated) {r : Record}
    (hr : (Criteria.ofQuery q).Shows r) :
    ((Criteria.ofQuery q).verdict r).hit? =
      some ⟨.title, q.snippet r.title.text Query.defaultContext⟩ := by
  have hcontent : ¬(Criteria.ofQuery q).ContentMatches r := fun h => Bool.false_ne_true h.1
  obtain ⟨place, hhit, hnames, htitle⟩ := hit?_verdict_of_located (c := .ofQuery q) hq hr
  have htitle : q.accepts r.title = true :=
    (q.accepts_iff r.title).mpr (htitle.resolve_right hcontent)
  have hfields : (Criteria.ofQuery q).foundFields r = [r.title] := by
    have hsearched : (Criteria.ofQuery q).searchedContent r = none := rfl
    rw [foundFields, hsearched]
    exact List.filter_eq_self.mpr (by simpa [Criteria.ofQuery] using htitle)
  have hplace : place = .title := by
    cases place with
    | title => rfl
    | content => exact absurd hnames.2 hcontent
    | both => exact absurd hnames.2 hcontent
  rw [hhit, hfields, hplace, preview_singleton]
  rfl

/-- Nothing is asked for by no words. -/
theorem Query.ofText_nothing : Query.ofText "" = Query.empty := by
  unfold Query.ofText
  exact if_pos rfl

/-- Without a query everything is shown. -/
theorem Criteria.shows_empty (r : Record) : Criteria.empty.Shows r := by
  have hmatches : Query.empty.Lists (CachedRecord.ofRecord r) :=
    ⟨fun ⟨_, hterm, _⟩ => List.not_mem_nil hterm, trivial⟩
  exact (Criteria.shows_ofQuery Query.empty r).mpr hmatches

/-- Those of some entries that are wanted, each once, newest first; of two with one time the one
that comes first among the entries is the first. -/
structure IsFound (entries : List CachedRecord) (wanted : CachedRecord → Prop)
    (found : List CachedRecord) : Prop where
  mem_iff : ∀ e, e ∈ found ↔ e ∈ entries ∧ wanted e
  nodup : (found.map CachedRecord.id).Nodup
  sorted : found.Pairwise fun a b => b.updatedAt.before a.updatedAt = true ∨
    a.updatedAt = b.updatedAt ∧ ∃ i j : Nat, i < j ∧ entries[i]? = some a ∧ entries[j]? = some b

/-- Of entries with distinct identifiers this is one list. -/
theorem IsFound.unique {entries found other : List CachedRecord} {wanted : CachedRecord → Prop}
    (h : IsFound entries wanted found) (hother : IsFound entries wanted other)
    (hentries : (entries.map CachedRecord.id).Nodup) : found = other := by
  have hperm : found.Perm other :=
    (List.perm_ext_iff_of_nodup (.of_map _ h.nodup) (.of_map _ hother.nodup)).mpr fun e =>
      (h.mem_iff e).trans (hother.mem_iff e).symm
  have hnodup : entries.Nodup := .of_map _ hentries
  exact eq_of_newest_first (not_before_of_before hnodup) hperm h.sorted hother.sorted

/-- The view does not show a record twice. -/
theorem Store.nodup_visible {s : Store} (hs : s.Consistent) : (s.visible.map Record.id).Nodup := by
  unfold Store.visible
  rw [List.Nodup, List.pairwise_map, List.pairwise_filterMap]
  refine hs.view_nodup.imp fun {i j} hij a ha b hb hid => hij ?_
  have hi := (hs.indexed a.id i).mpr (by rw [Store.getElem?_ids, ha]; rfl)
  have hj := (hs.indexed a.id j).mpr (by rw [Store.getElem?_ids, hb, hid]; rfl)
  exact Option.some.inj (hi.symm.trans hj)

/-- The entries of the visible records are found by what the criteria show, if these look at entries
alone. -/
theorem isFound_visible {s : Store} (hs : s.Consistent) (hrefresh : ∃ t : Store, s = t.refresh)
    (horder : s.order = .newest) {wanted : CachedRecord → Prop}
    (hwanted : ∀ r, s.criteria.Shows r ↔ wanted (CachedRecord.ofRecord r)) :
    IsFound (s.records.map CachedRecord.ofRecord) wanted (s.visible.map CachedRecord.ofRecord) := by
  obtain ⟨t, rfl⟩ := hrefresh
  refine ⟨fun e => ?_, ?_, ?_⟩
  · simp only [List.mem_map, Store.mem_visible_refresh]
    constructor
    · rintro ⟨r, ⟨hmem, hshows⟩, rfl⟩
      exact ⟨⟨r, hmem, rfl⟩, (hwanted r).mp hshows⟩
    · rintro ⟨⟨r, hmem, rfl⟩, hshows⟩
      exact ⟨r, ⟨hmem, (hwanted r).mpr hshows⟩, rfl⟩
  · rw [List.map_map]
    exact Store.nodup_visible hs
  · rw [List.pairwise_map]
    unfold Store.visible
    rw [List.pairwise_filterMap]
    refine (Store.view_refresh_pairwise t).imp fun {i j} hij a ha b hb => ?_
    obtain ⟨a', b', ha', hb', hstands⟩ := hij
    obtain rfl : a' = a := Option.some.inj (ha'.symm.trans ha)
    obtain rfl : b' = b := Option.some.inj (hb'.symm.trans hb)
    rw [horder] at hstands
    refine hstands.imp id fun ⟨htied, hlt⟩ => ⟨htied, i, j, hlt, ?_⟩
    rw [List.getElem?_map, List.getElem?_map, ha, hb]
    exact ⟨rfl, rfl⟩

/-- A filter changes nothing that the entries tell. -/
theorem map_ofRecord_refresh (s : Store) :
    s.refresh.records.map CachedRecord.ofRecord = s.records.map CachedRecord.ofRecord :=
  List.map_map

/-- What a query shows is what it lists. -/
theorem isFound_of_query {s : Store} (hs : s.Indexed) (horder : s.order = .newest) (q : Query) :
    IsFound (s.records.map CachedRecord.ofRecord) q.Lists
      ((s.applyFilter (.ofQuery q)).visible.map CachedRecord.ofRecord) := by
  let filtered : Store := { s with criteria := .ofQuery q }
  have hfiltered : filtered.Indexed := hs
  rw [← map_ofRecord_refresh filtered]
  exact isFound_visible (.refresh hfiltered) ⟨filtered, rfl⟩ horder (Criteria.shows_ofQuery q)

/-- Without a filter everything is shown. -/
theorem isFound_all {s : Store} (hs : s.Rebuilt) (horder : s.order = .newest)
    (hcriteria : s.criteria = Criteria.empty) :
    IsFound (s.records.map CachedRecord.ofRecord) (fun _ => True)
      (s.visible.map CachedRecord.ofRecord) := by
  refine isFound_visible hs.reachable.consistent hs.exists_refresh horder fun r => ?_
  rw [hcriteria]
  exact iff_true_intro (Criteria.shows_empty r)

/-- Content changes nothing that a listing tells. -/
theorem CachedRecord.ofRecord_fill (contents : List (String × String)) (r : Record) :
    ofRecord (r.fill contents) = ofRecord r := by
  unfold Record.fill Record.setContent
  repeat' split
  all_goals rfl

/-- A store that was made of metadata has their entries, the last of each identifier. -/
theorem Cache.IsRestored.entries {m : MetadataSnapshot} {contents : List (String × String)}
    {s : Store} (h : IsRestored m contents s) :
    s.records.map CachedRecord.ofRecord = lastOfEach CachedRecord.id m.records := by
  rw [h.records, List.map_map]
  refine (List.map_congr_left fun e _ => ?_).trans (List.map_id _)
  exact CachedRecord.ofRecord_fill _ e.toRecord

/-! ## Records that are loaded -/

namespace CommandLine.Context

open Cache

variable {c : Context}

/-- The metadata are those that a command loads. -/
def Loads (c : Context) (m : MetadataSnapshot) : Prop :=
  IsCurrent c.files c.cache c.settings.cache.maxAgeHours (c.clock 0) m

/-- There is one snapshot that a command loads. -/
theorem Loads.unique {m m' : MetadataSnapshot} (h : c.Loads m) (h' : c.Loads m') : m = m' := by
  have hsame := (loadMetadata_eq_some_iff.mpr h).symm.trans (loadMetadata_eq_some_iff.mpr h')
  simpa using hsame

/-- Current metadata are loaded, if no file of contents stands there that cannot be read. -/
theorem load_of_current {m : MetadataSnapshot} (hm : c.Loads m)
    (hreadable : c.files.readText (contentPath c.cache) ≠ .unreadable) :
    ∃ contents store, IsContents c.files c.cache contents ∧ IsRestored m contents store ∧
      c.load = .ok store := by
  obtain ⟨contents, hcontents⟩ := exists_isContents c.files c.cache
  obtain ⟨store, hstore, ⟨hunreadable, -⟩ | ⟨-, hrestore⟩⟩ :=
    restore_of_current hm hcontents Store.empty
  · exact absurd hunreadable hreadable
  · refine ⟨contents, store, hcontents, hstore, ?_⟩
    rw [load, hrestore]

/-- Records that were loaded come from current metadata. -/
theorem exists_of_load {store : Store} (hload : c.load = .ok store)
    (hne : store.isEmpty = false) :
    ∃ m contents, c.Loads m ∧ IsContents c.files c.cache contents ∧
      IsRestored m contents store := by
  rcases loadMetadata_cases c.files c.cache c.settings.cache.maxAgeHours (c.clock 0) with
    ⟨-, h⟩ | ⟨-, h⟩ | h | ⟨m, hm, -⟩
  · simp [load, restore, h] at hload
  · simp [load, restore, h] at hload
  · obtain rfl : Store.empty = store := by simpa [load, restore, h] using hload
    cases hne
  · obtain ⟨contents, hcontents⟩ := exists_isContents c.files c.cache
    obtain ⟨back, hback, ⟨-, hrestore⟩ | ⟨-, hrestore⟩⟩ :=
      restore_of_current hm hcontents Store.empty
    · simp [load, hrestore] at hload
    · obtain rfl : back = store := by simpa [load, hrestore] using hload
      exact ⟨m, contents, hm, hcontents, hback⟩

/-! ## A cache with metadata alone -/

/-- The context of a cache with some metadata and no contents. -/
def ofMetadata (m : MetadataSnapshot) : Context where
  settings := .default
  cache := "cache"
  files := filesOf m ⟨Snapshot.version, []⟩
  clock := fun _ => Timestamp.epoch

/-- Their records are loaded if they were just saved. -/
theorem load_ofMetadata {m : MetadataSnapshot} (hversion : m.version = Snapshot.version)
    (hsaved : m.savedAt = Timestamp.epoch) :
    (ofMetadata m).Loads m ∧ ∃ store, (ofMetadata m).load = .ok store ∧ IsRestored m [] store := by
  have hfresh : m.isExpired? CacheSettings.default.maxAgeHours Timestamp.epoch = some false := by
    rw [MetadataSnapshot.isExpired?, hsaved]
    decide
  have hm : (ofMetadata m).Loads m := isCurrent_filesOf _ hversion hfresh
  have hc : IsCurrentContent (ofMetadata m).files "cache" ⟨Snapshot.version, []⟩ :=
    isCurrentContent_filesOf m rfl
  obtain ⟨contents, store, hcontents, hstore, hload⟩ :=
    load_of_current hm (readText_ne_of_isCurrentContent hc)
  rw [hcontents.of_current _ hc] at hstore
  exact ⟨hm, store, hload, hstore⟩

end CommandLine.Context

end ChatArchive
