import ChatArchive.Proofs.CommandLine.Search
import ChatArchive.Proofs.Filter.Exclusion
import ChatArchive.Proofs.Operation.Export

/-!
# Searches and exports agree

A search and an export of metadata both go from the snapshots to what a query finds, but on
different ways: the search prints the records of the view, and the export looks up the identifiers
of the view again.  Both come to the entries of the metadata that the query lists, newest first
(`search_and_export_agree`).
-/

namespace ChatArchive

/-! ## Documents of metadata -/

/-- The document of an export of metadata. -/
def listingNode (now : Timestamp) (found : List CachedRecord) : Json.Node :=
  .obj [("export_date", .str now.toText), ("export_version", .str "1.0"),
    ("export_type", .str "metadata"), ("total_conversations", .ofNat found.length),
    ("conversations", .arr (found.map fun e =>
      .obj [("id", .str e.id), ("name", .str e.title), ("updated_at", .str e.updatedAt.toText)]))]

/-- Looking up the identifiers of known records gives these records. -/
theorem Store.filterMap_get? {s : Store} (hs : s.Indexed) {rs : List Record}
    (hrs : ∀ r ∈ rs, r ∈ s.records) : (rs.map Record.id).filterMap s.get? = rs := by
  have hget : ∀ r ∈ rs, s.get? r.id = some r := fun r hr =>
    hs.get?_eq_some_iff.mpr ⟨hrs r hr, rfl⟩
  rw [List.filterMap_map]
  exact (List.filterMap_congr hget).trans List.filterMap_some

/-- The visible records are records of the store. -/
theorem Store.mem_of_mem_visible {s : Store} {r : Record} (h : r ∈ s.visible) : r ∈ s.records := by
  obtain ⟨i, -, hi⟩ := List.mem_filterMap.mp h
  exact List.mem_of_getElem? hi

namespace Operation.Export

/-- An export of the visible records writes their entries, where a file can be put. -/
theorem metadata_visible {s : Store} (hs : s.Indexed) (now : Timestamp) {files : Files}
    {out : Files.Path} (hout : files.IsWritable out) :
    ∃ done : Files, metadata now s (s.visible.map Record.id) files out =
        (done, .ok ⟨out, s.visible.length, 0⟩) ∧
      done.readText out =
        .text (listingNode now (s.visible.map CachedRecord.ofRecord)).toPrettyText := by
  let d := ExportDocument.ofEntries now .metadata (s.visible.map fun r => .listed (.ofRecord r))
  have hfound := Store.filterMap_get? hs fun r hr => Store.mem_of_mem_visible (s := s) hr
  have hnode : d.toNode = listingNode now (s.visible.map CachedRecord.ofRecord) := by
    simp only [d, ExportDocument.toNode, ExportDocument.ofEntries, listingNode, List.map_map,
      List.length_map]
    rfl
  have hfailed : d.entries.countP ExportEntry.isFailed = 0 := by
    simp [d, ExportDocument.ofEntries, List.countP_map, Function.comp_def, ExportEntry.isFailed]
  have hlength : d.entries.length = s.visible.length := List.length_map _
  obtain ⟨done, hwrite, hthere⟩ := exists_writeDocument hout d
  rw [hfailed, hlength] at hwrite
  refine ⟨done, ?_, ?_⟩
  · rw [metadata, hfound]
    exact hwrite
  · rw [← hnode]
    exact hthere

/-- Where no file can be put an export fails. -/
theorem metadata_of_not_writable (now : Timestamp) (s : Store) (ids : List String) {files : Files}
    {out : Files.Path} (hout : ¬files.IsWritable out) :
    ∃ done : Files, metadata now s ids files out = (done, .error unwritable) := by
  unfold metadata writeDocument
  dsimp only
  rcases hwrite : files.writeJson out _ with ⟨done, _ | _⟩
  · exact ⟨done, rfl⟩
  · exact absurd (Files.isWritable_of_write hwrite) hout

end Operation.Export

/-! ## Lines of conversations -/

namespace CommandLine

open Files (Path)

/-- What a search of titles prints of a conversation: a line with its time and its title, and one
with its identifier.  If terms or a pattern were looked for, it is said behind the title that they
were found there, and the snippet around them stands on a third line. -/
def listedLines (now : Timestamp) (q : Query) (e : CachedRecord) : List String :=
  let title := padLeft 12 (e.updatedAt.toDisplayText now) ++ "  " ++ Text.lineText 70 e.title
  let id := "              " ++ e.id
  match q.mode with
  | .none | .all | .ids _ => [title, id]
  | .contains _ | .any _ | .pattern _ =>
    let snippet := q.snippet e.title Query.defaultContext
    [title ++ "  [title]", id] ++
      if snippet = "" then [] else ["              " ++ Text.lineText 110 snippet]

/-- Without a time, a line begins behind the column of times. -/
theorem columns_empty (text : String) : columns "" text = "              " ++ text := by
  have hfront : padLeft timeWidth "" ++ "  " = "              " := by decide
  rw [columns, hfront]

/-- The lines of a record in which nothing is noted. -/
theorem recordLines_of_none {r : Record} (h : r.hit = none) (now : Timestamp) :
    recordLines now r =
      [padLeft 12 (r.updatedAt.toDisplayText now) ++ "  " ++ Text.lineText 70 r.title.text,
        "              " ++ r.id] := by
  simp only [recordLines, h, columns_empty, labelText, String.append_empty]
  rfl

/-- The lines of a record of which the title is noted. -/
theorem recordLines_of_title {r : Record} {snippet : String}
    (h : r.hit = some ⟨.title, snippet⟩) (now : Timestamp) :
    recordLines now r =
      [padLeft 12 (r.updatedAt.toDisplayText now) ++ "  " ++ Text.lineText 70 r.title.text ++
          "  [title]", "              " ++ r.id] ++
        if snippet = "" then [] else ["              " ++ Text.lineText 110 snippet] := by
  have hlabel : labelText (some ⟨.title, snippet⟩) = "  [title]" := by
    change "  [" ++ "title" ++ "]" = _
    decide
  simp only [recordLines, h, columns_empty, hlabel]
  rw [columns, ← String.append_assoc]
  rfl

/-- What is printed of a record that a query shows is what its listing and the query tell. -/
theorem recordLines_of_visible {s : Store} {q : Query} {r : Record}
    (h : r ∈ (s.applyFilter (.ofQuery q)).visible) (now : Timestamp) :
    recordLines now r = listedLines now q (CachedRecord.ofRecord r) := by
  obtain ⟨hmem, hshows⟩ := Store.mem_visible_refresh.mp h
  obtain ⟨before, -, rfl⟩ := List.mem_map.mp hmem
  have hshows : (Criteria.ofQuery q).Shows before := (Criteria.shows_mark _ _ before).mp hshows
  have hnone (hq : ¬q.mode.IsLocated) : ((Criteria.ofQuery q).mark before).hit = none :=
    Criteria.hit?_verdict_eq_none fun hlocated => hq hlocated.2
  have htitle (hq : q.mode.IsLocated) : ((Criteria.ofQuery q).mark before).hit =
      some ⟨.title, q.snippet before.title.text Query.defaultContext⟩ :=
    Criteria.hit?_verdict_ofQuery hq hshows
  rw [listedLines]
  cases hm : q.mode with
  | none | all | ids _ => exact recordLines_of_none (hnone (by simp [hm, Query.Mode.IsLocated])) now
  | contains _ | any _ | pattern _ =>
    exact recordLines_of_title (htitle (by simp [hm, Query.Mode.IsLocated])) now

/-! ## Commands -/

namespace Context

/-- A search prints the lines of the first of the conversations that were found, as many as the
limit admits; it says how many more there are, if there are any, and how many were found of how
many. -/
def PrintsFirst (c : Context) (query : String) (limit : Nat) (found : List CachedRecord)
    (size : Nat) : Prop :=
  c.perform (some (.search ⟨query, none, none, false, limit⟩)) =
    (c.files, .ok (textOf (
      (found.take limit).flatMap (listedLines (c.clock 1) (Query.ofText query)) ++
      (if limit < found.length then
        ["... " ++ toString (found.length - limit) ++ " more (use --limit to show more)"]
      else []) ++
      [toString found.length ++ " of " ++ toString size ++ " conversations matched"])))

/-- An export to where a file can be put writes a document of the conversations that were found, and
any other export fails. -/
def Exports (c : Context) (query : Option String) (found : List CachedRecord) : Prop :=
  ∀ out : Path,
    (c.files.IsWritable out → ∃ files : Files,
      c.perform (some (.exportMetadata out query)) =
        (files, .ok (textOf
          ["Exported " ++ toString found.length ++ " conversations to " ++ out])) ∧
      files.readText out = .text (listingNode (c.clock 1) found).toPrettyText) ∧
    (¬c.files.IsWritable out → ∃ files : Files,
      c.perform (some (.exportMetadata out query)) = (files, .error (.exportFailed out)))

variable {c : Context} {store : Store}

/-- What a search prints is read off the view of the filtered store. -/
theorem printsFirst_visible (hload : c.load = .ok store) (hne : store.isEmpty = false)
    (hs : store.Indexed) (query : String) (limit : Nat) :
    c.PrintsFirst query limit
      ((store.applyFilter (.ofQuery (Query.ofText query))).visible.map CachedRecord.ofRecord)
      store.size := by
  let found := store.applyFilter (.ofQuery (Query.ofText query))
  have hfiltered : Store.Indexed { store with criteria := .ofQuery (Query.ofText query) } := hs
  have hlength : found.visible.length = found.view.length :=
    (Store.Consistent.refresh hfiltered).length_visible
  have hsize : found.size = store.size := List.length_map _
  have hsearch := @perform_search c ⟨query, none, none, false, limit⟩ _ store rfl hload hne
  have hlines : ((found.visible.map CachedRecord.ofRecord).take limit).flatMap
      (listedLines (c.clock 1) (Query.ofText query)) =
        (found.visible.take limit).flatMap (recordLines (c.clock 1)) := by
    rw [← List.map_take, List.flatMap_map]
    exact List.flatMap_congr fun r hr =>
      (recordLines_of_visible (List.mem_of_mem_take hr) (c.clock 1)).symm
  refine hsearch.trans ?_
  rw [hlines, List.length_map, hlength, ← hsize]
  rfl

/-- What an export writes are the visible records of its selection. -/
theorem exports_selection (hload : c.load = .ok store) (hne : store.isEmpty = false)
    {query : Option String} (hs : (selection store query).Indexed) :
    c.Exports query ((selection store query).visible.map CachedRecord.ofRecord) := by
  intro out
  constructor
  · intro hout
    obtain ⟨files, hmetadata, htext⟩ := Operation.Export.metadata_visible hs (c.clock 1) hout
    have hexport : c.exportMetadata out query = (files, .ok ["Exported " ++
        toString (selection store query).visible.length ++ " conversations to " ++ out]) := by
      simp only [exportMetadata, hload, hne, Bool.false_eq_true, if_false, hmetadata]
    refine ⟨files, ?_, htext⟩
    rw [perform, hexport, List.length_map]
    rfl
  · intro hout
    obtain ⟨files, hmetadata⟩ := Operation.Export.metadata_of_not_writable (c.clock 1)
      (selection store query) ((selection store query).visible.map Record.id) hout
    have hexport : c.exportMetadata out query = (files, .error (.exportFailed out)) := by
      simp only [exportMetadata, hload, hne, Bool.false_eq_true, if_false, hmetadata]
    exact ⟨files, by rw [perform, hexport]; rfl⟩

/-- What a search for a query prints and what an export of the same query writes are the
conversations of the cached metadata whose listing satisfies the query, the last entry of each
identifier, newest first and ties in the order of the snapshot: the search the first of them up to
its limit, the export all of them.  An export without a query writes all conversations. -/
theorem search_and_export_agree (hload : c.load = .ok store) (hne : store.isEmpty = false) :
    ∃ m, c.Loads m ∧
      let entries := lastOfEach CachedRecord.id m.records
      store.size = entries.length ∧
      (∀ query, ∃ found, IsFound entries (Query.ofText query).Lists found ∧
        (∀ limit, c.PrintsFirst query limit found entries.length) ∧
        c.Exports (some query) found) ∧
      ∃ all, IsFound entries (fun _ => True) all ∧ c.Exports none all := by
  obtain ⟨m, contents, hm, -, hstore⟩ := exists_of_load hload hne
  have hs : store.Indexed := hstore.rebuilt.reachable.consistent.indexed
  have hentries := hstore.entries
  have hsize : store.size = (lastOfEach CachedRecord.id m.records).length := by
    rw [← hentries, List.length_map]
    rfl
  refine ⟨m, hm, hsize, fun query => ?_, ?_⟩
  · refine ⟨_, hentries ▸ isFound_of_query hs hstore.order (Query.ofText query),
      fun limit => ?_, ?_⟩
    · rw [← hsize]
      exact printsFirst_visible hload hne hs query limit
    · have hfiltered : Store.Indexed { store with criteria := .ofQuery (Query.ofText query) } := hs
      exact @exports_selection c store hload hne (some query) hfiltered.refresh
  · exact ⟨_, hentries ▸ isFound_all hstore.rebuilt hstore.order hstore.criteria,
      @exports_selection c store hload hne none hs⟩

/-- Metadata with a repeated identifier, and a title with a word that may be unwanted. -/
def debugMetadata : MetadataSnapshot where
  version := Snapshot.version
  savedAt := Timestamp.epoch
  records := [⟨"a", "One", Timestamp.epoch⟩, ⟨"b", "Debug", Timestamp.epoch⟩,
    ⟨"c", "Two", Timestamp.epoch⟩, ⟨"a", "Three", Timestamp.epoch⟩]

/-- Their entries that have no such word. -/
def otherEntries : List CachedRecord :=
  [⟨"a", "Three", Timestamp.epoch⟩, ⟨"c", "Two", Timestamp.epoch⟩]

/-- The query asks for titles without the word. -/
theorem lists_notDebug (e : CachedRecord) : (Query.ofText "not:debug").Lists e ↔
    ¬"debug".toList <:+: Text.lowercase e.title.toList := by
  have hquery : Query.ofText "not:debug" = ⟨.all, ["debug"]⟩ :=
    congrArg Criteria.query (Criteria.notDebug_eq false)
  rw [hquery]
  simp [Query.Lists, Query.Matches, Query.Excludes, Query.Mode.Holds]

/-- Of the entries, each with its last title, two have no such word. -/
theorem isFound_otherEntries :
    IsFound (lastOfEach CachedRecord.id debugMetadata.records) (Query.ofText "not:debug").Lists
      otherEntries := by
  have hentries : lastOfEach CachedRecord.id debugMetadata.records =
      [⟨"a", "Three", Timestamp.epoch⟩, ⟨"b", "Debug", Timestamp.epoch⟩,
        ⟨"c", "Two", Timestamp.epoch⟩] := by rfl
  have hthree : ¬"debug".toList <:+: Text.lowercase "Three".toList := by decide +kernel
  have htwo : ¬"debug".toList <:+: Text.lowercase "Two".toList := by decide +kernel
  have hdebug : "debug".toList <:+: Text.lowercase "Debug".toList := by decide +kernel
  rw [hentries]
  refine ⟨fun e => ?_, by decide, ?_⟩
  · rw [lists_notDebug]
    constructor
    · intro he
      obtain rfl | rfl : e = ⟨"a", "Three", Timestamp.epoch⟩ ∨
          e = ⟨"c", "Two", Timestamp.epoch⟩ := by
        simpa [otherEntries] using he
      · exact ⟨by simp, hthree⟩
      · exact ⟨by simp, htwo⟩
    · rintro ⟨he, hnot⟩
      obtain rfl | rfl | rfl : e = ⟨"a", "Three", Timestamp.epoch⟩ ∨
          e = ⟨"b", "Debug", Timestamp.epoch⟩ ∨ e = ⟨"c", "Two", Timestamp.epoch⟩ := by
        simpa using he
      · simp [otherEntries]
      · exact absurd hdebug hnot
      · simp [otherEntries]
  · refine List.pairwise_pair.mpr (.inr ⟨rfl, 0, 2, by decide, rfl, rfl⟩)

/-- Two of three conversations have no such word, one of them under its last title. -/
theorem agreement_on_repeated_entries :
    let c := ofMetadata debugMetadata
    (∃ store, c.load = .ok store ∧ store.isEmpty = false) ∧
    c.PrintsFirst "not:debug" 1 otherEntries 3 ∧
    c.files.IsWritable "meta.json" ∧
    ∃ files : Files, c.perform (some (.exportMetadata "meta.json" (some "not:debug"))) =
        (files, .ok "Exported 2 conversations to meta.json\n") ∧
      files.readText "meta.json" =
        .text (listingNode Timestamp.epoch otherEntries).toPrettyText := by
  intro c
  obtain ⟨hloads, store, hload, hstore⟩ := @load_ofMetadata debugMetadata rfl rfl
  have hne : store.isEmpty = false := by
    rw [Store.isEmpty, hstore.records]
    rfl
  obtain ⟨m, hm, -, hquery, -⟩ := search_and_export_agree hload hne
  obtain rfl := hm.unique hloads
  obtain ⟨found, hfound, hprints, hexports⟩ := hquery "not:debug"
  obtain rfl := hfound.unique isFound_otherEntries (by decide)
  have hwritable : c.files.IsWritable "meta.json" :=
    ⟨by decide, _, _, _, _, rfl, rfl, rfl⟩
  exact ⟨⟨store, hload, hne⟩, hprints 1, hwritable, (hexports "meta.json").1 hwritable⟩

end Context

end CommandLine

end ChatArchive
