import ChatArchive.Proofs.CommandLine.Found
import ChatArchive.Proofs.Text.Display

/-!
# What a search prints

Titles and previews go through a line of plain text before they are printed, identifiers do not.
So the control characters of what a search prints are its line breaks and those of identifiers
(`printed_of_search`): where these have none, every record takes two lines, or three with a preview.
-/

namespace ChatArchive.CommandLine

open Text

/-! ## Control characters of printed text -/

/-- The control characters of a text, in their order. -/
def controls (s : String) : List Char := s.toList.filter isControl

/-- The control characters of a text are those among its characters. -/
theorem mem_controls {s : String} {ch : Char} :
    ch ∈ controls s ↔ ch ∈ s.toList ∧ isControl ch = true := List.mem_filter

/-- Those of two texts in a row are those of the first and then those of the second. -/
@[simp] theorem controls_append (s t : String) : controls (s ++ t) = controls s ++ controls t := by
  rw [controls, String.toList_append, List.filter_append]
  rfl

/-- A printable text has none. -/
theorem controls_of_isPrintable {s : String} (h : IsPrintable s) : controls s = [] :=
  List.filter_eq_nil_iff.mpr fun ch hch => by simp [h ch hch]

/-- Padding adds no control character. -/
theorem isPrintable_padLeft (width : Nat) {text : String} (h : IsPrintable text) :
    IsPrintable (padLeft width text) := by
  refine IsPrintable.append (isPrintable_ofList fun ch hch => ?_) h
  rw [List.eq_of_mem_replicate hch]
  decide

/-- The columns add no control character to a text. -/
theorem controls_columns {time : String} (htime : IsPrintable time) (text : String) :
    controls (columns time text) = controls text := by
  have hfront : IsPrintable (padLeft timeWidth time ++ "  ") :=
    (isPrintable_padLeft timeWidth htime).append (by decide)
  rw [columns, controls_append, controls_of_isPrintable hfront, List.nil_append]

/-- No control character is in the label of a hit. -/
theorem isPrintable_labelText (hit : Option Record.Hit) : IsPrintable (labelText hit) := by
  cases hit with
  | none => decide
  | some h =>
    have hlabel : ∀ place : Record.Place, IsPrintable place.label := by
      intro place
      cases place <;> decide
    exact IsPrintable.append (IsPrintable.append (by decide) (hlabel h.place)) (by decide)

namespace Context

/-- A line is followed by its break. -/
theorem textOf_cons (line : String) (lines : List String) :
    textOf (line :: lines) = line ++ "\n" ++ textOf lines := by
  rw [textOf, List.map_cons, String.join_cons]
  rfl

/-- Lines in a row are printed in a row. -/
theorem textOf_append (lines more : List String) :
    textOf (lines ++ more) = textOf lines ++ textOf more := by
  rw [textOf, List.map_append, String.join_append]
  rfl

/-- What is printed for some things are the texts of each. -/
theorem textOf_flatMap {α : Type} (f : α → List String) (xs : List α) :
    textOf (xs.flatMap f) = String.join (xs.map fun x => textOf (f x)) := by
  induction xs with
  | nil => rfl
  | cons x xs ih => rw [List.flatMap_cons, textOf_append, ih, List.map_cons, String.join_cons]

/-- Of lines without control characters the line breaks are left. -/
theorem controls_textOf {lines : List String} (h : ∀ line ∈ lines, IsPrintable line) :
    controls (textOf lines) = List.replicate lines.length '\n' := by
  induction lines with
  | nil => rfl
  | cons line lines ih =>
    have hbreak : controls "\n" = ['\n'] := by decide
    obtain ⟨hline, hrest⟩ := List.forall_mem_cons.mp h
    rw [textOf_cons, controls_append, controls_append, controls_of_isPrintable hline, hbreak,
      ih hrest]
    rfl

end Context

open Context

/-! ## Records -/

/-- The preview of a record; it is empty if there is none. -/
def previewOf (r : Record) : String := (r.hit.map fun h => h.preview).getD ""

/-- What is printed for a record. -/
def recordText (now : Timestamp) (r : Record) : String := textOf (recordLines now r)

/-- The line of the preview, if there is one. -/
def previewLines (r : Record) : List String :=
  if previewOf r = "" then [] else [columns "" (lineText previewWidth (previewOf r))]

/-- Of a preview nothing but the break of its line is a control character. -/
theorem controls_previewLines (r : Record) :
    controls (textOf (previewLines r)) = if previewOf r = "" then [] else ['\n'] := by
  have hline : IsPrintable (columns "" (lineText previewWidth (previewOf r))) :=
    ((isPrintable_padLeft _ (by decide)).append (by decide)).append (isPrintable_lineText _ _)
  unfold previewLines
  split_ifs
  · rfl
  · exact controls_textOf (by simpa using hline)

/-- The control characters that are printed for a record: the breaks of its two or three lines, and
those of its identifier, which stands on the second. -/
theorem controls_recordText (now : Timestamp) (r : Record) :
    controls (recordText now r) =
      '\n' :: (controls r.id ++ '\n' :: if previewOf r = "" then [] else ['\n']) := by
  let title := columns (r.updatedAt.toDisplayText now)
    (lineText titleWidth r.title.text ++ labelText r.hit)
  have htext : recordText now r =
      title ++ "\n" ++ (columns "" r.id ++ "\n" ++ textOf (previewLines r)) := by
    rw [← textOf_cons, ← textOf_cons]
    rfl
  have htitle : controls title = [] := by
    rw [controls_columns (r.updatedAt.isPrintable_toDisplayText now)]
    exact controls_of_isPrintable ((isPrintable_lineText _ _).append (isPrintable_labelText _))
  have hid : controls (columns "" r.id) = controls r.id := controls_columns (by decide) r.id
  have hbreak : controls "\n" = ['\n'] := by decide
  rw [htext]
  simp only [controls_append, htitle, hid, hbreak, controls_previewLines]
  simp

/-! ## Searches -/

/-- The line about further records has no control character. -/
theorem isPrintable_moreLines {total limit : Nat} :
    ∀ line ∈ moreLines total limit, IsPrintable line := by
  intro line hline
  unfold moreLines at hline
  split_ifs at hline
  · obtain rfl := List.mem_singleton.mp hline
    exact ((by decide : IsPrintable "... ").append (isPrintable_toString _)).append (by decide)
  · exact absurd hline List.not_mem_nil

/-- What is printed behind the records. -/
def closingText (limit : Nat) (s : Store) : String :=
  textOf (moreLines s.view.length limit ++
    [toString s.view.length ++ " of " ++ toString s.size ++ " conversations matched"])

/-- Behind the records there are the breaks of one line or two. -/
theorem controls_closingText (limit : Nat) (s : Store) :
    controls (closingText limit s) =
      List.replicate (if limit < s.view.length then 2 else 1) '\n' := by
  have hcount : IsPrintable
      (toString s.view.length ++ " of " ++ toString s.size ++ " conversations matched") :=
    (((isPrintable_toString _).append (by decide)).append (isPrintable_toString _)).append
      (by decide)
  have hlength : (moreLines s.view.length limit).length =
      if limit < s.view.length then 1 else 0 := by
    unfold moreLines
    split_ifs <;> rfl
  rw [closingText, controls_textOf, List.length_append, hlength]
  · split_ifs <;> rfl
  · exact List.forall_mem_append.mpr ⟨isPrintable_moreLines, by simpa using hcount⟩

/-- A search prints the text of each record that is shown, and then a closing text. -/
theorem textOf_searchLines (now : Timestamp) (limit : Nat) (s : Store) :
    textOf (searchLines now limit s) =
      String.join ((s.visible.take limit).map (recordText now)) ++ closingText limit s := by
  rw [searchLines, List.append_assoc, textOf_append, textOf_flatMap]
  rfl

/-- A search of a store with records prints its filtered view. -/
theorem perform_search {c : Context} {s : Search} {criteria : Criteria} {store : Store}
    (hcriteria : s.criteria = .ok criteria) (hload : c.load = .ok store)
    (hne : store.isEmpty = false) :
    c.perform (some (.search s)) =
      (c.files, .ok (textOf (searchLines (c.clock 1) s.limit (store.applyFilter criteria)))) := by
  have hsearch : c.search s =
      .ok (searchLines (c.clock 1) s.limit (store.applyFilter criteria)) := by
    simp only [Context.search, hcriteria, hload, hne, bind, Except.bind, pure, Except.pure,
      Bool.false_eq_true, if_false]
  rw [perform, hsearch, Except.map]

/-- The control characters of the texts of some records that are no line breaks are those of their
identifiers. -/
theorem mem_controls_join_iff (now : Timestamp) (shown : List Record) {ch : Char}
    (hch : ch ≠ '\n') :
    ch ∈ controls (String.join (shown.map (recordText now))) ↔ ∃ r ∈ shown, ch ∈ controls r.id := by
  have hpreview : ∀ r, ch ∉ if previewOf r = "" then [] else ['\n'] := by
    intro r
    split_ifs <;> simp [hch]
  induction shown with
  | nil => simp [controls]
  | cons r shown ih =>
    rw [List.map_cons, String.join_cons, controls_append, controls_recordText, List.mem_append]
    simp [hch, hpreview, ih]

/-- Whatever the snapshots hold, the control characters that a search prints are the breaks of its
lines and what the identifiers of the shown records have.  The lines of a record are two, or three
with a preview, and one more for every line break in its identifier; one or two lines follow the
records.  Where a bound is no date nothing is printed. -/
theorem printed_of_search {c : Context} {store : Store} (hload : c.load = .ok store)
    (hne : store.isEmpty = false) (s : Search) :
    (∀ fault, s.criteria = .error fault →
      c.perform (some (.search s)) = (c.files, .error fault)) ∧
    ∀ criteria, s.criteria = .ok criteria →
      let found := store.applyFilter criteria
      let shown := found.visible.take s.limit
      ∃ text closing, c.perform (some (.search s)) = (c.files, .ok text) ∧
        text = String.join (shown.map (recordText (c.clock 1))) ++ closing ∧
        (∀ r ∈ shown, controls (recordText (c.clock 1) r) =
          '\n' :: (controls r.id ++ '\n' :: if previewOf r = "" then [] else ['\n'])) ∧
        controls closing = List.replicate (if s.limit < found.view.length then 2 else 1) '\n' ∧
        ∀ ch, ch ≠ '\n' → (ch ∈ controls text ↔ ∃ r ∈ shown, ch ∈ controls r.id) := by
  constructor
  · intro fault hfault
    rw [perform, Context.search, hfault]
    rfl
  · intro criteria hcriteria found shown
    refine ⟨_, closingText s.limit found, perform_search hcriteria hload hne,
      textOf_searchLines _ _ _, fun r _ => controls_recordText _ r, controls_closingText _ _, ?_⟩
    intro ch hch
    have hclosing : ch ∉ controls (closingText s.limit found) := by
      rw [controls_closingText]
      exact fun hmem => hch (List.eq_of_mem_replicate hmem)
    rw [textOf_searchLines, controls_append, List.mem_append, or_iff_left hclosing]
    exact mem_controls_join_iff _ _ hch

/-- A snapshot of one conversation, whose title clears the screen. -/
def clearingListing (id : String) : MetadataSnapshot :=
  ⟨Snapshot.version, Timestamp.epoch, [⟨id, "Alpha\x1b[2J", Timestamp.epoch⟩]⟩

/-- The snapshot is loaded with its one record, whose title is as it was. -/
theorem load_clearingListing (id : String) :
    ∃ store, (ofMetadata (clearingListing id)).load = .ok store ∧ store.isEmpty = false ∧
      store.records = [Record.ofListing id "Alpha\x1b[2J" Timestamp.epoch] := by
  obtain ⟨-, store, hload, hstore⟩ := @load_ofMetadata (clearingListing id) rfl rfl
  have hone : lastOfEach CachedRecord.id (clearingListing id).records =
      (clearingListing id).records := lastOfEach_of_nodup (List.nodup_singleton id)
  have hrecords := hstore.records
  rw [hone] at hrecords
  exact ⟨store, hload, by rw [Store.isEmpty, hrecords]; rfl, hrecords⟩

/-- A title that would clear the screen does not. -/
theorem printed_of_clearing_title :
    let c := ofMetadata (clearingListing "a")
    let s : Search := ⟨"", none, none, false, 20⟩
    ∃ store text, c.load = .ok store ∧ store.isEmpty = false ∧
      c.perform (some (.search s)) = (c.files, .ok text) ∧
      ∀ ch ∈ text.toList, isControl ch = true → ch = '\n' := by
  intro c s
  obtain ⟨store, hload, hne, hrecords⟩ := load_clearingListing "a"
  obtain ⟨-, hprinted⟩ := printed_of_search hload hne s
  obtain ⟨text, closing, hperform, -, -, -, hcontrols⟩ := hprinted _ rfl
  refine ⟨store, text, hload, hne, hperform, fun ch hmem hcontrol => ?_⟩
  by_contra hch
  obtain ⟨r, hr, hid⟩ := (hcontrols ch hch).mp (mem_controls.mpr ⟨hmem, hcontrol⟩)
  obtain ⟨hthere, -⟩ := Store.mem_visible_refresh.mp (List.mem_of_mem_take hr)
  obtain ⟨before, hbefore, rfl⟩ := List.mem_map.mp hthere
  obtain rfl : before = _ := List.mem_singleton.mp (hrecords ▸ hbefore)
  have hnone : controls "a" = [] := by decide
  have hid : ch ∈ controls "a" := hid
  rw [hnone] at hid
  exact absurd hid List.not_mem_nil

/-- An identifier is printed as it is: with a bell and a line break in it, a search prints a control
character, and takes a third line for a record without a preview. -/
theorem identifier_is_printed_raw :
    (¬∀ (c : Context) (store : Store) (s : Search) (text : String), c.load = .ok store →
      store.isEmpty = false → c.perform (some (.search s)) = (c.files, .ok text) →
      ∀ ch ∈ text.toList, isControl ch = true → ch = '\n') ∧
    ¬∀ (c : Context) (store : Store) (s : Search) (criteria : Criteria), c.load = .ok store →
      store.isEmpty = false → s.criteria = .ok criteria →
      ∀ r ∈ (store.applyFilter criteria).visible.take s.limit,
        (recordText (c.clock 1) r).toList.count '\n' = if previewOf r = "" then 2 else 3 := by
  obtain ⟨store, hload, hne, hrecords⟩ := load_clearingListing "a\x07\n"
  let c := ofMetadata (clearingListing "a\x07\n")
  let criteria : Criteria := .ofQuery (Query.ofText "")
  let found := store.applyFilter criteria
  let s : Search := ⟨"", none, none, false, found.visible.length⟩
  let r : Record := Record.ofListing "a\x07\n" "Alpha\x1b[2J" Timestamp.epoch
  have hcriteria : s.criteria = .ok criteria := rfl
  have hempty : criteria = Criteria.empty := congrArg Criteria.ofQuery Query.ofText_nothing
  have hmark : criteria.mark r = r := by
    rw [hempty]
    exact Criteria.mark_empty rfl
  have hshown : r ∈ found.visible.take s.limit := by
    have hthere : r ∈ found.records := by
      rw [← hmark]
      exact List.mem_map_of_mem (hrecords ▸ List.mem_singleton_self r)
    rw [List.take_length]
    exact Store.mem_visible_refresh.mpr ⟨hthere, hempty ▸ Criteria.shows_empty r⟩
  constructor
  · intro hclean
    have hbell : '\x07' ∈ controls r.id := by decide
    have hprinted : '\x07' ∈ controls (textOf (searchLines (c.clock 1) s.limit found)) := by
      rw [textOf_searchLines, controls_append, List.mem_append,
        mem_controls_join_iff _ _ (by decide)]
      exact .inl ⟨r, hshown, hbell⟩
    obtain ⟨hmem, hcontrol⟩ := mem_controls.mp hprinted
    exact absurd (hclean c store s _ hload hne (perform_search hcriteria hload hne) _ hmem hcontrol)
      (by decide)
  · intro hlines
    have hcount := hlines c store s criteria hload hne hcriteria r hshown
    rw [← List.count_filter (p := isControl) (by decide)] at hcount
    have hcontrols : (recordText (c.clock 1) r).toList.filter isControl = _ :=
      controls_recordText (c.clock 1) r
    rw [hcontrols] at hcount
    exact absurd hcount (by decide)

end ChatArchive.CommandLine
