import ChatArchive.Proofs.Store.Reachable

/-!
# The data of a store

The data of a record is all of it but the note of what was found in it, and the data of a store are
those of its records with its index.  `SameData` relates stores that agree in them, whatever their
views, criteria and orders are.

Operations on the view keep the data (`SameData.of_view`), and any other operation but the selection
of what is visible gives back the same and leaves the same data wherever the data were the same
(`SameData.step`).  So the operations on the view can be left out of a sequence of operations:
`data_without_views`.
-/

namespace ChatArchive

/-! ## Records -/

/-- All of a record but the note of what was found in it. -/
def Record.data (r : Record) : Record := r.setHit none

namespace Record

/-- A change of a record that does not look at what was found in it. -/
def IsBlind (f : Record → Record) : Prop := ∀ r, (f r).data = (f r.data).data

/-- An edit does not look at what was found. -/
theorem Edit.isBlind (e : Edit) : IsBlind e.apply := by
  intro r
  cases e with
  | content text =>
    unfold Edit.apply setContent
    dsimp only
    split <;> rfl
  | title _ | time _ | selected _ => rfl

end Record

namespace Store

/-! ## Stores -/

/-- The data of the records. -/
def data (s : Store) : List Record := s.records.map Record.data

/-- The data of a record stand where it stands. -/
theorem getElem?_data (s : Store) (i : Nat) : s.data[i]? = s.records[i]?.map Record.data :=
  List.getElem?_map

/-- Two stores have the same data. -/
structure SameData (s t : Store) : Prop where
  data : s.data = t.data
  positions : s.positions = t.positions

/-- A change of one record that does not look at the note can be made on the data as well. -/
theorem map_data_modify {f : Record → Record} (hf : Record.IsBlind f) (rs : List Record) (i : Nat) :
    (rs.modify i f).map Record.data = (rs.map Record.data).modify i fun r => (f r).data := by
  apply List.ext_getElem?
  intro j
  simp only [List.getElem?_map, List.getElem?_modify]
  cases rs[j]? with
  | none => rfl
  | some r => by_cases hij : i = j <;> simp [hij, hf r]

/-- The index is made of the data. -/
theorem positionsOf_map_data (rs : List Record) :
    positionsOf (rs.map Record.data) = positionsOf rs := by
  unfold positionsOf
  rw [List.zipIdx_map, List.foldl_map]
  rfl

namespace SameData

variable {s t : Store}

/-- Every store has its own data. -/
theorem refl (s : Store) : SameData s s := ⟨rfl, rfl⟩

/-- Having the same data carries over. -/
theorem trans {u : Store} (h : SameData s t) (h' : SameData t u) : SameData s u :=
  ⟨h.data.trans h'.data, h.positions.trans h'.positions⟩

/-- The same records are known by stores with the same data. -/
theorem contains (h : SameData s t) (id : String) : s.contains id = t.contains id := by
  unfold Store.contains
  rw [h.positions]

/-- There are as many of them. -/
theorem length (h : SameData s t) : s.records.length = t.records.length := by
  simpa [Store.data] using congrArg List.length h.data

/-- Under one identifier there is a record with the same data. -/
theorem get? (h : SameData s t) (id : String) :
    (s.get? id).map Record.data = (t.get? id).map Record.data := by
  unfold Store.get?
  rw [h.positions]
  cases t.positions[id]? with
  | none => rfl
  | some i =>
    rw [Option.bind_some, Option.bind_some, ← getElem?_data, ← getElem?_data, h.data]

/-! ### Operations on the view -/

/-- Searching again changes no data. -/
theorem of_refresh (s : Store) : SameData s.refresh s := by
  refine ⟨?_, rfl⟩
  unfold Store.data refresh sortView
  rw [List.map_map]
  rfl

/-! ### Operations on records -/

/-- A change that is blind to what was found makes the same of the same data. -/
theorem modify (h : SameData s t) (id : String) {f : Record → Record} (hf : Record.IsBlind f) :
    SameData (s.modify id f) (t.modify id f) := by
  refine ⟨?_, by rw [positions_modify, positions_modify, h.positions]⟩
  unfold Store.modify
  rw [h.positions]
  cases t.positions[id]? with
  | none => exact h.data
  | some i =>
    have hdata := h.data
    unfold Store.data at hdata ⊢
    dsimp only
    rw [map_data_modify hf, map_data_modify hf, hdata]

/-- So does inserting a record. -/
theorem insert (h : SameData s t) (r : Record) : SameData (s.insert r) (t.insert r) := by
  have hdata := h.data
  unfold Store.data at hdata
  unfold Store.insert
  rw [h.positions, h.length]
  cases t.positions[r.id]? with
  | none => exact ⟨by simp [Store.data, hdata], rfl⟩
  | some i => exact ⟨by simp [Store.data, List.map_set, hdata], rfl⟩

/-- So does merging an item. -/
theorem mergeItem (h : SameData s t) (now : Timestamp) (item : ListingItem) :
    SameData (s.mergeItem now item) (t.mergeItem now item) := by
  unfold Store.mergeItem
  rw [h.contains]
  split_ifs
  · exact h.modify _ fun _ => rfl
  · exact h.insert _

/-- So does merging items, and they are counted alike. -/
theorem mergeItems (h : SameData s t) (clock : Clock) (reading : Nat) (counts : ListingCounts)
    (items : List ListingItem) :
    SameData (s.mergeItems clock reading counts items).1
        (t.mergeItems clock reading counts items).1 ∧
      (s.mergeItems clock reading counts items).2 =
        (t.mergeItems clock reading counts items).2 := by
  induction items generalizing s t reading counts with
  | nil => exact ⟨h, rfl⟩
  | cons item items ih =>
    rw [Store.mergeItems, Store.mergeItems, h.contains]
    exact ih (h.mergeItem _ item) _ _

/-- So does merging contents, and they are counted alike. -/
theorem mergeContents (h : SameData s t) (count : Nat) (contents : List (String × String)) :
    SameData (s.mergeContents count contents).1 (t.mergeContents count contents).1 ∧
      (s.mergeContents count contents).2 = (t.mergeContents count contents).2 := by
  induction contents generalizing s t count with
  | nil => exact ⟨h, rfl⟩
  | cons entry rest ih =>
    obtain ⟨id, content⟩ := entry
    rw [Store.mergeContents, Store.mergeContents, h.contains]
    split_ifs
    · exact ih (h.modify id (Record.Edit.isBlind (.content content))) _
    · exact ih h _

/-- So does searching again. -/
theorem refresh (h : SameData s t) : SameData s.refresh t.refresh :=
  (of_refresh s).trans (h.trans ⟨(of_refresh t).data.symm, rfl⟩)

/-- So does removing records, and the same ones are reported. -/
theorem removeIds (h : SameData s t) (ids : List String) :
    SameData (s.removeIds ids).1 (t.removeIds ids).1 ∧
      (s.removeIds ids).2 = (t.removeIds ids).2 := by
  have hkept : ∀ u : Store, (u.records.filter fun r => !ids.contains r.id).map Record.data =
      u.data.filter fun r => !ids.contains r.id := by
    intro u
    unfold Store.data
    rw [List.filter_map]
    rfl
  have hdata : (s.records.filter fun r => !ids.contains r.id).map Record.data =
      (t.records.filter fun r => !ids.contains r.id).map Record.data := by
    rw [hkept, hkept, h.data]
  constructor
  · refine refresh ⟨hdata, ?_⟩
    rw [← positionsOf_map_data, hdata, positionsOf_map_data]
  · have hlength := congrArg List.length hdata
    rw [List.length_map, List.length_map] at hlength
    unfold Store.removeIds
    dsimp only
    rw [h.length, hlength]

end SameData

/-! ## Changes -/

/-- What an operation gives back. -/
inductive Outcome where
  | nothing
  | listed (counts : ListingCounts)
  | counted (n : Nat)
  | known (is : Bool)
  | turned (selected : Option Bool)
  | found (r : Option Record)

/-- What was given back, but for the note on a record. -/
def Outcome.data : Outcome → Outcome
  | found r => found (r.map Record.data)
  | o => o

namespace Change

/-- What a change gives back.  An edit begins with the record that it found. -/
def outcome (c : Change) (s : Store) : Outcome :=
  match c with
  | mergeListing clock items => .listed (s.mergeListing clock items).2
  | mergeContent contents => .counted (s.mergeContent contents).2
  | removeIds ids => .counted (s.removeIds ids).2
  | setSelected id on => .known (s.setSelected id on).2
  | toggleSelected id => .turned (s.toggleSelected id).2
  | edit id _ => .found (s.get? id)
  | applyFilter _ | clearFilter | setOrder _ | refresh | selectVisible | clearSelection => .nothing

/-- Is the change one of the view alone? -/
def isView : Change → Bool
  | applyFilter _ | clearFilter | setOrder _ | refresh => true
  | mergeListing _ _ | mergeContent _ | removeIds _ | setSelected _ _ | toggleSelected _
  | selectVisible | clearSelection | edit _ _ => false

/-- The store after some changes. -/
def applyAll (cs : List Change) (s : Store) : Store := cs.foldl (fun s c => c.apply s) s

/-- What some changes give back, those of the view left out. -/
def answers : List Change → Store → List Outcome
  | [], _ => []
  | c :: cs, s => if c.isView then answers cs (c.apply s) else c.outcome s :: answers cs (c.apply s)

end Change

namespace SameData

variable {s t : Store}

/-- A change of the view keeps the data. -/
theorem of_view {c : Change} (hc : c.isView = true) (s : Store) : SameData (c.apply s) s := by
  cases c with
  | applyFilter criteria => exact (of_refresh { s with criteria := criteria }).trans ⟨rfl, rfl⟩
  | clearFilter => exact (of_refresh { s with criteria := Criteria.empty }).trans ⟨rfl, rfl⟩
  | refresh => exact of_refresh s
  | setOrder o => exact ⟨rfl, rfl⟩
  | mergeListing _ _ | mergeContent _ | removeIds _ | setSelected _ _ | toggleSelected _
  | selectVisible | clearSelection | edit _ _ => cases hc

/-- Any other change does the same to the same data, and gives back the same, unless it selects what
is visible. -/
theorem step (h : SameData s t) {c : Change} (hc : c.isView = false)
    (hblind : c ≠ .selectVisible) :
    SameData (c.apply s) (c.apply t) ∧ (c.outcome s).data = (c.outcome t).data := by
  cases c with
  | mergeListing clock items =>
    obtain ⟨hmerged, hcounts⟩ := h.mergeItems clock 0 ⟨0, 0⟩ items
    exact ⟨hmerged.refresh, congrArg Outcome.listed hcounts⟩
  | mergeContent contents =>
    obtain ⟨hmerged, hcount⟩ := h.mergeContents 0 contents
    exact ⟨hmerged.refresh, congrArg Outcome.counted hcount⟩
  | removeIds ids =>
    obtain ⟨hkept, hcount⟩ := h.removeIds ids
    exact ⟨hkept, congrArg Outcome.counted hcount⟩
  | setSelected id on =>
    exact ⟨h.modify id (Record.Edit.isBlind (.selected on)), congrArg Outcome.known (h.contains id)⟩
  | toggleSelected id =>
    refine ⟨h.modify id fun _ => rfl, congrArg Outcome.turned ?_⟩
    have hselected := congrArg (Option.map fun r => !r.selected) (h.get? id)
    rw [Option.map_map, Option.map_map] at hselected
    exact hselected
  | clearSelection =>
    refine ⟨⟨?_, h.positions⟩, rfl⟩
    have hcleared := congrArg (List.map (·.setSelected false)) h.data
    unfold Store.data at hcleared ⊢
    rw [List.map_map, List.map_map] at hcleared
    simp only [Change.apply, clearSelection, List.map_map]
    exact hcleared
  | edit id e => exact ⟨h.modify id e.isBlind, congrArg Outcome.found (h.get? id)⟩
  | selectVisible => exact absurd rfl hblind
  | applyFilter _ | clearFilter | setOrder _ | refresh => cases hc

/-- Changes of the view can be left out of some changes. -/
theorem run (h : SameData s t) {cs : List Change} (hblind : ∀ c ∈ cs, c ≠ .selectVisible) :
    SameData (Change.applyAll cs s) (Change.applyAll (cs.filter fun c => !c.isView) t) ∧
      (Change.answers cs s).map Outcome.data =
        (Change.answers (cs.filter fun c => !c.isView) t).map Outcome.data := by
  induction cs generalizing s t with
  | nil => exact ⟨h, rfl⟩
  | cons c cs ih =>
    rw [List.forall_mem_cons] at hblind
    cases hc : c.isView with
    | true =>
      -- only the first store takes this step, and it keeps its data
      rw [List.filter_cons_of_neg (by simp [hc]), Change.answers, if_pos hc]
      exact ih ((of_view hc s).trans h) hblind.2
    | false =>
      obtain ⟨hstep, houtcome⟩ := h.step hc hblind.1
      obtain ⟨hrest, hanswers⟩ := ih hstep hblind.2
      rw [List.filter_cons_of_pos (by simp [hc]), Change.answers, Change.answers, hc]
      simp only [Bool.false_eq_true, if_false, List.map_cons, houtcome, hanswers, and_true]
      exact hrest

end SameData

/-- Changes of the view never touch the data: where they are left out of some changes, the others
give back the same and leave the same records, but for what is noted on these as found. -/
theorem data_without_views (s : Store) {cs : List Change} (hblind : ∀ c ∈ cs, c ≠ .selectVisible) :
    (Change.answers cs s).map Outcome.data =
        (Change.answers (cs.filter fun c => !c.isView) s).map Outcome.data ∧
      (Change.applyAll cs s).records.map Record.data =
        (Change.applyAll (cs.filter fun c => !c.isView) s).records.map Record.data := by
  obtain ⟨hsame, hanswers⟩ := (SameData.refl s).run hblind
  exact ⟨hanswers, hsame.data⟩

/-- A selection, a new title and a filter that hides the one and not the other. -/
theorem data_without_views_of_filter :
    let r (id title : String) : Record := Record.ofListing id title Timestamp.epoch
    let s := ofRecords [r "1" "Alpha", r "2" "Beta"]
    let kept : List Change := [.setSelected "1" true, .edit "2" (.title "Gamma"),
      .toggleSelected "2"]
    let cs : List Change := [.applyFilter (Criteria.ofQuery (Query.ofText "beta")),
      .setSelected "1" true, .setOrder .title, .edit "2" (.title "Gamma"), .clearFilter,
      .toggleSelected "2", .refresh]
    (∀ c ∈ cs, c ≠ .selectVisible) ∧
      (Change.answers cs s).map Outcome.data = (Change.answers kept s).map Outcome.data ∧
      (Change.applyAll cs s).records.map Record.data =
        (Change.applyAll kept s).records.map Record.data := by
  intro r s kept cs
  have hblind : ∀ c ∈ cs, c ≠ .selectVisible := by simp [cs]
  exact ⟨hblind, data_without_views s hblind⟩

end Store

end ChatArchive
