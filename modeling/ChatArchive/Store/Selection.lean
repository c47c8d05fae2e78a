import ChatArchive.Store.Basic

/-!
# Selection

Records are selected one by one or all that are visible.  Filtering keeps the selection, so that
selected records may be hidden.
-/

namespace ChatArchive.Store

/-- Select the record with an identifier or drop it from the selection; is there one? -/
def setSelected (s : Store) (id : String) (on : Bool) : Store × Bool :=
  (s.modify id (·.setSelected on), s.contains id)

/-- Turn the selection of a record around; gives its new state. -/
def toggleSelected (s : Store) (id : String) : Store × Option Bool :=
  (s.modify id fun r => r.setSelected (!r.selected), (s.get? id).map fun r => !r.selected)

/-- Select the visible records. -/
def selectVisible (s : Store) : Store :=
  { s with records := s.view.foldl (fun rs i => rs.modify i (·.setSelected true)) s.records }

/-- Select nothing. -/
def clearSelection (s : Store) : Store :=
  { s with records := s.records.map (·.setSelected false) }

/-- The identifiers of the selected records that are visible, in the order of the view. -/
def visibleSelectedIds (s : Store) : List String := (s.visible.filter (·.selected)).map Record.id

/-- The identifiers of all selected records: the visible ones first, in the order of the view,
then the hidden ones in the order of the store. -/
def selectedIds (s : Store) : List String :=
  let shown := s.visibleSelectedIds
  shown ++ (s.records.filter fun r => r.selected && !shown.contains r.id).map Record.id

end ChatArchive.Store
