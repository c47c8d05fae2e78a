import ChatArchive.Files.Write
import ChatArchive.Settings.Basic
import ChatArchive.Snapshot.Content
import ChatArchive.Store.Merge

/-!
# The cache

A folder with the two snapshots.  A snapshot that is missing, that does not decode, that has
another version or that is too old counts as none; one that cannot be read is a fault.

Restoring puts the records of the metadata into a new store and then the contents into those.  The
store is replaced as soon as there are metadata, even if the contents then turn out to be
unreadable.
-/

namespace ChatArchive

open Json
open Files (Path)

/-- Why the cache cannot be used. -/
inductive CacheFault where
  | unreadable (path : Path)
  | metadataUnwritable
  | contentUnwritable
  /-- The age limit cannot be measured. -/
  | ageOutOfRange
  deriving Repr, DecidableEq

/-- The message of a fault. -/
def CacheFault.message : CacheFault → String
  | unreadable path => "Failed to read snapshot " ++ path
  | metadataUnwritable => "Failed to write metadata snapshot"
  | contentUnwritable => "Failed to write content snapshot"
  | ageOutOfRange => "The age limit of snapshots is out of range"

namespace Cache

/-- The file of the metadata. -/
def metadataPath (folder : Path) : Path := Path.join folder "conversations.json"

/-- The file of the contents. -/
def contentPath (folder : Path) : Path := Path.join folder "content-index.json"

/-! ## Loading -/

/-- Load a snapshot. -/
def load {α : Type} (d : Decoder α) (fs : Files) (path : Path) : Except CacheFault (Option α) :=
  match fs.readText path with
  | .missing => .ok none
  | .unreadable => .error (.unreadable path)
  | .text s => .ok (decodeText d s).toOption

/-- Load the metadata. -/
def loadMetadata (fs : Files) (folder : Path) (maxAgeHours : Int) (now : Timestamp) :
    Except CacheFault (Option MetadataSnapshot) := do
  match ← load MetadataSnapshot.decoder fs (metadataPath folder) with
  | none => .ok none
  | some s =>
    if s.version ≠ Snapshot.version then .ok none
    else match s.isExpired? maxAgeHours now with
      | none => .error .ageOutOfRange
      | some expired => .ok (if expired then none else some s)

/-- Load the contents. -/
def loadContent (fs : Files) (folder : Path) : Except CacheFault (Option ContentSnapshot) := do
  let loaded ← load ContentSnapshot.decoder fs (contentPath folder)
  .ok (loaded.filter fun s => s.version == Snapshot.version)

/-! ## Restoring -/

/-- What was put back. -/
structure Restored where
  records : Nat
  indexed : Nat
  deriving Repr, DecidableEq

/-- The identifiers and contents of a snapshot. -/
def contentsOf (s : ContentSnapshot) : List (String × String) :=
  s.entries.map fun e => (e.id, e.content)

/-- Put the snapshots into a store. -/
def restore (fs : Files) (folder : Path) (settings : CacheSettings) (now : Timestamp)
    (store : Store) : Store × Except CacheFault Restored :=
  match loadMetadata fs folder settings.maxAgeHours now with
  | .error f => (store, .error f)
  | .ok none => (store, .ok ⟨0, 0⟩)
  | .ok (some metadata) =>
    let fresh := Store.ofRecords metadata.toRecords
    match loadContent fs folder with
    | .error f => (fresh, .error f)
    | .ok none => (fresh, .ok ⟨fresh.size, 0⟩)
    | .ok (some content) =>
      let (filled, indexed) := fresh.mergeContent (contentsOf content)
      (filled, .ok ⟨filled.size, indexed⟩)

/-! ## Saving -/

/-- The snapshots of a store. -/
def snapshots (settings : CacheSettings) (now : Timestamp) (store : Store) :
    MetadataSnapshot × ContentSnapshot :=
  (MetadataSnapshot.ofRecords now store.records,
    ContentSnapshot.ofRecords settings.contentCap store.records)

/-- Write the snapshots of a store, the metadata first. -/
def save (fs : Files) (folder : Path) (settings : CacheSettings) (now : Timestamp)
    (store : Store) : Files × Except CacheFault Unit :=
  let (metadata, content) := snapshots settings now store
  match fs.writeJson (metadataPath folder) metadata.toNode with
  | (fs, false) => (fs, .error .metadataUnwritable)
  | (fs, true) =>
    match fs.writeJson (contentPath folder) content.toNode with
    | (fs, false) => (fs, .error .contentUnwritable)
    | (fs, true) => (fs, .ok ())

end Cache

end ChatArchive
