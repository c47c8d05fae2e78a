import ChatArchive.Files.Write
import ChatArchive.Proofs.Files.Path

/-!
# Writing into a folder

Files are seen through `entry?` alone, of which `set` and `erase` change one place.  Where the
folders of a tree have their parents, the folders that are made on the way along a path are where
the path leads then (`IsTree.makeFolders`).

A file is written exactly where its path leads to a place that it can take (`IsWritable`), and then
it is there (`IsWritable.write`, `isWritable_of_write`).  `HasRoom` says that a path leads to a
folder in which files can be put under some names.  When one is written there, nothing else changes
but its temporary file (`HasRoom.write`), and a text comes back when it is read
(`HasRoom.readText`).
-/

namespace ChatArchive.Files

variable {fs : Files}

/-! ## Places -/

/-- The root is a folder. -/
@[simp] theorem entry?_root (fs : Files) : fs.entry? [] = some .folder := rfl

/-- The root is a folder, whatever else there is. -/
theorem isFolder_root (fs : Files) : fs.isFolder [] = true := rfl

/-- What another place holds is in the list of entries. -/
theorem entry?_of_ne_nil (fs : Files) {p : Place} (hp : p ≠ []) :
    fs.entry? p = (fs.entries.find? fun e => e.1 == p).map (·.2) :=
  if_neg (by simpa using hp)

/-- A text that a path leads to is read. -/
theorem readText_of_file {p : Path} {text : String}
    (h : fs.find? p = some (.file text.toUTF8)) : fs.readText p = .text text := by
  have htext : String.fromUTF8? text.toUTF8 = some text := dif_pos text.isValidUTF8
  rw [readText, h]
  simp only [htext]

/-- There is a folder exactly if the entry of the place is one. -/
theorem isFolder_iff {p : Place} : fs.isFolder p = true ↔ fs.entry? p = some .folder := by
  unfold isFolder
  cases fs.entry? p with
  | none => simp
  | some e => cases e <;> simp [Entry.isFolder]

/-- What was put at a place is there. -/
theorem entry?_set_self (fs : Files) {p : Place} (hp : p ≠ []) (e : Entry) :
    entry? (fs.set p e) p = some e := by
  rw [entry?_of_ne_nil _ hp, set]
  split_ifs with htaken
  · have hsame : ((fun x : Place × Entry => x.1 == p) ∘ fun x => if x.1 == p then (p, e) else x) =
        fun x => x.1 == p := by
      funext x
      by_cases hx : x.1 = p <;> simp [hx]
    obtain ⟨x, hx⟩ :=
      Option.isSome_iff_exists.mp (List.find?_isSome.mpr (List.any_eq_true.mp htaken))
    have hxp : x.1 = p := by simpa using List.find?_some hx
    rw [List.find?_map, hsame, hx]
    simp [hxp]
  · have hfree : fs.entries.find? (fun x => x.1 == p) = none := by
      rw [List.find?_eq_none]
      exact fun x hx hxp => htaken (List.any_eq_true.mpr ⟨x, hx, hxp⟩)
    simp [List.find?_append, hfree]

/-- Other places are as they were. -/
theorem entry?_set_of_ne (fs : Files) {p q : Place} (hqp : q ≠ p) (e : Entry) :
    entry? (fs.set p e) q = fs.entry? q := by
  by_cases hq : q = []
  · rw [hq, entry?_root, entry?_root]
  · have hpq : (p == q) = false := beq_eq_false_iff_ne.mpr (Ne.symm hqp)
    rw [entry?_of_ne_nil _ hq, entry?_of_ne_nil _ hq, set]
    split_ifs with htaken
    · have hsame : ((fun x : Place × Entry => x.1 == q) ∘ fun x => if x.1 == p then (p, e) else x) =
          fun x => x.1 == q := by
        funext x
        by_cases hx : x.1 = p <;> simp [hx, hpq]
      rw [List.find?_map, hsame]
      cases hx : fs.entries.find? (fun x => x.1 == q) with
      | none => rfl
      | some x =>
        have hxq : x.1 = q := by simpa using List.find?_some hx
        simp [hxq, hqp]
    · simp [List.find?_append, hpq]

/-- Where one place is emptied, the others are as they were. -/
theorem entry?_erase_of_ne (fs : Files) {p q : Place} (hqp : q ≠ p) :
    entry? (fs.erase p) q = fs.entry? q := by
  by_cases hq : q = []
  · rw [hq, entry?_root, entry?_root]
  · have hsame : (fun x : Place × Entry => decide ((x.1 != p) = true ∧ (x.1 == q) = true)) =
        fun x => x.1 == q := by
      funext x
      by_cases hx : x.1 = q <;> simp [hx, hqp]
    rw [entry?_of_ne_nil _ hq, entry?_of_ne_nil _ hq, erase, List.find?_filter, hsame]

/-- An emptied place holds nothing. -/
theorem entry?_erase_self (fs : Files) {p : Place} (hp : p ≠ []) :
    entry? (fs.erase p) p = none := by
  have hnone : (fun x : Place × Entry => decide ((x.1 != p) = true ∧ (x.1 == p) = true)) =
      fun _ => false := by
    funext x
    by_cases hx : x.1 = p <;> simp [hx]
  rw [entry?_of_ne_nil _ hp, erase, List.find?_filter, hnone]
  simp

/-! ## Folders -/

/-- Two systems of files with the same folders. -/
def SameFolders (fs gs : Files) : Prop := ∀ p, fs.isFolder p = gs.isFolder p

/-- Parts lead to the same place where the folders are the same. -/
theorem SameFolders.placeOf? {gs : Files} (h : SameFolders fs gs) (start : Place)
    (parts : List String) : fs.placeOf? start parts = gs.placeOf? start parts := by
  induction parts generalizing start with
  | nil => rfl
  | cons part rest ih => rw [Files.placeOf?, Files.placeOf?, h start, ih, ih]

/-- A file changes no folders where none was. -/
theorem sameFolders_set {p : Place} (h : fs.isFolder p = false) (bytes : ByteArray) :
    SameFolders (fs.set p (.file bytes)) fs := by
  intro q
  have hp : p ≠ [] := by
    rintro rfl
    exact Bool.false_ne_true h.symm
  by_cases hq : q = p
  · subst hq
    rw [h, isFolder, entry?_set_self fs hp]
    rfl
  · rw [isFolder, isFolder, entry?_set_of_ne fs hq]

/-- Emptying a place changes no folders where none was. -/
theorem sameFolders_erase {p : Place} (h : fs.isFolder p = false) :
    SameFolders (fs.erase p) fs := by
  intro q
  have hp : p ≠ [] := by
    rintro rfl
    exact Bool.false_ne_true h.symm
  by_cases hq : q = p
  · subst hq
    rw [h, isFolder, entry?_erase_self fs hp]
    rfl
  · rw [isFolder, isFolder, entry?_erase_of_ne fs hq]

/-! ## Making folders -/

/-- The working folder is one, and every folder stands in a folder. -/
structure IsTree (fs : Files) : Prop where
  here : fs.isFolder fs.here = true
  parent : ∀ p, fs.isFolder p = true → fs.isFolder p.dropLast = true

/-- The root alone is a tree. -/
theorem isTree_root : IsTree ⟨[], []⟩ where
  here := rfl
  parent p hp := by
    obtain rfl : p = [] := by
      by_contra hne
      rw [isFolder_iff, entry?_of_ne_nil _ hne] at hp
      exact absurd hp (by simp)
    rfl

/-- Every path starts at a folder. -/
theorem IsTree.startOf (h : fs.IsTree) (p : Path) : fs.isFolder (fs.startOf p) = true := by
  unfold Files.startOf
  split
  · exact isFolder_root fs
  · exact h.here

/-- A new folder is one more. -/
theorem isFolder_set_folder {p : Place} (hp : p ≠ []) (q : Place) :
    (fs.set p .folder).isFolder q = true ↔ q = p ∨ fs.isFolder q = true := by
  rw [isFolder_iff, isFolder_iff]
  by_cases hq : q = p
  · subst hq
    simp [entry?_set_self fs hp]
  · simp [entry?_set_of_ne fs hq, hq]

/-- The working folder stays when something is put at a place. -/
theorem here_set (fs : Files) (p : Place) (e : Entry) : (fs.set p e).here = fs.here := by
  unfold set
  split <;> rfl

/-- A folder that is made in a folder keeps a tree one. -/
theorem IsTree.set_folder (h : fs.IsTree) {p : Place} (hp : p ≠ [])
    (hparent : fs.isFolder p.dropLast = true) : (fs.set p .folder).IsTree where
  here := by
    rw [here_set, isFolder_set_folder hp]
    exact .inr h.here
  parent q hq := by
    rw [isFolder_set_folder hp]
    rcases (isFolder_set_folder hp q).mp hq with rfl | hq
    · exact .inr hparent
    · exact .inr (h.parent q hq)

/-- The folders that were made are where the parts lead then, and those that were there still
are. -/
theorem IsTree.makeFolders (h : fs.IsTree) {start : Place} (hstart : fs.isFolder start = true)
    {parts : List String} {ready : Files} {d : Place}
    (hmake : fs.makeFolders start parts = (ready, some d)) :
    (∀ p, fs.isFolder p = true → ready.isFolder p = true) ∧
      ready.placeOf? start parts = some d ∧ ready.isFolder d = true := by
  induction parts generalizing fs start with
  | nil =>
    obtain ⟨rfl, hd⟩ := Prod.mk.inj hmake
    obtain rfl := Option.some.inj hd
    exact ⟨fun _ hp => hp, rfl, hstart⟩
  | cons part rest ih =>
    rw [Files.makeFolders] at hmake
    rw [Files.placeOf?]
    split_ifs at hmake with hup hlegal
    · obtain ⟨hkeeps, hplace, hd⟩ := ih h (h.parent start hstart) hmake
      rw [hkeeps start hstart, if_neg (by simp), if_pos hup]
      exact ⟨hkeeps, hplace, hd⟩
    · exact absurd hmake (by simp)
    · rw [Bool.not_eq_true, Bool.not_eq_false'] at hlegal
      have hnext : start ++ [part] ≠ [] :=
        List.append_ne_nil_of_right_ne_nil _ (List.cons_ne_nil _ _)
      have hparent : fs.isFolder (start ++ [part]).dropLast = true := by
        rw [List.dropLast_concat]
        exact hstart
      dsimp only at hmake
      split at hmake
      · rename_i hentry
        obtain ⟨hkeeps, hplace, hd⟩ := ih h (isFolder_iff.mpr hentry) hmake
        rw [hkeeps start hstart, if_neg (by simp), if_neg hup, if_pos hlegal]
        exact ⟨hkeeps, hplace, hd⟩
      · exact absurd hmake (by simp)
      · obtain ⟨hkeeps, hplace, hd⟩ := ih (h.set_folder hnext hparent)
          ((isFolder_set_folder hnext _).mpr (.inl rfl)) hmake
        have hold : ∀ p, fs.isFolder p = true → ready.isFolder p = true :=
          fun p hp => hkeeps p ((isFolder_set_folder hnext p).mpr (.inr hp))
        rw [hold start hstart, if_neg (by simp), if_neg hup, if_pos hlegal]
        exact ⟨hold, hplace, hd⟩

/-- A way to a folder starts at a folder. -/
theorem isFolder_of_placeOf? {start : Place} {parts : List String} {d : Place}
    (hplace : fs.placeOf? start parts = some d) (hd : fs.isFolder d = true) :
    fs.isFolder start = true := by
  cases parts with
  | nil =>
    obtain rfl := Option.some.inj hplace
    exact hd
  | cons part rest =>
    rw [Files.placeOf?] at hplace
    by_contra hno
    simp [hno] at hplace

/-- Where all folders are there, none is made. -/
theorem makeFolders_of_placeOf? {start : Place} {parts : List String} {d : Place}
    (hplace : fs.placeOf? start parts = some d) (hd : fs.isFolder d = true) :
    fs.makeFolders start parts = (fs, some d) := by
  induction parts generalizing start with
  | nil =>
    obtain rfl := Option.some.inj hplace
    rfl
  | cons part rest ih =>
    have hstart := isFolder_of_placeOf? hplace hd
    rw [Files.placeOf?, hstart, if_neg (by simp)] at hplace
    rw [Files.makeFolders]
    split_ifs at hplace ⊢ with hup hlegal
    · exact ih hplace
    · simp_all
    · have hentry := isFolder_iff.mp (isFolder_of_placeOf? hplace hd)
      simp only [hentry]
      exact ih hplace

/-- Making folders does not change the working folder. -/
theorem here_of_makeFolders {start : Place} {parts : List String} {ready : Files} {d : Option Place}
    (hmake : fs.makeFolders start parts = (ready, d)) : ready.here = fs.here := by
  induction parts generalizing fs start with
  | nil =>
    cases hmake
    rfl
  | cons part rest ih =>
    rw [Files.makeFolders] at hmake
    split_ifs at hmake
    · exact ih hmake
    · cases hmake
      rfl
    · dsimp only at hmake
      split at hmake
      · exact ih hmake
      · cases hmake
        rfl
      · exact (ih hmake).trans (here_set fs _ _)

/-- Folders can be made only under names without the null character. -/
theorem hasNull_of_makeFolders {start : Place} {parts : List String} {ready : Files} {d : Place}
    (hmake : fs.makeFolders start parts = (ready, some d)) : Path.hasNull parts = false := by
  induction parts generalizing fs start with
  | nil => rfl
  | cons part rest ih =>
    rw [Files.makeFolders] at hmake
    rw [Path.hasNull, List.any_cons, Bool.or_eq_false_iff]
    split_ifs at hmake with hup hlegal
    · exact ⟨hup ▸ by decide, ih hmake⟩
    · cases hmake
    · have hpart : part.toList.contains '\x00' = false := by
        simp only [Path.isLegalName] at hlegal
        simp_all
      dsimp only at hmake
      split at hmake
      · exact ⟨hpart, ih hmake⟩
      · cases hmake
      · exact ⟨hpart, ih hmake⟩

/-! ## Replacing a file -/

/-- Where the folders are the same, the same files can be opened. -/
theorem SameFolders.writable? {gs : Files} (h : SameFolders fs gs) (start : Place)
    (parts : List String) : fs.writable? start parts = gs.writable? start parts := by
  simp only [Files.writable?, h.placeOf?, h _]

/-- A file can be opened at the place that the parts lead to, if that is no folder. -/
theorem writable?_eq_some_iff {start : Place} {parts : List String} {p : Place} :
    fs.writable? start parts = some p ↔
      fs.placeOf? start parts = some p ∧ fs.isFolder p = false := by
  cases hplace : fs.placeOf? start parts with
  | none => simp [writable?, hplace]
  | some q =>
    simp only [writable?, hplace, Option.bind_eq_bind, Option.bind_some, Option.some.injEq]
    cases hq : fs.isFolder q <;> simp
    all_goals rintro rfl; simp [hq]

/-- A path leads to where a file can be put: the folders on the way can be made, and then there is a
place for the file and one for its temporary file, and neither is taken by a folder. -/
structure IsWritable (fs : Files) (target : Path) : Prop where
  isFile : Path.namesFolder target = false
  made : ∃ ready d place temporary,
    fs.makeFolders (fs.startOf target) (Path.parts target).dropLast = (ready, some d) ∧
    ready.writable? (fs.startOf target) (Path.parts target) = some place ∧
    ready.writable? (fs.startOf target) (temporaryParts (Path.parts target)) = some temporary

/-- What writing comes to where the folders were made: the temporary file is put beside the file and
then takes its place, and the folders are as they were made. -/
theorem write_eq {target : Path} {ready : Files} {d place temporary : Place}
    (hfile : Path.namesFolder target = false)
    (hmake : fs.makeFolders (fs.startOf target) (Path.parts target).dropLast = (ready, some d))
    (hplace : ready.writable? (fs.startOf target) (Path.parts target) = some place)
    (htemporary : ready.writable? (fs.startOf target) (temporaryParts (Path.parts target)) =
      some temporary)
    (bytes : ByteArray) :
    let done := set (erase (ready.set temporary (.file bytes)) temporary) place (.file bytes)
    fs.write target bytes = (done, true) ∧ SameFolders done ready ∧ done.here = fs.here := by
  intro done
  obtain ⟨-, hfreeTemporary⟩ := writable?_eq_some_iff.mp htemporary
  obtain ⟨-, hfree⟩ := writable?_eq_some_iff.mp hplace
  let written : Files := ready.set temporary (.file bytes)
  -- neither step changes the folders
  have hwritten : SameFolders written ready := sameFolders_set hfreeTemporary bytes
  have herased : SameFolders (written.erase temporary) written :=
    sameFolders_erase ((hwritten temporary).trans hfreeTemporary)
  have hdone : SameFolders done ready := fun p =>
    (sameFolders_set ((herased _).trans ((hwritten _).trans hfree)) bytes p).trans
      ((herased p).trans (hwritten p))
  have hhere : written.here = fs.here := (here_set ready _ _).trans (here_of_makeFolders hmake)
  have hstart : written.startOf target = fs.startOf target := by rw [startOf, startOf, hhere]
  have hrename : written.rename? temporary bytes target = some done := by
    have hopen := (hwritten.writable? (fs.startOf target) (Path.parts target)).trans hplace
    simp only [rename?, hfile, hstart, hopen, Bool.false_eq_true, if_false, Option.bind_eq_bind,
      Option.bind_some]
    rfl
  refine ⟨?_, hdone, (here_set _ _ _).trans hhere⟩
  simp only [Files.write, hasNull_of_makeFolders hmake, hmake, htemporary, Bool.false_eq_true,
    if_false]
  rw [hrename]

/-- A file that can be written is there afterwards. -/
theorem IsWritable.write {target : Path} (h : fs.IsWritable target) (bytes : ByteArray) :
    ∃ done : Files, fs.write target bytes = (done, true) ∧
      done.find? target = some (.file bytes) := by
  obtain ⟨ready, d, place, temporary, hmake, hplace, htemporary⟩ := h.made
  obtain ⟨hwrite, hfolders, hhere⟩ := write_eq h.isFile hmake hplace htemporary bytes
  refine ⟨_, hwrite, ?_⟩
  obtain ⟨hleads, hfree⟩ := writable?_eq_some_iff.mp hplace
  have hne : target ≠ "" := by
    rintro rfl
    exact absurd h.isFile (by decide)
  have hroot : place ≠ [] := by
    rintro rfl
    rw [isFolder_root] at hfree
    cases hfree
  have hstart : ∀ gs : Files, gs.here = fs.here → gs.startOf target = fs.startOf target := by
    intro gs hgs
    rw [startOf, startOf, hgs]
  have hthere := entry?_set_self (erase (ready.set temporary (.file bytes)) temporary) hroot
    (.file bytes)
  simp [find?, hne, hstart _ hhere, (hfolders.placeOf? _ _).trans hleads, hthere, h.isFile]

/-- Nothing else can be written. -/
theorem isWritable_of_write {target : Path} {bytes : ByteArray} {done : Files}
    (h : fs.write target bytes = (done, true)) : fs.IsWritable target := by
  unfold Files.write at h
  dsimp only at h
  split_ifs at h
  · cases h
  rcases hmake : fs.makeFolders (fs.startOf target) (Path.parts target).dropLast with ⟨ready, _ | d⟩
  · simp [hmake] at h
  cases htemporary : ready.writable? (fs.startOf target) (temporaryParts (Path.parts target)) with
  | none => simp [hmake, htemporary] at h
  | some temporary =>
    cases hrename : (ready.set temporary (.file bytes)).rename? temporary bytes target with
    | none => simp [hmake, htemporary, hrename] at h
    | some renamed =>
      have hfolders : SameFolders (ready.set temporary (.file bytes)) ready :=
        sameFolders_set (writable?_eq_some_iff.mp htemporary).2 bytes
      have hstart : startOf (ready.set temporary (.file bytes)) target = fs.startOf target := by
        rw [startOf, startOf, here_set, here_of_makeFolders hmake]
      unfold rename? at hrename
      split_ifs at hrename with hfile
      obtain ⟨place, hplace, -⟩ := Option.bind_eq_some_iff.mp hrename
      rw [hstart, hfolders.writable?] at hplace
      exact ⟨by simpa using hfile, ready, d, place, temporary, hmake, hplace, htemporary⟩

/-! ## Files in a folder -/

/-- A path leads to a folder, and under some names no folder stands there, nor under those of their
temporary files. -/
structure HasRoom (fs : Files) (folder : Path) (d : Place) (names : List String) : Prop where
  place : fs.placeOf? (fs.startOf folder) (Path.parts folder) = some d
  isFolder : fs.isFolder d = true
  free : ∀ name ∈ names,
    fs.isFolder (d ++ [name]) = false ∧ fs.isFolder (d ++ [name ++ ".tmp"]) = false

variable {folder : Path} {d : Place} {names : List String} {name : String}

/-- A file starts where its folder starts. -/
theorem startOf_join (fs : Files) (folder : Path) (hname : IsFileName name) :
    fs.startOf (Path.join folder name) = fs.startOf folder := by
  rw [startOf, startOf, Path.isAbsolute_join folder hname]

/-- The temporary file stands beside the file. -/
theorem temporaryParts_append (parts : List String) (hup : name ≠ "..") :
    temporaryParts (parts ++ [name]) = parts ++ [name ++ ".tmp"] := by
  have hlast : Path.lastName? (parts ++ [name]) = some name := by
    simp [Path.lastName?, Option.filter, hup]
  rw [temporaryParts, hlast, List.dropLast_concat]

/-- The name of a temporary file is no step upwards. -/
theorem temporary_ne_up (name : String) : name ++ ".tmp" ≠ ".." := by
  intro heq
  have hlength := congrArg String.length heq
  have htemporary : ".tmp".length = 4 := rfl
  have hup : "..".length = 2 := rfl
  rw [String.length_append] at hlength
  omega

/-- A name in a folder leads to its place there. -/
theorem placeOf?_append {start : Place} {parts : List String}
    (hplace : fs.placeOf? start parts = some d) (hd : fs.isFolder d = true) (hup : name ≠ "..")
    (hlegal : Path.isLegalName name = true) :
    fs.placeOf? start (parts ++ [name]) = some (d ++ [name]) := by
  induction parts generalizing start with
  | nil =>
    obtain rfl := Option.some.inj hplace
    simp [Files.placeOf?, hd, hup, hlegal]
  | cons part rest ih =>
    rw [List.cons_append]
    rw [Files.placeOf?] at hplace ⊢
    split_ifs at hplace ⊢
    · exact ih hplace
    · exact ih hplace

namespace HasRoom

/-- Only folders and the working folder matter. -/
theorem congr {gs : Files} (h : gs.HasRoom folder d names) (hfolders : SameFolders fs gs)
    (hhere : fs.here = gs.here) : fs.HasRoom folder d names := by
  have hstart : fs.startOf folder = gs.startOf folder := by rw [startOf, startOf, hhere]
  refine ⟨?_, ?_, ?_⟩
  · rw [hstart, hfolders.placeOf?]
    exact h.place
  · rw [hfolders]
    exact h.isFolder
  · intro name hname
    rw [hfolders, hfolders]
    exact h.free name hname

/-- The place of a file in a folder, if no folder stands there. -/
theorem writable?_append (h : fs.HasRoom folder d names) (hup : name ≠ "..")
    (hlegal : Path.isLegalName name = true) (hfree : fs.isFolder (d ++ [name]) = false) :
    fs.writable? (fs.startOf folder) (Path.parts folder ++ [name]) = some (d ++ [name]) := by
  have hplace := placeOf?_append h.place h.isFolder hup hlegal
  simp [writable?, hplace, hfree]

/-- A file that is written is there afterwards, and all else but its temporary file is as it
was. -/
theorem write (h : fs.HasRoom folder d names) (hmem : name ∈ names) (hname : IsFileName name)
    (bytes : ByteArray) :
    ∃ done : Files, fs.write (Path.join folder name) bytes = (done, true) ∧
      done.HasRoom folder d names ∧
      entry? done (d ++ [name]) = some (.file bytes) ∧
      ∀ q, q ≠ d ++ [name] → q ≠ d ++ [name ++ ".tmp"] → entry? done q = fs.entry? q := by
  obtain ⟨hfree, hfreeTemporary⟩ := h.free name hmem
  let target := Path.join folder name
  have hparts : Path.parts target = Path.parts folder ++ [name] := Path.parts_join folder hname
  have hstart : fs.startOf target = fs.startOf folder := startOf_join fs folder hname
  have hmake : fs.makeFolders (fs.startOf target) (Path.parts target).dropLast = (fs, some d) := by
    rw [hparts, List.dropLast_concat, hstart]
    exact makeFolders_of_placeOf? h.place h.isFolder
  have hplace : fs.writable? (fs.startOf target) (Path.parts target) = some (d ++ [name]) := by
    rw [hparts, hstart]
    exact h.writable?_append hname.ne_up hname.legal hfree
  have htemporary : fs.writable? (fs.startOf target) (temporaryParts (Path.parts target)) =
      some (d ++ [name ++ ".tmp"]) := by
    rw [hparts, temporaryParts_append _ hname.ne_up, hstart]
    exact h.writable?_append (temporary_ne_up name) hname.legal_temporary hfreeTemporary
  obtain ⟨hwrite, hfolders, hhere⟩ :=
    write_eq (Path.namesFolder_join folder hname) hmake hplace htemporary bytes
  refine ⟨_, hwrite, h.congr hfolders hhere, entry?_set_self _ (by simp) _, ?_⟩
  intro q hq hqt
  rw [entry?_set_of_ne _ hq, entry?_erase_of_ne _ hqt, entry?_set_of_ne _ hqt]

/-- A text that is there is read. -/
theorem readText (h : fs.HasRoom folder d names) (hname : IsFileName name)
    {text : String} (hentry : fs.entry? (d ++ [name]) = some (.file text.toUTF8)) :
    fs.readText (Path.join folder name) = .text text := by
  have hplace := placeOf?_append h.place h.isFolder hname.ne_up hname.legal
  refine readText_of_file ?_
  simp [find?, Path.join_ne_empty folder hname, startOf_join fs folder hname,
    Path.parts_join folder hname, hplace, hentry, Path.namesFolder_join folder hname]

end HasRoom

/-- The folder can be made, and then has room for some names. -/
structure CanHold (fs : Files) (folder : Path) (names : List String) : Prop where
  made : ∃ ready d, fs.makeFolders (fs.startOf folder) (Path.parts folder) = (ready, some d) ∧
    ∀ name ∈ names,
      ready.isFolder (d ++ [name]) = false ∧ ready.isFolder (d ++ [name ++ ".tmp"]) = false

/-- Writing into a folder that can be made is writing into the folder that was made. -/
theorem CanHold.exists_hasRoom (h : fs.CanHold folder names)
    (hfs : fs.IsTree) : ∃ (ready : Files) (d : Place), ready.HasRoom folder d names ∧
      ∀ name bytes, IsFileName name →
        fs.write (Path.join folder name) bytes = ready.write (Path.join folder name) bytes := by
  obtain ⟨ready, d, hmake, hfree⟩ := h.made
  obtain ⟨hkeeps, hplace, hd⟩ := hfs.makeFolders (hfs.startOf folder) hmake
  have hstart : ∀ p, ready.startOf p = fs.startOf p := by
    intro p
    rw [startOf, startOf, here_of_makeFolders hmake]
  have hagain := makeFolders_of_placeOf? hplace hd
  refine ⟨ready, d, ⟨by rw [hstart]; exact hplace, hd, hfree⟩, ?_⟩
  intro name bytes hname
  simp only [Files.write, Path.parts_join folder hname, List.dropLast_concat,
    startOf_join _ folder hname, hstart, hasNull_of_makeFolders hmake, hmake, hagain,
    Bool.false_eq_true, if_false]

end ChatArchive.Files
