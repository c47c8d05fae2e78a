import ChatArchive.Proofs.Files.Write

/-!
# Replacing files one after the other

A path names one place whatever files there are (`placeNamed`), if it leads anywhere.  A file that
is replaced leaves its bytes at the place of its path and nothing at that of its temporary file, and
any other file is as it was (`file?_write`).

Of a sequence of replacements the last one that touches a place says what is there afterwards
(`file?_replaceAll`), so that a file survives unless a path names its place, or another path with
the ending of temporary files does (`files_of_replaceAll`).
-/

namespace ChatArchive.Files

/-! ## Places that paths name -/

/-- The place that some parts name.  A step upwards takes the last name away. -/
def placeAlong (start : Place) : List String → Place
  | [] => start
  | part :: rest =>
    placeAlong (if part = ".." then start.dropLast else start ++ [part]) rest

/-- The place that a path names. -/
def placeNamed (fs : Files) (p : Path) : Place := placeAlong (fs.startOf p) (Path.parts p)

/-- The place of the temporary file that belongs to a path. -/
def temporaryNamed (fs : Files) (p : Path) : Place :=
  placeAlong (fs.startOf p) (temporaryParts (Path.parts p))

/-- Parts in a row are followed one after the other. -/
theorem placeAlong_append (start : Place) (parts parts' : List String) :
    placeAlong start (parts ++ parts') = placeAlong (placeAlong start parts) parts' := by
  induction parts generalizing start with
  | nil => rfl
  | cons part rest ih => exact ih _

variable {fs gs : Files}

/-- Where parts lead is the place that they name. -/
theorem eq_placeAlong_of_placeOf? {start p : Place} {parts : List String}
    (h : fs.placeOf? start parts = some p) : p = placeAlong start parts := by
  induction parts generalizing start with
  | nil => exact (Option.some.inj h).symm
  | cons part rest ih =>
    rw [Files.placeOf?] at h
    rw [placeAlong]
    split_ifs at h ⊢ with hfolder hup
    · exact ih h
    · exact ih h

/-- Where a path starts depends on the working folder alone. -/
theorem startOf_congr (hhere : gs.here = fs.here) (p : Path) : gs.startOf p = fs.startOf p := by
  unfold startOf
  rw [hhere]

/-- So does the place that it names. -/
theorem placeNamed_congr (hhere : gs.here = fs.here) (p : Path) :
    gs.placeNamed p = fs.placeNamed p := by
  unfold placeNamed
  rw [startOf_congr hhere]

/-- So does the place of the temporary file. -/
theorem temporaryNamed_congr (hhere : gs.here = fs.here) (p : Path) :
    gs.temporaryNamed p = fs.temporaryNamed p := by
  unfold temporaryNamed
  rw [startOf_congr hhere]

/-! ## Files at places -/

/-- The bytes of the file at a place. -/
def file? (fs : Files) (q : Place) : Option ByteArray :=
  match fs.entry? q with
  | some (.file bytes) => some bytes
  | some .folder | none => none

/-- A place has a file exactly if there is an entry with its bytes. -/
theorem file?_eq_some_iff {q : Place} {bytes : ByteArray} :
    fs.file? q = some bytes ↔ fs.entry? q = some (.file bytes) := by
  unfold file?
  split <;> simp_all

/-- Only the entry of the place matters. -/
theorem file?_congr {q : Place} (h : gs.entry? q = fs.entry? q) : gs.file? q = fs.file? q := by
  unfold file?
  rw [h]

/-- The folders of a tree are still there in another. -/
def KeepsFolders (fs gs : Files) : Prop := ∀ p, fs.isFolder p = true → gs.isFolder p = true

/-- Parts lead where they led while the folders are there. -/
theorem KeepsFolders.placeOf? (h : KeepsFolders fs gs) {start p : Place} {parts : List String}
    (hplace : fs.placeOf? start parts = some p) : gs.placeOf? start parts = some p := by
  induction parts generalizing start with
  | nil => exact hplace
  | cons part rest ih =>
    rw [Files.placeOf?] at hplace ⊢
    cases hstart : fs.isFolder start with
    | false => simp [hstart] at hplace
    | true =>
      rw [hstart] at hplace
      rw [h start hstart]
      split_ifs at hplace ⊢ with hno hup hlegal
      · exact ih hplace
      · exact ih hplace

/-- A path leads to a file if it can, and to the one at the place that it names. -/
theorem find?_eq_file_iff {p : Path} {bytes : ByteArray} :
    fs.find? p = some (.file bytes) ↔ p ≠ "" ∧ Path.namesFolder p = false ∧
      ∃ q, fs.placeOf? (fs.startOf p) (Path.parts p) = some q ∧ fs.file? q = some bytes := by
  unfold find?
  by_cases hempty : p = ""
  · simp [hempty]
  · cases hplace : fs.placeOf? (fs.startOf p) (Path.parts p) with
    | none => simp [hempty]
    | some q =>
      cases hentry : fs.entry? q with
      | none => simp [hempty, file?, hentry]
      | some e =>
        cases e <;> cases hname : Path.namesFolder p <;>
          simp [hempty, file?, hentry, Entry.isFolder]

/-! ## One replacement -/

/-- A new folder takes no folder away. -/
theorem keepsFolders_set_folder {p : Place} (hp : p ≠ []) : KeepsFolders fs (fs.set p .folder) :=
  fun q hq => (isFolder_set_folder hp q).mpr (.inr hq)

/-- A new folder takes no file away. -/
theorem file?_set_folder {p : Place} (hp : p ≠ []) (hfree : fs.entry? p = none) (q : Place) :
    (fs.set p .folder).file? q = fs.file? q := by
  by_cases hq : q = p
  · unfold file?
    rw [hq, entry?_set_self fs hp, hfree]
  · exact file?_congr (entry?_set_of_ne fs hq _)

/-- The folders that are made take nothing away. -/
theorem frame_of_makeFolders {start : Place} {parts : List String} {ready : Files}
    {d : Option Place} (hmake : fs.makeFolders start parts = (ready, d)) :
    KeepsFolders fs ready ∧ ∀ q, ready.file? q = fs.file? q := by
  induction parts generalizing fs start with
  | nil =>
    cases hmake
    exact ⟨fun _ hp => hp, fun _ => rfl⟩
  | cons part rest ih =>
    rw [Files.makeFolders] at hmake
    split_ifs at hmake with hup hlegal
    · exact ih hmake
    · cases hmake
      exact ⟨fun _ hp => hp, fun _ => rfl⟩
    · have hnext : start ++ [part] ≠ [] :=
        List.append_ne_nil_of_right_ne_nil _ (List.cons_ne_nil _ _)
      dsimp only at hmake
      split at hmake
      · exact ih hmake
      · cases hmake
        exact ⟨fun _ hp => hp, fun _ => rfl⟩
      · rename_i hfree
        obtain ⟨hkeeps, hfiles⟩ := ih hmake
        refine ⟨fun q hq => hkeeps q (keepsFolders_set_folder hnext q hq), fun q => ?_⟩
        rw [hfiles, file?_set_folder hnext hfree]

/-- A file that is put somewhere is there, and the others stay. -/
theorem file?_set_file {p : Place} (hp : p ≠ []) (bytes : ByteArray) (q : Place) :
    (fs.set p (.file bytes)).file? q = if q = p then some bytes else fs.file? q := by
  split_ifs with hq
  · rw [hq, file?_eq_some_iff, entry?_set_self fs hp]
  · exact file?_congr (entry?_set_of_ne fs hq _)

/-- Where a place is emptied there is no file, and the others stay. -/
theorem file?_erase {p : Place} (hp : p ≠ []) (q : Place) :
    (fs.erase p).file? q = if q = p then none else fs.file? q := by
  split_ifs with hq
  · unfold file?
    rw [hq, entry?_erase_self fs hp]
  · exact file?_congr (entry?_erase_of_ne fs hq)

/-- A place that can be written is not the root. -/
theorem ne_nil_of_writable? {start p : Place} {parts : List String}
    (h : fs.writable? start parts = some p) : p ≠ [] := by
  rintro rfl
  have hfree := (writable?_eq_some_iff.mp h).2
  rw [isFolder_root] at hfree
  cases hfree

/-- A file that is replaced has its bytes at its place, nothing is left at the place of its
temporary file, and any other file is as it was. -/
theorem file?_write {target : Path} {bytes : ByteArray} {done : Files}
    (h : fs.write target bytes = (done, true)) :
    done.here = fs.here ∧ KeepsFolders fs done ∧ done.find? target = some (.file bytes) ∧
      ∀ q, done.file? q = if q = fs.placeNamed target then some bytes
        else if q = fs.temporaryNamed target then none else fs.file? q := by
  have hwritable := isWritable_of_write h
  obtain ⟨ready, d, place, temporary, hmake, hplace, htemporary⟩ := hwritable.made
  obtain ⟨hwrite, hfolders, hhere⟩ := write_eq hwritable.isFile hmake hplace htemporary bytes
  obtain ⟨hkeeps, hfiles⟩ := frame_of_makeFolders hmake
  obtain ⟨there, hthere, hfound⟩ := hwritable.write bytes
  rw [h] at hwrite hthere
  obtain rfl := (Prod.mk.inj hwrite).1
  obtain rfl := (Prod.mk.inj hthere).1
  have hnamed : fs.placeNamed target = place :=
    (eq_placeAlong_of_placeOf? (writable?_eq_some_iff.mp hplace).1).symm
  have hnamedTemporary : fs.temporaryNamed target = temporary :=
    (eq_placeAlong_of_placeOf? (writable?_eq_some_iff.mp htemporary).1).symm
  refine ⟨hhere, fun p hp => (hfolders p).trans (hkeeps p hp), hfound, fun q => ?_⟩
  rw [hnamed, hnamedTemporary, file?_set_file (ne_nil_of_writable? hplace),
    file?_erase (ne_nil_of_writable? htemporary),
    file?_set_file (ne_nil_of_writable? htemporary), hfiles]
  split_ifs <;> rfl

/-! ## Temporary files -/

/-- A path that does not end like that of a folder ends with a name. -/
theorem exists_name {p : Path} (h : Path.namesFolder p = false) :
    ∃ parts name, Path.parts p = parts ++ [name] ∧ name ≠ ".." := by
  unfold Path.namesFolder at h
  cases hlast : (Path.segments p).getLast? with
  | none => simp [hlast] at h
  | some name =>
    obtain ⟨before, hsegments⟩ := List.getLast?_eq_some_iff.mp hlast
    rw [hlast] at h
    simp only [Bool.or_eq_false_iff, beq_eq_false_iff_ne] at h
    obtain ⟨⟨hempty, hhere⟩, hup⟩ := h
    refine ⟨before.filter fun s => s != "" && s != ".", name, ?_, hup⟩
    unfold Path.parts
    rw [hsegments, List.filter_append]
    simp [hempty, hhere]

/-- A file and its temporary file have different places. -/
theorem placeNamed_ne_temporaryNamed (fs : Files) {p : Path} (h : Path.namesFolder p = false) :
    fs.placeNamed p ≠ fs.temporaryNamed p := by
  obtain ⟨parts, name, hparts, hup⟩ := exists_name h
  unfold placeNamed temporaryNamed
  rw [hparts, temporaryParts_append parts hup, placeAlong_append, placeAlong_append]
  simp only [placeAlong, hup, temporary_ne_up, if_false]
  intro heq
  have hname : name = name ++ ".tmp" := by simpa using heq
  have hlength := congrArg String.length hname
  have htemporary : ".tmp".length = 4 := rfl
  rw [String.length_append] at hlength
  omega

/-! ## Sequences -/

/-- A file that is to be replaced, by some bytes or by the indented text of a node. -/
inductive Replacement where
  | bytes (target : Path) (content : ByteArray)
  | json (target : Path) (n : Json.Node)

namespace Replacement

/-- The path of the file. -/
def target : Replacement → Path
  | bytes target _ | json target _ => target

/-- The bytes that the file will have. -/
def content : Replacement → ByteArray
  | bytes _ content => content
  | json _ n => n.toPrettyText.toUTF8

/-- Replace the file; was it replaced? -/
def apply (r : Replacement) (fs : Files) : Files × Bool :=
  match r with
  | bytes target content => fs.write target content
  | json target n => fs.writeJson target n

/-- A replacement writes its content to its target. -/
theorem apply_eq (r : Replacement) (fs : Files) : r.apply fs = fs.write r.target r.content := by
  cases r <;> rfl

/-- What stands at a place after a replacement that touches it. -/
def leaves? (r : Replacement) (fs : Files) (q : Place) : Option (Option ByteArray) :=
  if q = fs.placeNamed r.target then some (some r.content)
  else if q = fs.temporaryNamed r.target then some none
  else none

/-- What a replacement leaves depends on the working folder alone. -/
theorem leaves?_congr (hhere : gs.here = fs.here) (r : Replacement) (q : Place) :
    r.leaves? gs q = r.leaves? fs q := by
  unfold leaves?
  rw [placeNamed_congr hhere, temporaryNamed_congr hhere]

end Replacement

/-- Replace files one after the other; nothing if one of them cannot be replaced. -/
def replaceAll (fs : Files) : List Replacement → Option Files
  | [] => some fs
  | r :: rs =>
    match r.apply fs with
    | (done, true) => done.replaceAll rs
    | (_, false) => none

variable {done : Files} {rs : List Replacement}

/-- The first of some replacements is made before the others. -/
theorem replaceAll_cons_eq_some {r : Replacement} (h : fs.replaceAll (r :: rs) = some done) :
    ∃ mid : Files, fs.write r.target r.content = (mid, true) ∧ mid.replaceAll rs = some done := by
  rw [replaceAll, r.apply_eq] at h
  split at h
  · rename_i mid hmid
    exact ⟨mid, hmid, h⟩
  · cases h

/-- Replacements in a row are made in a row. -/
theorem replaceAll_append_eq_some {rs' : List Replacement}
    (h : fs.replaceAll (rs ++ rs') = some done) :
    ∃ mid : Files, fs.replaceAll rs = some mid ∧ mid.replaceAll rs' = some done := by
  induction rs generalizing fs with
  | nil => exact ⟨fs, rfl, h⟩
  | cons r rs ih =>
    obtain ⟨next, hnext, hrest⟩ := replaceAll_cons_eq_some h
    obtain ⟨mid, hmid, hdone⟩ := ih hrest
    refine ⟨mid, ?_, hdone⟩
    rw [replaceAll, r.apply_eq, hnext]
    exact hmid

/-- The last replacement that touches a place says what is there. -/
theorem file?_replaceAll (h : fs.replaceAll rs = some done) :
    done.here = fs.here ∧ KeepsFolders fs done ∧
      ∀ q, done.file? q = (rs.reverse.findSome? fun r => r.leaves? fs q).getD (fs.file? q) := by
  induction rs generalizing fs with
  | nil =>
    obtain rfl := Option.some.inj h
    exact ⟨rfl, fun _ hp => hp, fun _ => rfl⟩
  | cons r rs ih =>
    obtain ⟨mid, hmid, hrest⟩ := replaceAll_cons_eq_some h
    obtain ⟨hhere, hkeeps, -, hfiles⟩ := file?_write hmid
    obtain ⟨hhere', hkeeps', hfiles'⟩ := ih hrest
    refine ⟨hhere'.trans hhere, fun p hp => hkeeps' p (hkeeps p hp), fun q => ?_⟩
    -- what the first one leaves stands where none of the others leaves anything
    have hfirst : mid.file? q = (r.leaves? fs q).getD (fs.file? q) := by
      rw [hfiles]
      unfold Replacement.leaves?
      split_ifs <;> rfl
    rw [hfiles', hfirst, List.reverse_cons, List.findSome?_append]
    simp only [Replacement.leaves?_congr hhere]
    cases List.findSome? (fun r => r.leaves? fs q) rs.reverse with
    | some left => rfl
    | none => simp

/-- One of the replacements, and the others before it and after it. -/
theorem exists_of_replaceAll {before after : List Replacement} {r : Replacement}
    (h : fs.replaceAll (before ++ r :: after) = some done) :
    ∃ mid next : Files, mid.here = fs.here ∧ next.here = fs.here ∧
      mid.write r.target r.content = (next, true) ∧ next.replaceAll after = some done := by
  obtain ⟨mid, hmid, hrest⟩ := replaceAll_append_eq_some h
  obtain ⟨next, hnext, hafter⟩ := replaceAll_cons_eq_some hrest
  have hhere := (file?_replaceAll hmid).1
  exact ⟨mid, next, hhere, (file?_write hnext).1.trans hhere, hnext, hafter⟩

/-- A place that no replacement touches has the file that it had. -/
theorem file?_of_untouched (h : fs.replaceAll rs = some done) {q : Place}
    (hq : ∀ r ∈ rs, fs.placeNamed r.target ≠ q ∧ fs.temporaryNamed r.target ≠ q) :
    done.file? q = fs.file? q := by
  obtain ⟨-, -, hfiles⟩ := file?_replaceAll h
  have hnone : rs.reverse.findSome? (fun r => r.leaves? fs q) = none := by
    rw [List.findSome?_eq_none_iff]
    intro r hr
    obtain ⟨hplace, htemporary⟩ := hq r (List.mem_reverse.mp hr)
    unfold Replacement.leaves?
    rw [if_neg hplace.symm, if_neg htemporary.symm]
  rw [hfiles, hnone, Option.getD_none]

/-- A place without a file has none while no path names it. -/
theorem file?_of_unnamed (h : fs.replaceAll rs = some done) {q : Place} (hempty : fs.file? q = none)
    (hq : ∀ r ∈ rs, fs.placeNamed r.target ≠ q) : done.file? q = none := by
  obtain ⟨-, -, hfiles⟩ := file?_replaceAll h
  rw [hfiles, hempty]
  cases hleft : rs.reverse.findSome? fun r => r.leaves? fs q with
  | none => rfl
  | some left =>
    obtain ⟨r, hr, hleaves⟩ := List.exists_of_findSome?_eq_some hleft
    unfold Replacement.leaves? at hleaves
    rw [if_neg (hq r (List.mem_reverse.mp hr)).symm] at hleaves
    split_ifs at hleaves
    exact (Option.some.inj hleaves).symm

/-- Where some files were replaced one after the other, every path leads to the bytes that its file
was replaced by last, unless the place became that of a temporary file later; what stood at the
place of a temporary file is gone, unless it was replaced later; and any other file is there with
its bytes, and there is none besides.  No folder is gone. -/
theorem files_of_replaceAll (h : fs.replaceAll rs = some done) :
    (∀ before r after, rs = before ++ r :: after →
      (∀ later ∈ after, fs.placeNamed later.target ≠ fs.placeNamed r.target ∧
        fs.temporaryNamed later.target ≠ fs.placeNamed r.target) →
      done.find? r.target = some (.file r.content)) ∧
    (∀ before r after, rs = before ++ r :: after →
      (∀ later ∈ after, fs.placeNamed later.target ≠ fs.temporaryNamed r.target) →
      done.file? (fs.temporaryNamed r.target) = none) ∧
    (∀ q, (∀ r ∈ rs, fs.placeNamed r.target ≠ q ∧ fs.temporaryNamed r.target ≠ q) →
      done.file? q = fs.file? q) ∧
    ∀ q, fs.isFolder q = true → done.isFolder q = true := by
  refine ⟨?_, ?_, fun q => file?_of_untouched h, (file?_replaceAll h).2.1⟩
  · rintro before r after rfl hlast
    obtain ⟨mid, next, -, hhere, hnext, hafter⟩ := exists_of_replaceAll h
    obtain ⟨-, -, hfound, -⟩ := file?_write hnext
    obtain ⟨hne, hfile, q, hplace, hq⟩ := find?_eq_file_iff.mp hfound
    obtain ⟨hhere', hkeeps, -⟩ := file?_replaceAll hafter
    have hnamed : q = fs.placeNamed r.target :=
      (eq_placeAlong_of_placeOf? hplace).trans (placeNamed_congr hhere _)
    -- the later ones leave the file alone, and the path still leads to it as no folder is gone
    have hkept : done.file? q = next.file? q := by
      refine file?_of_untouched hafter fun later hlater => ?_
      rw [placeNamed_congr hhere, temporaryNamed_congr hhere, hnamed]
      exact hlast later hlater
    refine find?_eq_file_iff.mpr ⟨hne, hfile, q, ?_, hkept.trans hq⟩
    rw [startOf_congr hhere']
    exact hkeeps.placeOf? hplace
  · rintro before r after rfl hlast
    obtain ⟨mid, next, hhere, hhere', hnext, hafter⟩ := exists_of_replaceAll h
    obtain ⟨-, -, -, hfiles⟩ := file?_write hnext
    have hapart := placeNamed_ne_temporaryNamed fs (isWritable_of_write hnext).isFile
    refine file?_of_unnamed hafter ?_ fun later hlater => ?_
    · rw [hfiles, placeNamed_congr hhere, temporaryNamed_congr hhere, if_neg hapart.symm,
        if_pos rfl]
    · rw [placeNamed_congr hhere']
      exact hlast later hlater

/-- A file whose name is that of a temporary file, and another one. -/
def neighbours : Files :=
  ⟨[(["a.tmp"], .file "old".toUTF8), (["b"], .file "kept".toUTF8)], []⟩

/-- The other one is kept, the last bytes count, and the first one is gone. -/
theorem files_of_replaceAll_neighbours :
    ∃ done, neighbours.replaceAll
        [.bytes "a" "first".toUTF8, .json "d/c" (.arr []), .bytes "d/../a" "last".toUTF8] =
          some done ∧
      done.find? "d/c" = some (.file "[]".toUTF8) ∧
      done.find? "d/../a" = some (.file "last".toUTF8) ∧
      done.file? ["b"] = some "kept".toUTF8 ∧ done.file? ["a.tmp"] = none := by
  obtain ⟨done, hdone⟩ : ∃ done, neighbours.replaceAll
      [.bytes "a" "first".toUTF8, .json "d/c" (.arr []), .bytes "d/../a" "last".toUTF8] =
        some done := ⟨_, rfl⟩
  obtain ⟨hfound, hgone, hkept, -⟩ := files_of_replaceAll hdone
  refine ⟨done, hdone, ?_, ?_, ?_, ?_⟩
  · exact hfound [_] _ [_] rfl (by decide +kernel)
  · exact hfound [_, _] _ [] rfl (by decide +kernel)
  · exact hkept ["b"] (by decide +kernel)
  · exact hgone [_, _] _ [] rfl (by decide +kernel)

/-- A replacement does not keep every file that no path names. -/
theorem neighbour_is_lost :
    ¬ ∀ (fs done : Files) (rs : List Replacement), fs.replaceAll rs = some done →
      (∀ before r after, rs = before ++ r :: after →
        (∀ later ∈ after, fs.placeNamed later.target ≠ fs.placeNamed r.target) →
        done.find? r.target = some (.file r.content)) ∧
      ∀ q, (∀ r ∈ rs, fs.placeNamed r.target ≠ q) → done.file? q = fs.file? q := by
  intro hkeeps
  obtain ⟨-, hothers⟩ := hkeeps neighbours _ [.bytes "a" "new".toUTF8] rfl
  have hkept := hothers ["a.tmp"] (by decide +kernel)
  revert hkept
  decide +kernel

end ChatArchive.Files
