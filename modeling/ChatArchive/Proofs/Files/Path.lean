import ChatArchive.Files.Path
import ChatArchive.Proofs.Text.Basic
import Mathlib.Data.List.Basic
import Mathlib.Tactic.SplitIfs

/-!
# Paths of files in a folder

The path of a file in a folder has the parts of the folder and the name of the file
(`parts_join`), and starts where the folder starts (`isAbsolute_join`), however the path of the
folder ends.
-/

namespace ChatArchive.Files

/-- The name of a file, which can also be given to its temporary file. -/
structure IsFileName (name : String) : Prop where
  ne_empty : name ≠ ""
  ne_here : name ≠ "."
  ne_up : name ≠ ".."
  noSlash : '/' ∉ name.toList
  legal : Path.isLegalName name = true
  legal_temporary : Path.isLegalName (name ++ ".tmp") = true

namespace Path

variable {name folder : Path}

/-- A text without slashes is one segment. -/
theorem segments_of_noSlash (h : '/' ∉ name.toList) : segments name = [name] := by
  have hone : ∀ c ∈ name.toList, (c == '/') = false := by
    intro c hc
    rw [beq_eq_false_iff_ne]
    rintro rfl
    exact h hc
  rw [segments, Text.splitBy_of_forall hone, List.map_singleton, String.ofList_toList]

/-- A text without slashes does not start at the root. -/
theorem isAbsolute_of_noSlash (h : '/' ∉ name.toList) : isAbsolute name = false := by
  unfold isAbsolute
  cases hname : name.toList with
  | nil => rfl
  | cons c cs =>
    have hc : c ≠ '/' := by
      rintro rfl
      exact h (hname ▸ List.mem_cons_self)
    simp [hc]

/-- The name of a file comes after what stands between the slashes of its folder. -/
theorem segments_join (folder : Path) (h : IsFileName name) : ∃ before : List String,
    segments (join folder name) = before ++ [name] ∧
      (before.filter fun s => s != "" && s != ".") = parts folder := by
  have hname := segments_of_noSlash h.noSlash
  have hcut : ∀ as bs, Text.splitBy (· == '/') (as ++ '/' :: bs) =
      Text.splitBy (· == '/') as ++ Text.splitBy (· == '/') bs :=
    Text.splitBy_append_cons (beq_self_eq_true '/')
  unfold join
  rw [isAbsolute_of_noSlash h.noSlash, Bool.false_or]
  split_ifs with hempty hslash
  · obtain rfl := eq_of_beq hempty
    exact ⟨[], hname, rfl⟩
  · obtain ⟨start, hstart⟩ := List.getLast?_eq_some_iff.mp (eq_of_beq hslash)
    refine ⟨(Text.splitBy (· == '/') start).map String.ofList, ?_, ?_⟩
    · rw [← hname]
      simp only [segments, String.toList_append, hstart, List.append_assoc, List.singleton_append,
        hcut, List.map_append]
    · -- behind the last slash of the folder stands an empty name, which is no part
      simp only [parts, segments, hstart, hcut, List.map_append, List.filter_append]
      exact (List.append_nil _).symm
  · have hslash : "/".toList = ['/'] := rfl
    refine ⟨segments folder, ?_, rfl⟩
    rw [← hname]
    simp only [segments, String.toList_append, hslash, List.append_assoc, List.singleton_append,
      hcut, List.map_append]

/-- The parts of a file are those of its folder and its name. -/
theorem parts_join (folder : Path) (h : IsFileName name) :
    parts (join folder name) = parts folder ++ [name] := by
  obtain ⟨before, hsegments, hparts⟩ := segments_join folder h
  have hname : [name].filter (fun s => s != "" && s != ".") = [name] := by
    simp [h.ne_empty, h.ne_here]
  rw [parts, hsegments, List.filter_append, hparts, hname]

/-- The path of a file does not end like that of a folder. -/
theorem namesFolder_join (folder : Path) (h : IsFileName name) :
    namesFolder (join folder name) = false := by
  obtain ⟨before, hsegments, -⟩ := segments_join folder h
  simp [namesFolder, hsegments, h.ne_empty, h.ne_here, h.ne_up]

/-- A file starts where its folder starts. -/
theorem isAbsolute_join (folder : Path) (h : IsFileName name) :
    isAbsolute (join folder name) = isAbsolute folder := by
  have hname := isAbsolute_of_noSlash h.noSlash
  unfold join
  rw [hname, Bool.false_or]
  by_cases hempty : (folder == "") = true
  · rw [if_pos hempty, eq_of_beq hempty, hname]
    rfl
  · have hne : folder.toList ≠ [] := by
      intro hnil
      exact hempty (beq_iff_eq.mpr (String.toList_eq_nil_iff.mp hnil))
    obtain ⟨c, cs, hfolder⟩ := List.exists_cons_of_ne_nil hne
    rw [if_neg hempty]
    split_ifs <;> simp [isAbsolute, hfolder]

/-- The path of a file is not empty. -/
theorem join_ne_empty (folder : Path) (h : IsFileName name) : join folder name ≠ "" := by
  intro hempty
  have hparts := parts_join folder h
  rw [hempty] at hparts
  exact List.append_ne_nil_of_right_ne_nil _ (List.cons_ne_nil name []) hparts.symm

end Path

end ChatArchive.Files
