import Mathlib.Data.List.Induction
import Mathlib.Data.List.Nodup
import Mathlib.Data.List.Perm.Subperm
import Mathlib.Tactic.SplitIfs

/-!
# Entries by their keys

Of several entries with one key either the last counts (`lastOfEach`) or the first
(`firstOfEach`).  In both cases the keys stay in the order in which they come up.
-/

namespace ChatArchive

variable {α : Type}

/-- A last key is dropped if it came before. -/
theorem eraseDups_concat (ks : List String) (k : String) :
    (ks ++ [k]).eraseDups = if k ∈ ks then ks.eraseDups else ks.eraseDups ++ [k] := by
  rw [List.eraseDups_append]
  split_ifs with hk <;> simp [List.removeAll, hk, List.eraseDups_cons]

/-- Distinct keys are kept. -/
theorem eraseDups_of_nodup {ks : List String} (hks : ks.Nodup) : ks.eraseDups = ks := by
  induction ks using List.reverseRecOn with
  | nil => rfl
  | append_singleton ks k ih =>
    obtain ⟨hfront, -, hdisjoint⟩ := List.nodup_append.mp hks
    have hnew : k ∉ ks := fun hk => hdisjoint k hk k (List.mem_singleton_self k) rfl
    rw [eraseDups_concat, if_neg hnew, ih hfront]

/-- What is kept is distinct. -/
theorem nodup_eraseDups (ks : List String) : ks.eraseDups.Nodup := by
  induction ks using List.reverseRecOn with
  | nil => exact List.nodup_nil
  | append_singleton ks k ih =>
    rw [eraseDups_concat]
    split_ifs with hk
    · exact ih
    · exact List.nodup_append.mpr ⟨ih, List.nodup_singleton k, fun j hj _ hk' heq =>
        hk (List.mem_singleton.mp hk' ▸ heq ▸ List.mem_eraseDups.mp hj)⟩

/-- Repetitions behind the first of each do not count. -/
theorem eraseDups_append_eraseDups (js ks : List String) :
    (js ++ ks.eraseDups).eraseDups = (js ++ ks).eraseDups := by
  induction ks using List.reverseRecOn with
  | nil => rfl
  | append_singleton ks k ih =>
    rw [eraseDups_concat ks, ← List.append_assoc js ks, eraseDups_concat (js ++ ks), ← ih]
    split_ifs with hk hmem hmem
    · rfl
    · exact absurd (List.mem_append_right js hk) hmem
    · rw [← List.append_assoc, eraseDups_concat, if_pos (by simpa using hmem)]
    · rw [← List.append_assoc, eraseDups_concat, if_neg (by simpa using hmem)]

/-- Every key that comes up has a first entry. -/
theorem exists_find? {key : α → String} {xs : List α} {k : String} (hk : k ∈ xs.map key) :
    ∃ x, xs.find? (fun x => key x == k) = some x ∧ key x = k := by
  obtain ⟨y, hy, hyk⟩ := List.mem_map.mp hk
  have hsome : (xs.find? fun x => key x == k).isSome = true := by
    rw [List.find?_isSome]
    exact ⟨y, hy, by simpa using hyk⟩
  obtain ⟨x, hx⟩ := Option.isSome_iff_exists.mp hsome
  exact ⟨x, hx, by simpa using List.find?_some hx⟩

/-- Entries that are chosen by their keys have just these keys. -/
theorem map_key_filterMap {key : α → String} {choose : String → Option α} {ks : List String}
    (hchoose : ∀ k ∈ ks, ∃ x, choose k = some x ∧ key x = k) :
    (ks.filterMap choose).map key = ks := by
  have hkey : ∀ k ∈ ks, (choose k).map key = some k := by
    intro k hk
    obtain ⟨x, hx, hkey⟩ := hchoose k hk
    rw [hx, Option.map_some, hkey]
  rw [List.map_filterMap, List.filterMap_congr hkey, List.filterMap_some]

/-- Those of some distinct keys that are listed are as many as the list is long exactly if it
repeats none and has no other. -/
theorem length_filter_mem {ks listed : List String} (hks : ks.Nodup) :
    (ks.filter (· ∈ listed)).length ≤ listed.length ∧
      ((ks.filter (· ∈ listed)).length = listed.length ↔
        listed.Nodup ∧ ∀ k ∈ listed, k ∈ ks) := by
  have hmem : ∀ k, k ∈ ks.filter (· ∈ listed) ↔ k ∈ ks ∧ k ∈ listed := by simp
  have hnodup : (ks.filter (· ∈ listed)).Nodup := hks.filter _
  have hsub : (ks.filter (· ∈ listed)).Subperm listed :=
    List.subperm_of_subset hnodup fun k hk => ((hmem k).mp hk).2
  refine ⟨hsub.length_le, ?_, ?_⟩
  · intro hlength
    have hperm := hsub.perm_of_length_le (Nat.le_of_eq hlength.symm)
    exact ⟨hperm.nodup_iff.mp hnodup, fun k hk => ((hmem k).mp (hperm.mem_iff.mpr hk)).1⟩
  · rintro ⟨hlisted, hall⟩
    refine ((List.perm_ext_iff_of_nodup hnodup hlisted).mpr fun k => ?_).length_eq
    rw [hmem]
    exact and_iff_right_of_imp (hall k)

/-! ## The last of each -/

/-- The last of the entries with each key, in the order in which the keys come up. -/
def lastOfEach (key : α → String) (xs : List α) : List α :=
  (xs.map key).eraseDups.filterMap fun k => xs.reverse.find? fun x => key x == k

/-- Every key that comes up has a last entry. -/
theorem exists_find?_reverse {key : α → String} {xs : List α} {k : String} (hk : k ∈ xs.map key) :
    ∃ x, xs.reverse.find? (fun x => key x == k) = some x ∧ key x = k :=
  exists_find? (by rwa [List.map_reverse, List.mem_reverse])

/-- The keys are listed where they come up first. -/
theorem map_key_lastOfEach (key : α → String) (xs : List α) :
    (lastOfEach key xs).map key = (xs.map key).eraseDups :=
  map_key_filterMap fun _ hk => exists_find?_reverse (List.mem_eraseDups.mp hk)

/-- One more entry takes the place of the one with its key, or else comes last. -/
theorem lastOfEach_concat (key : α → String) (xs : List α) (x : α) :
    lastOfEach key (xs ++ [x]) =
      if key x ∈ xs.map key then
        (lastOfEach key xs).map fun a => if key a = key x then x else a
      else lastOfEach key xs ++ [x] := by
  have hfind : ∀ k, (xs ++ [x]).reverse.find? (fun y => key y == k) =
      if key x = k then some x else xs.reverse.find? fun y => key y == k := by
    intro k
    rw [List.reverse_append, List.reverse_singleton, List.singleton_append, List.find?_cons]
    split_ifs with hk
    · rw [beq_iff_eq.mpr hk]
    · rw [beq_eq_false_iff_ne.mpr hk]
  unfold lastOfEach
  rw [List.map_append, List.map_singleton, eraseDups_concat]
  split_ifs with hmem
  · rw [List.map_filterMap]
    refine List.filterMap_congr fun k hk => ?_
    obtain ⟨a, ha, hkey⟩ := exists_find?_reverse (List.mem_eraseDups.mp hk)
    rw [hfind, ha, Option.map_some, hkey]
    simp only [eq_comm (a := key x)]
    split_ifs <;> rfl
  · have hsame : ∀ k ∈ (xs.map key).eraseDups,
        (xs ++ [x]).reverse.find? (fun y => key y == k) =
          xs.reverse.find? fun y => key y == k := by
      intro k hk
      rw [hfind, if_neg]
      rintro rfl
      exact hmem (List.mem_eraseDups.mp hk)
    rw [List.filterMap_append, List.filterMap_congr hsame]
    simp

/-- The last of each key can be taken before or after a change that keeps the keys. -/
theorem lastOfEach_map {β : Type} (key : β → String) (f : α → β) (xs : List α) :
    lastOfEach key (xs.map f) = (lastOfEach (fun x => key (f x)) xs).map f := by
  unfold lastOfEach
  rw [List.map_map, List.map_filterMap, ← List.map_reverse]
  simp only [List.find?_map]
  rfl

/-- The last of each key are some of all. -/
theorem mem_of_mem_lastOfEach {key : α → String} {xs : List α} {x : α}
    (hx : x ∈ lastOfEach key xs) : x ∈ xs := by
  obtain ⟨k, -, hlast⟩ := List.mem_filterMap.mp hx
  exact List.mem_reverse.mp (List.mem_of_find?_eq_some hlast)

/-- Where no key is repeated all entries are the last of their key. -/
theorem lastOfEach_of_nodup {key : α → String} {xs : List α} (hxs : (xs.map key).Nodup) :
    lastOfEach key xs = xs := by
  induction xs using List.reverseRecOn with
  | nil => rfl
  | append_singleton xs x ih =>
    rw [List.map_append, List.map_singleton, List.nodup_append] at hxs
    obtain ⟨hfront, -, hnew⟩ := hxs
    have hx : key x ∉ xs.map key := fun hmem => hnew _ hmem _ (List.mem_singleton_self _) rfl
    rw [lastOfEach_concat, if_neg hx, ih hfront]

/-! ## The first of each -/

/-- The first of the entries with each key, in the order in which the keys come up. -/
def firstOfEach (key : α → String) (xs : List α) : List α :=
  (xs.map key).eraseDups.filterMap fun k => xs.find? fun x => key x == k

/-- The keys are listed where they come up first. -/
theorem map_key_firstOfEach (key : α → String) (xs : List α) :
    (firstOfEach key xs).map key = (xs.map key).eraseDups :=
  map_key_filterMap fun _ hk => exists_find? (List.mem_eraseDups.mp hk)

/-- There is one first element for every key. -/
theorem length_firstOfEach (key : α → String) (xs : List α) :
    (firstOfEach key xs).length = (xs.map key).eraseDups.length := by
  rw [← map_key_firstOfEach, List.length_map]

/-- One more entry counts only if its key is new. -/
theorem firstOfEach_concat (key : α → String) (xs : List α) (x : α) :
    firstOfEach key (xs ++ [x]) =
      if key x ∈ xs.map key then firstOfEach key xs else firstOfEach key xs ++ [x] := by
  have hsame : ∀ k ∈ (xs.map key).eraseDups,
      (xs ++ [x]).find? (fun y => key y == k) = xs.find? fun y => key y == k := by
    intro k hk
    obtain ⟨a, ha, -⟩ := exists_find? (List.mem_eraseDups.mp hk)
    rw [List.find?_append, ha, Option.some_or]
  unfold firstOfEach
  rw [List.map_append, List.map_singleton, eraseDups_concat]
  split_ifs with hmem
  · exact List.filterMap_congr hsame
  · have hnew : xs.find? (fun y => key y == key x) = none := by
      rw [List.find?_eq_none]
      intro y hy hkey
      exact hmem (List.mem_map.mpr ⟨y, hy, by simpa using hkey⟩)
    rw [List.filterMap_append, List.filterMap_congr hsame]
    simp [List.find?_append, hnew]

/-- What counts is the first entry with its key. -/
theorem mem_firstOfEach_iff {key : α → String} {xs : List α} {x : α} :
    x ∈ firstOfEach key xs ↔ xs.find? (fun y => key y == key x) = some x := by
  rw [firstOfEach, List.mem_filterMap]
  constructor
  · rintro ⟨k, -, hfirst⟩
    have hkey : key x = k := by simpa using List.find?_some hfirst
    rwa [hkey]
  · intro hfirst
    have hmem : key x ∈ xs.map key := List.mem_map_of_mem (List.mem_of_find?_eq_some hfirst)
    exact ⟨key x, List.mem_eraseDups.mpr hmem, hfirst⟩

/-- A search among the first of each finds the first, from the end as well. -/
theorem find?_reverse_firstOfEach (key : α → String) (xs : List α) (k : String) :
    (firstOfEach key xs).reverse.find? (fun x => key x == k) = xs.find? fun x => key x == k := by
  cases hlast : (firstOfEach key xs).reverse.find? fun x => key x == k with
  | none =>
    have hnew : k ∉ (firstOfEach key xs).map key := by
      intro hk
      obtain ⟨x, hx, -⟩ := exists_find?_reverse hk
      exact absurd (hlast.symm.trans hx) nofun
    rw [map_key_firstOfEach, List.mem_eraseDups] at hnew
    refine (List.find?_eq_none.mpr fun x hx hkey => hnew ?_).symm
    exact List.mem_map.mpr ⟨x, hx, by simpa using hkey⟩
  | some x =>
    have hkey : key x = k := by simpa using List.find?_some hlast
    have hmem := List.mem_reverse.mp (List.mem_of_find?_eq_some hlast)
    rw [← hkey, mem_firstOfEach_iff.mp hmem]

/-- More entries add nothing exactly if their keys are known. -/
theorem length_firstOfEach_append (key : α → String) (xs ys : List α) :
    (firstOfEach key xs).length ≤ (firstOfEach key (xs ++ ys)).length ∧
      ((firstOfEach key (xs ++ ys)).length = (firstOfEach key xs).length ↔
        ∀ y ∈ ys, ∃ x ∈ xs, key x = key y) := by
  rw [length_firstOfEach, length_firstOfEach, List.map_append, List.eraseDups_append,
    List.length_append]
  refine ⟨Nat.le_add_right _ _, ?_⟩
  rw [Nat.add_eq_left, List.length_eq_zero_iff]
  have hnone : ((ys.map key).removeAll (xs.map key)).eraseDups = [] ↔
      ∀ k ∈ ys.map key, k ∈ xs.map key := by
    rw [List.eq_nil_iff_forall_not_mem]
    simp only [List.mem_eraseDups, List.removeAll, List.mem_filter, not_and]
    simp
  rw [hnone]
  simp [List.mem_map]

end ChatArchive
