import ChatArchive.Proofs.Json.Value
import Mathlib.Data.List.Induction
import Mathlib.Data.List.Nodup

/-!
# Members of objects

Of the members that make an object the last of each name is found (`field?_ofMembers`), and where no
name is given twice, every member is found (`field?_of_mem`).  An object whose member is changed is
readable if that member still is (`IsReadable.modifyField`).
-/

namespace ChatArchive.Json

/-! ## Finding a member -/

/-- The first member with a name counts. -/
theorem field?_cons (k : String) (v : Json) (ms : List (String × Json)) (name : String) :
    (obj ((k, v) :: ms)).field? name = if k = name then some v else (obj ms).field? name := by
  unfold field?
  by_cases h : k = name <;> simp [h]

/-- A member that was inserted is found, and the others are found as before. -/
theorem field?_insertMember (ms : List (String × Json)) (k : String) (v : Json) (name : String) :
    (obj (insertMember k v ms)).field? name =
      if k = name then some v else (obj ms).field? name := by
  induction ms with
  | nil => exact field?_cons k v [] name
  | cons m ms ih =>
    obtain ⟨k', w⟩ := m
    rw [insertMember]
    by_cases hlt : k < k'
    · rw [if_pos hlt, field?_cons]
    · rw [if_neg hlt]
      by_cases heq : k = k'
      · subst heq
        rw [if_pos rfl, field?_cons, field?_cons]
        split_ifs <;> rfl
      · rw [if_neg heq, field?_cons, ih, field?_cons]
        split_ifs with hold hnew
        · exact absurd (hnew.trans hold.symm) heq
        · rfl
        · rfl
        · rfl

/-- Of the members that make an object the last of each name is found. -/
theorem field?_ofMembers (ms : List (String × Json)) (name : String) :
    (ofMembers ms).field? name = (obj ms.reverse).field? name := by
  rw [ofMembers]
  induction ms using List.reverseRecOn with
  | nil => rfl
  | append_singleton ms m ih =>
    rw [List.foldl_append, List.foldl_cons, List.foldl_nil, List.reverse_concat]
    dsimp only
    rw [field?_insertMember, ih, field?_cons]

/-- Every member is found by its name if no name is given twice. -/
theorem field?_of_mem {ms : List (String × Json)} (hms : (ms.map (·.1)).Nodup)
    {m : String × Json} (hm : m ∈ ms) : (obj ms).field? m.1 = some m.2 := by
  induction ms with
  | nil => exact absurd hm List.not_mem_nil
  | cons m' ms ih =>
    rw [List.map_cons, List.nodup_cons] at hms
    rw [field?_cons]
    rcases List.mem_cons.mp hm with rfl | hm
    · exact if_pos rfl
    · have hne : m'.1 ≠ m.1 := fun h => hms.1 (h ▸ List.mem_map_of_mem hm)
      rw [if_neg hne, ih hms.2 hm]

/-- What is found by a name is a member of this name. -/
theorem mem_of_field? {ms : List (String × Json)} {name : String} {v : Json}
    (h : (obj ms).field? name = some v) : (name, v) ∈ ms := by
  obtain ⟨m, hm, rfl⟩ := Option.map_eq_some_iff.mp h
  obtain rfl : m.1 = name := by simpa using List.find?_some hm
  exact List.mem_of_find?_eq_some hm

/-- Members of distinct names make an object of exactly these. -/
theorem field?_ofMembers_eq_some_iff {ms : List (String × Json)} (hms : (ms.map (·.1)).Nodup)
    {name : String} {v : Json} :
    (ofMembers ms).field? name = some v ↔ (name, v) ∈ ms := by
  rw [field?_ofMembers, ← List.mem_reverse]
  constructor
  · exact mem_of_field?
  · intro hm
    refine field?_of_mem ?_ hm
    rwa [List.map_reverse, List.nodup_reverse]

/-- Only what makes an object is found in it. -/
theorem field?_ofMembers_eq_none {ms : List (String × Json)} {name : String}
    (h : name ∉ ms.map (·.1)) : (ofMembers ms).field? name = none := by
  rw [field?_ofMembers, Option.eq_none_iff_forall_ne_some]
  intro v hv
  exact h (List.mem_map.mpr ⟨_, List.mem_reverse.mp (mem_of_field? hv), rfl⟩)

/-! ## The order of members -/

/-- Inserting a member adds no other one. -/
theorem mem_insertMember {ms : List (String × Json)} {k : String} {v : Json} {m : String × Json}
    (h : m ∈ insertMember k v ms) : m = (k, v) ∨ m ∈ ms := by
  induction ms with
  | nil => exact .inl (List.mem_singleton.mp h)
  | cons m' ms ih =>
    rw [insertMember] at h
    split_ifs at h
    · exact List.mem_cons.mp h
    · exact (List.mem_cons.mp h).imp_right (List.mem_cons_of_mem _)
    · rcases List.mem_cons.mp h with rfl | hm
      · exact .inr List.mem_cons_self
      · exact (ih hm).imp_right (List.mem_cons_of_mem _)

/-- Members stay in order when one is put among them. -/
theorem pairwise_insertMember {ms : List (String × Json)} (h : ms.Pairwise (·.1 < ·.1))
    (k : String) (v : Json) : (insertMember k v ms).Pairwise (·.1 < ·.1) := by
  induction ms with
  | nil => exact List.pairwise_singleton _ _
  | cons m ms ih =>
    obtain ⟨k', w⟩ := m
    obtain ⟨hfirst, hrest⟩ := List.pairwise_cons.mp h
    rw [insertMember]
    by_cases hlt : k < k'
    · rw [if_pos hlt]
      refine List.pairwise_cons.mpr ⟨List.forall_mem_cons.mpr ⟨hlt, fun m hm => ?_⟩, h⟩
      exact String.lt_trans hlt (hfirst m hm)
    · rw [if_neg hlt]
      by_cases heq : k = k'
      · subst heq
        rw [if_pos rfl]
        exact List.pairwise_cons.mpr ⟨hfirst, hrest⟩
      · rw [if_neg heq]
        have hgt : k' < k := Std.lt_of_le_of_ne (String.not_lt.mp hlt) (Ne.symm heq)
        refine List.pairwise_cons.mpr ⟨fun m hm => ?_, ih hrest⟩
        rcases mem_insertMember hm with rfl | hm
        · exact hgt
        · exact hfirst m hm

/-- The last member is inserted last. -/
theorem ofMembers_concat {ms ordered : List (String × Json)} (h : ofMembers ms = obj ordered)
    (m : String × Json) : ofMembers (ms ++ [m]) = obj (insertMember m.1 m.2 ordered) := by
  rw [ofMembers] at h ⊢
  rw [List.foldl_append, obj.inj h]
  rfl

/-- The members of an object that is made of some are in order, and so none is named twice. -/
theorem exists_ofMembers_eq_obj (ms : List (String × Json)) :
    ∃ ordered, ofMembers ms = obj ordered ∧ (ordered.map (·.1)).Nodup := by
  have hordered : ∃ ordered, ofMembers ms = obj ordered ∧ ordered.Pairwise (·.1 < ·.1) := by
    induction ms using List.reverseRecOn with
    | nil => exact ⟨[], rfl, List.Pairwise.nil⟩
    | append_singleton ms m ih =>
      obtain ⟨ordered, hobj, hpairwise⟩ := ih
      exact ⟨_, ofMembers_concat hobj m, pairwise_insertMember hpairwise m.1 m.2⟩
  obtain ⟨ordered, hobj, hpairwise⟩ := hordered
  exact ⟨ordered, hobj, (List.pairwise_map.mpr hpairwise).nodup⟩

/-! ## Changing a member -/

/-- Change the member of a name, if there is one. -/
def modifyField (name : String) (f : Json → Json) : Json → Json
  | obj ms => obj (ms.map fun m => if m.1 = name then (m.1, f m.2) else m)
  | j => j

/-- Changing the values of members keeps their names. -/
theorem map_fst_modify (name : String) (f : Json → Json) (ms : List (String × Json)) :
    (ms.map fun m => if m.1 = name then (m.1, f m.2) else m).map (·.1) = ms.map (·.1) := by
  rw [List.map_map]
  refine List.map_congr_left fun m _ => ?_
  rw [Function.comp_apply]
  split_ifs <;> rfl

/-- Changing one member changes what is found by its name, and nothing else. -/
theorem field?_modifyField (name : String) (f : Json → Json) (ms : List (String × Json))
    (other : String) :
    ((obj ms).modifyField name f).field? other =
      if other = name then ((obj ms).field? name).map f else (obj ms).field? other := by
  rw [modifyField]
  induction ms with
  | nil => simp [field?]
  | cons m ms ih =>
    obtain ⟨k, v⟩ := m
    rw [List.map_cons]
    by_cases hk : k = name
    · subst hk
      rw [if_pos rfl, field?_cons, ih, field?_cons, field?_cons, if_pos rfl]
      by_cases ho : other = k
      · rw [if_pos ho.symm, if_pos ho, Option.map_some]
      · rw [if_neg (Ne.symm ho), if_neg ho, if_neg ho, if_neg (Ne.symm ho)]
    · rw [if_neg hk, field?_cons, ih, field?_cons, field?_cons, if_neg hk]
      by_cases ho : other = name
      · subst ho
        rw [if_neg hk, if_pos rfl, if_pos rfl]
      · rw [if_neg ho, if_neg ho]

/-- An object that can be read has no name twice. -/
theorem IsReadable.nodup {levels : Nat} {ms : List (String × Json)}
    (h : (obj ms).IsReadable levels) : (ms.map (·.1)).Nodup := by
  have hnames : (ms.map (·.1)).Pairwise (· < ·) := h.ordered.1
  exact hnames.nodup

/-- A changed object is readable if what it has now is. -/
theorem IsReadable.modifyField {levels : Nat} {ms : List (String × Json)} {name : String}
    {f : Json → Json} (h : (obj ms).IsReadable (levels + 1))
    (hf : ∀ v, (obj ms).field? name = some v → v.IsReadable levels → (f v).IsReadable levels) :
    ((obj ms).modifyField name f).IsReadable (levels + 1) := by
  obtain ⟨hnames, hms⟩ := isReadable_obj_iff.mp h
  refine isReadable_obj_iff.mpr ⟨by rwa [map_fst_modify], ?_⟩
  intro m hm
  obtain ⟨before, hbefore, rfl⟩ := List.mem_map.mp hm
  split_ifs with hname
  · exact hf _ (hname ▸ field?_of_mem h.nodup hbefore) (hms before hbefore)
  · exact hms before hbefore

end ChatArchive.Json
