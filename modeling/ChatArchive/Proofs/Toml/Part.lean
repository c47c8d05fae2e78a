import ChatArchive.Proofs.Json.Member
import ChatArchive.Proofs.Toml.Document

/-!
# Parts of documents

A part of a document names some of its keys.  It can be read back as the document can, and what is
read has the values of these keys and no others (`field?_entriesToJson_filter`,
`Document.IsSimple.field?_part_of_entry`, `Document.IsSimple.field?_part_of_table`).
-/

namespace ChatArchive.Toml

/-! ## Tables -/

/-- The members of the node have the keys of the entries. -/
theorem map_fst_toMember (es : List Entry) : (es.map Entry.toMember).map (·.1) = es.map (·.1) := by
  rw [List.map_map]
  rfl

/-- A choice of entries has no key twice if all of them have none. -/
theorem nodup_map_fst_filter {β : Type} {es : List (String × β)} (h : (es.map (·.1)).Nodup)
    (p : String × β → Bool) : ((es.filter p).map (·.1)).Nodup :=
  h.sublist (List.filter_sublist.map _)

/-- In a part of a table the chosen keys are found. -/
theorem field?_entriesToJson_filter {es : List Entry} (hes : (es.map (·.1)).Nodup) {e : Entry}
    (he : e ∈ es) (chosen : String → Bool) :
    (entriesToJson (es.filter fun e => chosen e.1)).field? e.1 =
      if chosen e.1 then some e.2.toJson else none := by
  split_ifs with hchosen
  · refine (Json.field?_ofMembers_eq_some_iff ?_).mpr (List.mem_map.mpr ⟨e, ?_, rfl⟩)
    · rw [map_fst_toMember]
      exact nodup_map_fst_filter hes _
    · exact List.mem_filter.mpr ⟨he, hchosen⟩
  · refine Json.field?_ofMembers_eq_none ?_
    rw [map_fst_toMember]
    rintro hmem
    obtain ⟨e', he', hname⟩ := List.mem_map.mp hmem
    exact hchosen (hname ▸ (List.mem_filter.mp he').2)

/-! ## Documents -/

namespace Document

/-- The entries of a table that have chosen keys. -/
def tablePart (chosen : String → Bool) (t : String × List Entry) : String × List Entry :=
  (t.1, t.2.filter fun e => chosen e.1)

/-- The part of a document that gives the chosen keys.  A table of which no key is chosen may still
have its header. -/
def part (chosen headed : String → Bool) (d : Document) : Document where
  entries := d.entries.filter fun e => chosen e.1
  tables := (d.tables.map (tablePart chosen)).filter fun t => headed t.1 || !t.2.isEmpty

/-- A part of a table keeps its name. -/
theorem map_fst_tablePart (chosen : String → Bool) (ts : List (String × List Entry)) :
    (ts.map (tablePart chosen)).map (·.1) = ts.map (·.1) := by
  rw [List.map_map]
  rfl

/-- The keys of the root are those of its entries and then of its tables. -/
theorem map_fst_toMembers (d : Document) :
    d.toMembers.map (·.1) = d.entries.map (·.1) ++ d.tables.map (·.1) := by
  rw [toMembers, List.map_append, map_fst_toMember, List.map_map]
  rfl

/-- Every key may be chosen. -/
theorem part_all (d : Document) : d.part (fun _ => true) (fun _ => true) = d := by
  have htable : tablePart (fun _ => true) = id := by
    funext t
    rw [tablePart, List.filter_true]
    rfl
  rw [part, htable, List.map_id, List.filter_true]
  simp

/-- Is a table kept in a part? -/
def keepsTable (chosen headed : String → Bool) (t : String × List Entry) : Bool :=
  headed t.1 || !(tablePart chosen t).2.isEmpty

/-- The members of a part come from the document. -/
theorem of_mem_part {chosen headed : String → Bool} {d : Document} {key : String}
    (h : key ∈ (d.part chosen headed).toMembers.map (·.1)) :
    (∃ e ∈ d.entries, e.1 = key ∧ chosen e.1 = true) ∨
      ∃ t ∈ d.tables, t.1 = key ∧ keepsTable chosen headed t = true := by
  rw [map_fst_toMembers, List.mem_append] at h
  rcases h with hmem | hmem
  · obtain ⟨e, he, hkey⟩ := List.mem_map.mp hmem
    exact .inl ⟨e, (List.mem_filter.mp he).1, hkey, (List.mem_filter.mp he).2⟩
  · obtain ⟨_, hmem, hkey⟩ := List.mem_map.mp hmem
    obtain ⟨hmem, hkept⟩ := List.mem_filter.mp hmem
    obtain ⟨t, ht, rfl⟩ := List.mem_map.mp hmem
    exact .inr ⟨t, ht, hkey, hkept⟩

namespace IsSimple

variable {d : Document} (chosen headed : String → Bool)

/-- No table has the name of an entry. -/
theorem entry_ne_table (h : d.IsSimple) {e : Entry} (he : e ∈ d.entries)
    {t : String × List Entry} (ht : t ∈ d.tables) : e.1 ≠ t.1 :=
  (List.nodup_append.mp h.names).2.2 _ (List.mem_map_of_mem he) _ (List.mem_map_of_mem ht)

/-- No two tables have the same name. -/
theorem eq_of_name_eq (h : d.IsSimple) {t t' : String × List Entry} (ht : t ∈ d.tables)
    (ht' : t' ∈ d.tables) (hname : t.1 = t'.1) : t = t' :=
  List.inj_on_of_nodup_map (List.nodup_append.mp h.names).2.1 ht ht' hname

/-- A part of a simple document is simple. -/
theorem part (h : d.IsSimple) : (d.part chosen headed).IsSimple where
  entries e he := h.entries e (List.mem_filter.mp he).1
  tables t ht := by
    obtain ⟨t', ht', rfl⟩ := List.mem_map.mp (List.mem_filter.mp ht).1
    obtain ⟨hkey, hentries, hnames⟩ := h.tables t' ht'
    exact ⟨hkey, fun e he => hentries e (List.mem_filter.mp he).1, nodup_map_fst_filter hnames _⟩
  names := by
    refine h.names.sublist ((List.filter_sublist.map _).append ?_)
    rw [← map_fst_tablePart chosen d.tables]
    exact List.filter_sublist.map _

/-- A key is looked up among the members of the part. -/
theorem field?_part (h : d.IsSimple) {key : String} {j : Json} :
    (d.part chosen headed).toJson.field? key = some j ↔
      (key, j) ∈ (d.part chosen headed).toMembers :=
  Json.field?_ofMembers_eq_some_iff (by
    rw [map_fst_toMembers]
    exact (h.part chosen headed).names)

/-- A part has the entries that are chosen. -/
theorem field?_part_of_entry (h : d.IsSimple) {e : Entry} (he : e ∈ d.entries) :
    (d.part chosen headed).toJson.field? e.1 = if chosen e.1 then some e.2.toJson else none := by
  split_ifs with hchosen
  · rw [h.field?_part, toMembers, List.mem_append]
    exact .inl (List.mem_map.mpr ⟨e, List.mem_filter.mpr ⟨he, hchosen⟩, rfl⟩)
  · refine Json.field?_ofMembers_eq_none fun hmem => ?_
    rcases of_mem_part hmem with ⟨e', -, hkey, hchosen'⟩ | ⟨t, ht, hkey, -⟩
    · exact hchosen (hkey ▸ hchosen')
    · exact h.entry_ne_table he ht hkey.symm

/-- A part has the tables that are kept. -/
theorem field?_part_of_table (h : d.IsSimple) {t : String × List Entry} (ht : t ∈ d.tables) :
    (d.part chosen headed).toJson.field? t.1 =
      if keepsTable chosen headed t then some (entriesToJson (tablePart chosen t).2) else none := by
  split_ifs with hkept
  · rw [h.field?_part, toMembers, List.mem_append]
    refine .inr (List.mem_map.mpr ⟨tablePart chosen t, List.mem_filter.mpr ⟨?_, hkept⟩, rfl⟩)
    exact List.mem_map_of_mem ht
  · refine Json.field?_ofMembers_eq_none fun hmem => ?_
    rcases of_mem_part hmem with ⟨e, he, hkey, -⟩ | ⟨t', ht', hkey, hkept'⟩
    · exact h.entry_ne_table he ht hkey
    · obtain rfl := h.eq_of_name_eq ht' ht hkey
      exact hkept hkept'

/-- A part has no other members. -/
theorem field?_part_of_not_mem {key : String} (hentries : key ∉ d.entries.map (·.1))
    (htables : key ∉ d.tables.map (·.1)) : (d.part chosen headed).toJson.field? key = none := by
  refine Json.field?_ofMembers_eq_none fun hmem => ?_
  rcases of_mem_part hmem with ⟨e, he, rfl, -⟩ | ⟨t, ht, rfl, -⟩
  · exact hentries (List.mem_map_of_mem he)
  · exact htables (List.mem_map_of_mem ht)

end IsSimple

end Document

end ChatArchive.Toml
