import ChatArchive.Proofs.Toml.Scalar
import ChatArchive.Toml.Table
import Mathlib.Data.List.Forall2

/-!
# Reading documents

A document of scalars is read back from its text (`read?_toText`): line by line as statements
(`statementsOf_toText`), which are then put together to its tables (`membersOf_statements`).

What a text is read as is said by `IsReadAs`, so that whatever may follow the text is left to be
read; it is kept when texts are put one after the other or on a new line.
-/

namespace ChatArchive.Toml

/-! ## Documents that can be read back -/

/-- A key that needs no quotes. -/
structure IsBareKey (key : String) : Prop where
  ne_nil : key.toList ≠ []
  bare : ∀ c ∈ key.toList, isBareKeyChar c = true

/-- It can be decided, character by character. -/
instance (key : String) : Decidable (IsBareKey key) :=
  decidable_of_iff ((!key.toList.isEmpty && key.toList.all isBareKeyChar) = true) <| by
    rw [Bool.and_eq_true, Bool.not_eq_true', List.isEmpty_eq_false_iff, List.all_eq_true]
    exact ⟨fun h => ⟨h.1, h.2⟩, fun h => ⟨h.ne_nil, h.bare⟩⟩

/-- An entry that can be read back. -/
structure Entry.IsSimple (e : Entry) : Prop where
  key : IsBareKey e.1
  value : e.2.IsSimple

/-- A document that can be read back: its keys need no quotes and none is given twice. -/
structure Document.IsSimple (d : Document) : Prop where
  entries : ∀ e ∈ d.entries, Entry.IsSimple e
  tables : ∀ t ∈ d.tables, IsBareKey t.1 ∧ (∀ e ∈ t.2, Entry.IsSimple e) ∧ (t.2.map (·.1)).Nodup
  names : (d.entries.map (·.1) ++ d.tables.map (·.1)).Nodup

/-! ## Statements -/

/-- The statement of an entry. -/
def Entry.statement (e : Entry) : Statement Written := .assign [e.1] (.scalar e.2)

namespace Document

/-- The statements of a table: its header, and its entries. -/
def tableStatements (t : String × List Entry) : List (Statement Written) :=
  .table [t.1] :: t.2.map Entry.statement

/-- The statements of the document: those of the root first, then the tables with theirs. -/
def statements (d : Document) : List (Statement Written) :=
  d.entries.map Entry.statement ++ d.tables.flatMap tableStatements

end Document

/-- A text is read as some statements, whatever follows it. -/
structure IsReadAs (text : List Char) (statements : List (Statement Written)) : Prop where
  length_le : statements.length ≤ text.length
  unmarked : ∀ c ∈ text.head?, c ≠ '\uFEFF'
  read : ∀ {bound : Nat} {rest : List Char} {others : List (Statement Written)},
    readStatements bound rest = some others →
      readStatements (bound + statements.length) (text ++ rest) = some (statements ++ others)

/-! ### Keys -/

/-- A statement begins with a key or with a bracket. -/
def startsStatement (c : Char) : Bool := isBareKeyChar c || c == '['

/-- What starts a statement is no space, remark, break or byte order mark. -/
theorem ne_of_startsStatement {c : Char} (h : startsStatement c = true) :
    c ≠ ' ' ∧ c ≠ '\t' ∧ c ≠ '#' ∧ c ≠ '\n' ∧ c ≠ '\r' ∧ c ≠ '\uFEFF' := by
  refine ⟨?_, ?_, ?_, ?_, ?_, ?_⟩ <;> (rintro rfl; revert h; decide)

/-- A key, a bracket and what is no blank end a gap. -/
theorem skipGap_of_ne {c : Char} (hblank : c ≠ ' ') (htab : c ≠ '\t') (cs : List Char) :
    skipGap (c :: cs) = c :: cs := by
  rw [skipGap, List.dropWhile_cons, isGap, beq_false_of_ne hblank, beq_false_of_ne htab]
  rfl

/-- Nothing is skipped in front of a statement. -/
theorem skipAll_of_starts {c : Char} (h : startsStatement c = true) (cs : List Char) :
    skipAll (c :: cs) = some (c :: cs) := by
  obtain ⟨hblank, htab, hcomment, hn, hr, -⟩ := ne_of_startsStatement h
  have hskip : skipComment (c :: cs) = some (c :: cs) := by
    unfold skipComment
    split
    · rename_i heq
      exact absurd (List.cons.inj heq).1 hcomment
    · rfl
  rw [skipAll, skipGaps, skipGap_of_ne hblank htab, hskip]
  simp only [lineBreak?_of_ne hn hr, bind, Option.bind_some]

/-- A line break is skipped. -/
theorem skipAll_line (cs : List Char) : skipAll ('\n' :: cs) = skipAll cs := rfl

/-- It ends a statement. -/
theorem endLine_line (cs : List Char) : endLine ('\n' :: cs) = some cs := rfl

namespace IsBareKey

variable {key : String}

/-- A bare key has a first character. -/
theorem exists_eq_cons (h : IsBareKey key) :
    ∃ c cs, key.toList = c :: cs ∧ isBareKeyChar c = true := by
  cases hcs : key.toList with
  | nil => exact absurd hcs h.ne_nil
  | cons c cs => exact ⟨c, cs, rfl, h.bare c (hcs ▸ List.mem_cons_self)⟩

/-- A key is read up to what is no part of it. -/
theorem readKeyPart_append (h : IsBareKey key) {rest : List Char}
    (hrest : ∀ c ∈ rest.head?, isBareKeyChar c = false) :
    readKeyPart (key.toList ++ rest) = some (key, rest) := by
  have htake : rest.takeWhile isBareKeyChar = [] ∧ rest.dropWhile isBareKeyChar = rest := by
    cases rest with
    | nil => exact ⟨rfl, rfl⟩
    | cons c rest => simp [hrest c rfl]
  have hspan : (key.toList ++ rest).span isBareKeyChar = (key.toList, rest) := by
    rw [List.span_eq_takeWhile_dropWhile, List.takeWhile_append_of_pos h.bare,
      List.dropWhile_append_of_pos h.bare, htake.1, htake.2, List.append_nil]
  unfold readKeyPart
  rw [hspan]
  split
  · rename_i heq
    exact absurd (congrArg Prod.fst heq) h.ne_nil
  · rename_i heq
    obtain ⟨rfl, rfl⟩ := Prod.mk.inj heq
    rw [String.ofList_toList]

/-- A key of one part. -/
theorem readPath_append (h : IsBareKey key) {rest after : List Char}
    (hrest : ∀ c ∈ rest.head?, isBareKeyChar c = false) (hgap : skipGap rest = after)
    (hdot : ∀ c ∈ after.head?, c ≠ '.') :
    readPath (key.toList ++ rest) = some ([key], after) := by
  obtain ⟨c, cs, hcs, hc⟩ := h.exists_eq_cons
  have hstart : skipGap (key.toList ++ rest) = key.toList ++ rest := by
    obtain ⟨hblank, htab, -⟩ := ne_of_startsStatement (c := c) (by rw [startsStatement, hc]; rfl)
    rw [hcs, List.cons_append, skipGap_of_ne hblank htab]
  rw [readPath, readKey, hstart, h.readKeyPart_append hrest]
  simp only [bind, Option.bind_some, hgap]
  split
  · exact absurd rfl (hdot _ rfl)
  · rfl

end IsBareKey

/-! ### Lines -/

/-- An entry is its key, the equals sign with a space on either side, the value and a line break. -/
theorem entryText_append (e : Entry) (rest : List Char) : entryText e ++ rest =
    e.1.toList ++ (' ' :: '=' :: ' ' :: (e.2.toText ++ '\n' :: rest)) := by
  have hmark : " = ".toList = [' ', '=', ' '] := rfl
  simp only [entryText, hmark, List.append_assoc, List.cons_append, List.nil_append]

/-- It is read back as the assignment of its value to its key, up to the line break. -/
theorem readAssignment_entry {e : Entry} (h : e.IsSimple) (depth : Nat) (rest : List Char) :
    readAssignment (readValue depth) (entryText e ++ rest) =
      some (([e.1], .scalar e.2), '\n' :: rest) := by
  have hkey : readPath (e.1.toList ++ ' ' :: '=' :: ' ' :: (e.2.toText ++ '\n' :: rest)) =
      some ([e.1], '=' :: ' ' :: (e.2.toText ++ '\n' :: rest)) :=
    h.key.readPath_append (by rintro c ⟨⟩; decide) rfl (by rintro c ⟨⟩; decide)
  have hgap : skipGap (' ' :: (e.2.toText ++ '\n' :: rest)) = e.2.toText ++ '\n' :: rest := by
    obtain ⟨c, cs, hcs, hc⟩ := h.value.exists_toText_eq_cons
    have hne : c ≠ ' ' ∧ c ≠ '\t' := by
      refine ⟨?_, ?_⟩ <;> (rintro rfl; revert hc; decide)
    rw [hcs]
    exact skipGap_of_ne hne.1 hne.2 _
  rw [entryText_append, readAssignment, hkey]
  simp only [bind, Option.bind_some, expect, if_true, hgap, readValue_toText h.value]

/-- An entry is read up to the end of its line. -/
theorem readStatement_entry {e : Entry} (h : e.IsSimple) (rest : List Char) :
    readStatement (entryText e ++ rest) = some (e.statement, rest) := by
  have hread := readAssignment_entry h maxDepth rest
  obtain ⟨c, cs, hcs, hc⟩ := h.key.exists_eq_cons
  have hne : c ≠ '[' := by
    rintro rfl
    cases hc
  rw [entryText_append, hcs, List.cons_append] at hread ⊢
  unfold readStatement
  split
  · rename_i heq
    exact absurd (List.cons.inj heq).1 hne
  · simp only [hread, bind, Option.bind_some, endLine_line]
    rfl

/-- A header is read up to the end of its line. -/
theorem readStatement_header {key : String} (h : IsBareKey key) (rest : List Char) :
    readStatement ('[' :: (key.toList ++ ']' :: '\n' :: rest)) = some (.table [key], rest) := by
  have hread : readPath (key.toList ++ ']' :: '\n' :: rest) = some ([key], ']' :: '\n' :: rest) :=
    h.readPath_append (by rintro c ⟨⟩; decide) rfl (by rintro c ⟨⟩; decide)
  obtain ⟨c, cs, hcs, hc⟩ := h.exists_eq_cons
  have hne : c ≠ '[' := by
    rintro rfl
    cases hc
  rw [readStatement]
  rw [hcs, List.cons_append] at hread ⊢
  unfold readHeader
  split
  · rename_i heq
    exact absurd (List.cons.inj heq).1 hne
  · simp only [hread, bind, Option.bind_some, expect, if_true, endLine_line]

/-! ### Texts -/

namespace IsReadAs

variable {text others : List Char} {ss ts : List (Statement Written)}

/-- The empty text has no statements. -/
theorem nil : IsReadAs [] [] where
  length_le := Nat.le_refl 0
  unmarked := by rintro c ⟨⟩
  read h := h

/-- A line that is read as a statement. -/
theorem line {c : Char} {cs : List Char} {s : Statement Written} (hc : startsStatement c = true)
    (h : ∀ rest, readStatement (c :: (cs ++ rest)) = some (s, rest)) : IsReadAs (c :: cs) [s] where
  length_le := Nat.succ_le_succ (Nat.zero_le _)
  unmarked := by
    rintro d ⟨⟩
    exact (ne_of_startsStatement hc).2.2.2.2.2
  read {bound rest _} hrest := by
    have hfull : (c :: (cs ++ rest)).isEmpty = false := rfl
    rw [List.length_singleton, readStatements, List.cons_append, skipAll_of_starts hc]
    simp only [bind, Option.bind_some, hfull, if_neg Bool.false_ne_true, h, hrest,
      Option.map_some, List.singleton_append]

/-- Two such texts in a row are read as the statements of the one and then of the other. -/
theorem append (h : IsReadAs text ss) (h' : IsReadAs others ts) :
    IsReadAs (text ++ others) (ss ++ ts) where
  length_le := by
    rw [List.length_append, List.length_append]
    exact Nat.add_le_add h.length_le h'.length_le
  unmarked c hc := by
    rw [List.head?_append] at hc
    cases htext : text.head? with
    | none =>
      rw [htext] at hc
      exact h'.unmarked c hc
    | some d =>
      rw [htext] at hc
      exact h.unmarked c (htext ▸ hc)
  read {bound rest others} hrest := by
    rw [List.length_append, List.append_assoc, List.append_assoc, Nat.add_comm ss.length,
      ← Nat.add_assoc]
    exact h.read (h'.read hrest)

/-- An empty line in front of a text makes no difference. -/
theorem newLine (h : IsReadAs text ss) : IsReadAs ('\n' :: text) ss where
  length_le := Nat.le_succ_of_le h.length_le
  unmarked := by
    rintro c ⟨⟩
    decide
  read {bound rest others} hrest := by
    have hsame : ∀ bound cs, readStatements bound ('\n' :: cs) = readStatements bound cs := by
      intro bound cs
      cases bound with
      | zero => rfl
      | succ bound => rw [readStatements, readStatements, skipAll_line]
    rw [List.cons_append, hsame]
    exact h.read hrest

/-- So are many. -/
theorem flatMap {β : Type} {write : β → List Char} {statements : β → List (Statement Written)}
    {as : List β} (h : ∀ a ∈ as, IsReadAs (write a) (statements a)) :
    IsReadAs (as.flatMap write) (as.flatMap statements) := by
  induction as with
  | nil => exact .nil
  | cons a as ih =>
    obtain ⟨ha, has⟩ := List.forall_mem_cons.mp h
    exact ha.append (ih has)

/-- Texts with an empty line between them. -/
theorem intercalate {texts : List (List Char)} {groups : List (List (Statement Written))}
    (h : List.Forall₂ IsReadAs texts groups) :
    IsReadAs (List.intercalate ['\n'] texts) groups.flatten := by
  induction h with
  | nil => exact .nil
  | @cons text ss texts groups hfirst hrest ih =>
    cases hrest with
    | nil =>
      rw [List.flatten_singleton, List.intercalate_singleton]
      exact hfirst
    | cons _ _ =>
      rw [List.intercalate_cons_cons, List.append_assoc, List.flatten_cons]
      exact hfirst.append ih.newLine

end IsReadAs

/-- An entry is read as its statement. -/
theorem isReadAs_entry {e : Entry} (h : e.IsSimple) : IsReadAs (entryText e) [e.statement] := by
  obtain ⟨c, cs, hcs, hc⟩ := h.key.exists_eq_cons
  have hread := readStatement_entry h
  have htext : entryText e = c :: (cs ++ " = ".toList ++ e.2.toText ++ ['\n']) := by
    rw [entryText, hcs]
    rfl
  rw [htext] at hread ⊢
  exact .line (by rw [startsStatement, hc]; rfl) hread

/-- So are all entries of a table. -/
theorem isReadAs_entries {es : List Entry} (h : ∀ e ∈ es, Entry.IsSimple e) :
    IsReadAs (Document.entriesText es) (es.map Entry.statement) := by
  rw [List.map_eq_flatMap]
  exact .flatMap fun e he => isReadAs_entry (h e he)

/-- So is a table, with its header first. -/
theorem isReadAs_table {t : String × List Entry} (hkey : IsBareKey t.1)
    (hentries : ∀ e ∈ t.2, Entry.IsSimple e) :
    IsReadAs (Document.tableText t) (Document.tableStatements t) := by
  have hheader : IsReadAs ('[' :: (t.1.toList ++ [']', '\n'])) [.table [t.1]] := by
    refine .line rfl fun rest => ?_
    rw [List.append_assoc]
    exact readStatement_header hkey rest
  have htext : Document.tableText t =
      ('[' :: (t.1.toList ++ [']', '\n'])) ++ Document.entriesText t.2 := by
    simp only [Document.tableText, List.append_assoc, List.cons_append, List.nil_append]
  rw [htext]
  exact hheader.append (isReadAs_entries hentries)

/-- A whole text that is read as its statements has them. -/
theorem IsReadAs.statementsOf {text : List Char} {ss : List (Statement Written)}
    (h : IsReadAs text ss) : statementsOf text = some ss := by
  unfold Toml.statementsOf
  split
  · exact absurd rfl (h.unmarked _ rfl)
  · have hnil : readStatements (text.length - ss.length + 1) [] = some [] := rfl
    have hread := h.read hnil
    have hbound : text.length - ss.length + 1 + ss.length = text.length + 1 := by
      have := h.length_le
      omega
    rwa [hbound, List.append_nil, List.append_nil] at hread

/-- A document is read as its statements. -/
theorem statementsOf_toText {d : Document} (h : d.IsSimple) :
    statementsOf d.toText.toList = some d.statements := by
  have hentries : List.Forall₂ IsReadAs
      (if d.entries.isEmpty then [] else [Document.entriesText d.entries])
      (if d.entries.isEmpty then [] else [d.entries.map Entry.statement]) := by
    split
    · exact .nil
    · exact .cons (isReadAs_entries h.entries) .nil
  have htables : List.Forall₂ IsReadAs (d.tables.map Document.tableText)
      (d.tables.map Document.tableStatements) := by
    rw [List.forall₂_map_left_iff, List.forall₂_map_right_iff, List.forall₂_same]
    exact fun t ht => isReadAs_table (h.tables t ht).1 (h.tables t ht).2.1
  have hgroups : ((if d.entries.isEmpty then [] else [d.entries.map Entry.statement]) ++
      d.tables.map Document.tableStatements).flatten = d.statements := by
    rw [List.flatten_append, ← List.flatMap_def, Document.statements]
    cases d.entries <;> simp
  have hread := IsReadAs.intercalate (List.rel_append hentries htables)
  rw [hgroups] at hread
  rw [Document.toText, String.toList_ofList]
  exact hread.statementsOf

/-! ## Tables -/

namespace Members

/-- A key is not found if no member has it. -/
theorem get?_eq_none_iff {ms : Members} {key : String} :
    ms.get? key = none ↔ key ∉ List.map (·.1) ms := by
  simp only [get?, Option.map_eq_none_iff, List.find?_eq_none, List.mem_map, not_exists, not_and,
    beq_iff_eq]

/-- A member that was added last is found by a new key. -/
theorem get?_concat {before : Members} {key : String} (h : key ∉ List.map (·.1) before)
    (v : Value) : get? (before ++ [(key, v)]) key = some v := by
  have hbefore : List.find? (fun m => m.1 == key) before = none := by
    simpa [get?] using get?_eq_none_iff.mpr h
  simp only [get?, List.find?_append, hbefore, Option.none_or, List.find?_cons, beq_self_eq_true,
    Option.map_some]

/-- A new key is put behind the others. -/
theorem put_of_not_mem {ms : Members} {key : String} (h : key ∉ List.map (·.1) ms) (v : Value) :
    ms.put key v = ms ++ [(key, v)] := by
  rw [put, get?_eq_none_iff.mpr h]
  rfl

/-- A value that is put again takes the place of the last. -/
theorem put_concat {before : Members} {key : String} (h : key ∉ List.map (·.1) before)
    (v w : Value) : put (before ++ [(key, v)]) key w = before ++ [(key, w)] := by
  have hbefore : List.map (fun m => if m.1 == key then (key, w) else m) before = before := by
    refine (List.map_congr_left fun m hm => if_neg fun heq => ?_).trans (List.map_id _)
    exact h (List.mem_map.mpr ⟨m, hm, eq_of_beq heq⟩)
  rw [put, get?_concat h, Option.isSome_some, if_pos rfl, replace, List.map_append, hbefore]
  simp

/-- Assigning to a new key adds a member. -/
theorem assign_of_not_mem {ms : Members} {key : String} (h : key ∉ List.map (·.1) ms) (v : Value) :
    ms.assign v [key] = some (ms ++ [(key, v)]) := by
  rw [assign, get?_eq_none_iff.mpr h]
  rfl

/-- With no keys on the way the change is made at the root. -/
theorem within_nil (f : Members → Option Members) (ms : Members) : within f ms [] = f ms := by
  rw [within]

/-- What is changed in the table that came last. -/
theorem within_concat {before inner inner' : Members} {key : String}
    {f : Members → Option Members} (h : key ∉ List.map (·.1) before) (hf : f inner = some inner') :
    within f (before ++ [(key, .table .header inner)]) [key] =
      some (before ++ [(key, .table .header inner')]) := by
  rw [within, get?_concat h]
  simp only [within_nil, hf, Option.map_some, put_concat h]

end Members

/-- An entry as a member of its table. -/
def Entry.member (e : Entry) : String × Value := (e.1, .scalar e.2)

namespace Document

/-- The member of the root that a table becomes. -/
def tableMember (t : String × List Entry) : String × Value :=
  (t.1, .table .header (t.2.map Entry.member))

/-- The members of a document. -/
def members (d : Document) : Members :=
  d.entries.map Entry.member ++ d.tables.map tableMember

end Document

/-- The members of a table have the keys of its entries. -/
theorem map_fst_member (es : List Entry) : (es.map Entry.member).map (·.1) = es.map (·.1) := by
  rw [List.map_map]
  rfl

/-- Entries are put one after the other into the table that takes them; `place` puts that table in
its place in the document. -/
theorem take_entries {place : Members → Members} {current : List String}
    (hplace : ∀ (f : Members → Option Members) inner inner', f inner = some inner' →
      (place inner).within f current = some (place inner')) (es : List Entry) (inner : Members)
    (hnames : (List.map (·.1) inner ++ es.map (·.1)).Nodup) :
    (es.map Entry.statement).foldlM Assembly.take ⟨place inner, current⟩ =
      some ⟨place (inner ++ es.map Entry.member), current⟩ := by
  induction es generalizing inner with
  | nil => simp
  | cons e es ih =>
    rw [List.map_cons] at hnames
    have hnew : e.1 ∉ List.map (·.1) inner := fun hmem =>
      (List.nodup_append.mp hnames).2.2 _ hmem _ List.mem_cons_self rfl
    have htake : Assembly.take ⟨place inner, current⟩ e.statement =
        some ⟨place (inner ++ [e.member]), current⟩ := by
      have hassign := hplace (·.assign (.scalar e.2) [e.1]) inner _
        (Members.assign_of_not_mem hnew _)
      simp only [Entry.statement, Assembly.take, Written.value?, bind, Option.bind_some, hassign]
      rfl
    have hrest := ih (inner ++ [e.member]) (by
      rw [List.map_append, List.append_assoc]
      exact hnames)
    rw [List.append_assoc, List.singleton_append] at hrest
    rw [List.map_cons, List.foldlM_cons, htake, List.map_cons]
    exact hrest

/-- Tables are put one after the other behind the members that there are. -/
theorem take_tables (ts : List (String × List Entry)) (ms : Members) (current : List String)
    (hnames : (List.map (·.1) ms ++ ts.map (·.1)).Nodup)
    (hinner : ∀ t ∈ ts, (t.2.map (·.1)).Nodup) :
    ((ts.flatMap Document.tableStatements).foldlM Assembly.take ⟨ms, current⟩).map (·.members) =
      some (ms ++ ts.map Document.tableMember) := by
  induction ts generalizing ms current with
  | nil => simp
  | cons t ts ih =>
    rw [List.map_cons] at hnames
    rw [List.forall_mem_cons] at hinner
    have hnew : t.1 ∉ List.map (·.1) ms := fun hmem =>
      (List.nodup_append.mp hnames).2.2 _ hmem _ List.mem_cons_self rfl
    have hheader : Assembly.take ⟨ms, current⟩ (.table [t.1]) =
        some ⟨ms ++ [(t.1, .table .header [])], [t.1]⟩ := by
      have hopen : Members.openTable t.1 ms = some (ms ++ [(t.1, .table .header [])]) := by
        simp only [Members.openTable, Members.get?_eq_none_iff.mpr hnew,
          Members.put_of_not_mem hnew]
      have hlast : [t.1].getLastD "" = t.1 := rfl
      simp only [Assembly.take, hlast, List.dropLast_singleton, Members.within_nil, hopen,
        Option.map_some]
    have hplace (f : Members → Option Members) (inner inner' : Members)
        (hf : f inner = some inner') :
        Members.within f (ms ++ [(t.1, .table .header inner)]) [t.1] =
          some (ms ++ [(t.1, .table .header inner')]) := Members.within_concat hnew hf
    have hentries := take_entries hplace t.2 [] hinner.1
    have hrest := ih (ms ++ [Document.tableMember t]) [t.1] (by
      rw [List.map_append, List.append_assoc]
      exact hnames) hinner.2
    rw [List.append_assoc, List.singleton_append] at hrest
    rw [List.flatMap_cons, Document.tableStatements, List.cons_append, List.foldlM_cons, hheader,
      List.map_cons]
    simp only [bind, Option.bind_some, List.foldlM_append, hentries]
    exact hrest

/-- The statements of a document are put together to its members. -/
theorem membersOf_statements {d : Document} (h : d.IsSimple) :
    membersOf d.statements = some d.members := by
  have hplace (f : Members → Option Members) (inner inner' : Members)
      (hf : f inner = some inner') : Members.within f (id inner) [] = some (id inner') :=
    (Members.within_nil f inner).trans hf
  have hentries := take_entries hplace d.entries [] (List.nodup_append.mp h.names).1
  have htables := take_tables d.tables (d.entries.map Entry.member) [] (by
    rw [map_fst_member]
    exact h.names) fun t ht => (h.tables t ht).2.2
  simp only [id, List.nil_append] at hentries
  rw [membersOf, Document.statements, List.foldlM_append]
  simp only [hentries, bind, Option.bind_some]
  exact htables

/-! ## Values -/

/-- The members keep their keys and their order when they become a node. -/
theorem membersToJson_eq (ms : Members) :
    Value.membersToJson ms = List.map (fun m => (m.1, m.2.toJson)) ms := by
  induction ms with
  | nil => rw [Value.membersToJson, List.map_nil]
  | cons m ms ih => rw [Value.membersToJson, ih, List.map_cons]

/-- An entry as a member of an object. -/
def Entry.toMember (e : Entry) : String × Json := (e.1, e.2.toJson)

/-- The entries of a table as JSON. -/
def entriesToJson (es : List Entry) : Json := Json.ofMembers (es.map Entry.toMember)

/-- The members of the object that a document is. -/
def Document.toMembers (d : Document) : List (String × Json) :=
  d.entries.map Entry.toMember ++ d.tables.map fun t => (t.1, entriesToJson t.2)

/-- A document as JSON. -/
def Document.toJson (d : Document) : Json := Json.ofMembers d.toMembers

/-- A document is read back from its text. -/
theorem read?_toText {d : Document} (h : d.IsSimple) : read? d.toText = some d.toJson := by
  have htable (es : List Entry) : (Value.table .header (es.map Entry.member)).toJson =
      entriesToJson es := by
    rw [Value.toJson, membersToJson_eq, List.map_map]
    rfl
  have hmembers : (Value.table .header d.members).toJson = d.toJson := by
    rw [Value.toJson, membersToJson_eq, Document.members, List.map_append, List.map_map,
      List.map_map]
    simp only [Function.comp_def, Document.tableMember, htable]
    rfl
  simp only [read?, statementsOf_toText h, membersOf_statements h, bind, Option.bind_some,
    hmembers]

end ChatArchive.Toml
