import ChatArchive.Json.Decode
import ChatArchive.Proofs.Json.RoundTrip

/-!
# Decoding what was written

`Decoder.Reads` says that a decoder gets a value from a node, whether that comes from a value or
stands at whatever level of a text, as long as there are levels enough below.  It is kept by lists
(`Decoder.Reads.list`) and by records whose members are given in the order of the fields
(`Decoder.Reads.record`), and it carries over to the texts that spell the node
(`decodeText_of_spells`).
-/

namespace ChatArchive.Json

variable {α : Type} {d : Decoder α} {depth : Nat}

/-! ## Levels -/

/-- A tree from here may open some levels. -/
def Origin.Admits (depth : Nat) : Origin → Prop
  | .text room => depth < room
  | .value => True

/-- Where there is room for one more level, a level can be entered. -/
theorem Origin.Admits.exists_enter {o : Origin} (h : o.Admits (depth + 1)) :
    ∃ inner, o.enter = .ok inner ∧ inner.Admits depth := by
  cases o with
  | text room =>
    have hroom : depth + 1 < room := h
    exact ⟨.text (room - 1), if_neg (by omega), show depth < room - 1 by omega⟩
  | value => exact ⟨.value, rfl, trivial⟩

/-- Where there is room for some levels, there is room for fewer. -/
theorem Origin.Admits.mono {o : Origin} {less : Nat} (h : o.Admits depth) (hle : less ≤ depth) :
    o.Admits less := by
  cases o with
  | text room => exact Nat.lt_of_le_of_lt hle h
  | value => trivial

/-- A decoder gets a value from a node that opens at most `depth` levels. -/
structure Decoder.Reads (d : Decoder α) (depth : Nat) (n : Node) (a : α) : Prop where
  exact : n.IsExact
  ok : ∀ o : Origin, o.Admits depth → d o n.toRaw = .ok a

namespace Decoder.Reads

/-! ## Simple types and lists -/

/-- A text is decoded as it was. -/
theorem string (s : String) : Decoder.string.Reads depth (.str s) s where
  exact := trivial
  ok _ _ := rfl

/-- A natural number up to a limit of 64 bits. -/
theorem natural {name : String} {n high : Nat} (h : n ≤ high) (hhigh : high ≤ Word.maxNat 64) :
    Decoder.Reads (fun o r => (Decoder.integer name 0 high o r).map Int.toNat) depth (.ofNat n)
      n where
  exact := Node.isExact_ofNat (h.trans hhigh)
  ok _ _ := by
    have hbounds : (0 : Int) ≤ n ∧ (n : Int) ≤ high := by omega
    simp only [Node.ofNat, Node.toRaw, Decoder.integer, if_pos hbounds, Except.map,
      Int.toNat_natCast]

/-- A number of 32 bits is decoded as it was. -/
theorem nat32 {n : Nat} (h : n ≤ Word.maxNat 32) : Decoder.nat32.Reads depth (.ofNat n) n :=
  natural h (by decide)

/-- A number of 64 bits is decoded as it was. -/
theorem count {n : Nat} (h : n ≤ Word.maxNat 64) : Decoder.count.Reads depth (.ofNat n) n :=
  natural h (Nat.le_refl _)

/-- A text that may be missing. -/
theorem optionalString (s : Option String) :
    Decoder.string.option.Reads depth (.ofOption .str s) s where
  exact := by cases s <;> trivial
  ok _ _ := by cases s <;> rfl

/-- A list is decoded as it was if its members are, with one level around them. -/
theorem list {toNode : α → Node} {as : List α} (h : ∀ a ∈ as, d.Reads depth (toNode a) a) :
    d.list.Reads (depth + 1) (.arr (as.map toNode)) as where
  exact := by
    show Node.AreExact (as.map toNode)
    induction as with
    | nil => trivial
    | cons a as ih =>
      exact ⟨(h a List.mem_cons_self).exact, ih fun b hb => h b (List.mem_cons_of_mem a hb)⟩
  ok o ho := by
    obtain ⟨inner, henter, hinner⟩ := ho.exists_enter
    have hitems : d.items inner (Node.toRaws (as.map toNode)) = .ok as := by
      clear henter
      induction as with
      | nil => rfl
      | cons a as ih =>
        have ha := (h a List.mem_cons_self).ok inner hinner
        have has := ih fun b hb => h b (List.mem_cons_of_mem a hb)
        simp only [List.map_cons, Node.toRaws, Decoder.items, ha, has, bind, Except.bind]
    simp only [Node.toRaw, Decoder.list, henter, hitems, ArrayStop.onRead, bind, Except.bind]

end Decoder.Reads

/-! ## Records -/

namespace Field

/-- A required field has the name that it is given. -/
@[simp] theorem name_required (name : String) (d : Decoder α) :
    (required name d).name = name := rfl

/-- So has one that may be null. -/
@[simp] theorem name_nullable (name : String) (d : Decoder α) :
    (nullable name d).name = name := rfl

end Field

/-- Members that give the fields of a record, in order. -/
inductive Fields.Told (depth : Nat) :
    {δ γ : Type} → Fields δ γ → List (String × Node) → γ → Prop where
  | nil : Told depth .nil [] ()
  | cons {α δ γ : Type} {f : Field α} {rest : Fields δ γ} {n : Node} {a : α}
      {ms : List (String × Node)} {g : γ} (hread : f.read.Reads depth n a)
      (hnew : ∀ m ∈ ms, m.1 ≠ f.name) (hrest : rest.Told depth ms g) :
      Told depth (.cons f rest) ((f.name, n) :: ms) (a, g)

namespace Fields

/-- Members that do not belong to the first field are read into the others. -/
theorem putAll_cons {α δ γ : Type} (f : Field α) (rest : Fields δ γ) (o : Origin)
    {ms : List (String × Node)} (hnew : ∀ m ∈ ms, m.1 ≠ f.name) (slot : Option α) (draft : δ) :
    (Fields.cons f rest).putAll o (Node.toRawMembers ms) (slot, draft) =
      (rest.putAll o (Node.toRawMembers ms) draft).map fun next => (slot, next) := by
  induction ms generalizing draft with
  | nil => rfl
  | cons m ms ih =>
    obtain ⟨name, n⟩ := m
    have hname : f.name ≠ name := fun h => hnew (name, n) List.mem_cons_self h.symm
    have hrest := ih fun m hm => hnew m (List.mem_cons_of_mem _ hm)
    have hput : (Fields.cons f rest).put o name n.toRaw (slot, draft) =
        (rest.put o name n.toRaw draft).map fun result => result.map fun next => (slot, next) := by
      simp only [put, if_neg hname]
    rw [Node.toRawMembers, putAll, putAll, hput]
    cases rest.put o name n.toRaw draft with
    | none =>
      cases n.toRaw.skipFault? with
      | none => exact hrest draft
      | some fault => rfl
    | some result =>
      cases result with
      | error fault => rfl
      | ok next => exact hrest next

/-- Members that give all fields complete the draft. -/
theorem Told.exists_draft {δ γ : Type} {fs : Fields δ γ} {ms : List (String × Node)} {g : γ}
    (h : fs.Told depth ms g) {o : Origin} (ho : o.Admits depth) :
    ∃ draft, fs.putAll o (Node.toRawMembers ms) fs.blank = .ok draft ∧
      fs.complete draft = .ok g := by
  induction h with
  | nil => exact ⟨(), rfl, rfl⟩
  | @cons α δ γ f rest n a ms g hread hnew _ ih =>
    obtain ⟨draft, hput, hcomplete⟩ := ih
    refine ⟨(some a, draft), ?_, ?_⟩
    · simp only [Node.toRawMembers, blank, putAll, put, if_true, hread.ok o ho, Except.map]
      rw [putAll_cons f rest _ hnew, hput]
      rfl
    · simp only [complete, Option.some_or, hcomplete, bind, Except.bind]

/-- Members that tell a record are exact. -/
theorem Told.exact {δ γ : Type} {fs : Fields δ γ} {ms : List (String × Node)} {g : γ}
    (h : fs.Told depth ms g) : Node.MembersAreExact ms := by
  induction h with
  | nil => trivial
  | cons hread _ _ ih => exact ⟨hread.exact, ih⟩

end Fields

/-- A record is decoded from members that give all its fields. -/
theorem Decoder.Reads.record {δ γ : Type} {fs : Fields δ γ} {ms : List (String × Node)} {g : γ}
    (h : fs.Told depth ms g) (title : String) (make : γ → α) :
    (Decoder.record title fs make).Reads (depth + 1) (.obj ms) (make g) where
  exact := h.exact
  ok o ho := by
    obtain ⟨inner, henter, hinner⟩ := ho.exists_enter
    obtain ⟨draft, hput, hcomplete⟩ := h.exists_draft hinner
    simp only [Node.toRaw, Decoder.record, Decoder.rowOfObject, henter, hput, ObjectStop.onRead,
      hcomplete, bind, Except.bind, Except.map]

/-! ## Faults -/

/-- Items that are read or have a certain fault, some of which have it. -/
theorem Decoder.items_of_fault {toNode : α → Node} {o : Origin} {f : Fault} {as : List α}
    (hitems : ∀ a ∈ as, d o (toNode a).toRaw = .ok a ∨ d o (toNode a).toRaw = .error f)
    (hfault : ∃ a ∈ as, d o (toNode a).toRaw = .error f) :
    d.items o (Node.toRaws (as.map toNode)) = .error f := by
  induction as with
  | nil =>
    obtain ⟨a, ha, -⟩ := hfault
    exact absurd ha List.not_mem_nil
  | cons a as ih =>
    rw [List.forall_mem_cons] at hitems
    rw [List.map_cons, Node.toRaws, Decoder.items]
    rcases hitems.1 with hok | herror
    · obtain ⟨b, hb, hbad⟩ := hfault
      rcases List.mem_cons.mp hb with rfl | hb
      · rw [hok] at hbad
        cases hbad
      · rw [hok, ih hitems.2 ⟨b, hb, hbad⟩]
        rfl
    · rw [herror]
      rfl

/-- The first fault of a member is that of the list. -/
theorem Decoder.list_of_fault {ns : List Node} {o inner : Origin} {f : Fault}
    (henter : o.enter = .ok inner) (h : d.items inner (Node.toRaws ns) = .error f) :
    d.list o (Node.arr ns).toRaw = .error f := by
  simp only [Node.toRaw, Decoder.list, henter, h, bind, Except.bind]

/-- Members that give the fields of a record in order, up to one that has a fault. -/
inductive Fields.Breaks (o : Origin) (fault : Fault) :
    {δ γ : Type} → Fields δ γ → List (String × Node) → Prop where
  | here {α δ γ : Type} {f : Field α} {rest : Fields δ γ} {n : Node} {ms : List (String × Node)}
      (hread : f.read o n.toRaw = .error fault) : Breaks o fault (.cons f rest) ((f.name, n) :: ms)
  | there {α δ γ : Type} {f : Field α} {rest : Fields δ γ} {n : Node} {a : α} {levels : Nat}
      {ms : List (String × Node)} (hread : f.read.Reads levels n a) (ho : o.Admits levels)
      (hnew : ∀ m ∈ ms, m.1 ≠ f.name) (hrest : rest.Breaks o fault ms) :
      Breaks o fault (.cons f rest) ((f.name, n) :: ms)

/-- Members that break a field are refused for its fault. -/
theorem Fields.Breaks.putAll_eq {o : Origin} {fault : Fault} {δ γ : Type} {fs : Fields δ γ}
    {ms : List (String × Node)} (h : fs.Breaks o fault ms) :
    fs.putAll o (Node.toRawMembers ms) fs.blank = .error fault := by
  induction h with
  | here hread =>
    simp only [Node.toRawMembers, blank, putAll, put, if_true, hread, Except.map]
  | @there α δ γ f rest n a levels ms hread ho hnew _ ih =>
    simp only [Node.toRawMembers, blank, putAll, put, if_true, hread.ok o ho, Except.map]
    rw [putAll_cons f rest _ hnew, ih]
    rfl

/-- A record has the fault of the first of its members that has one. -/
theorem Decoder.record_of_breaks {o inner : Origin} {fault : Fault} {δ γ : Type}
    {fs : Fields δ γ} {ms : List (String × Node)} (henter : o.enter = .ok inner)
    (h : fs.Breaks inner fault ms) (title : String) (make : γ → α) :
    Decoder.record title fs make o (Node.obj ms).toRaw = .error fault := by
  simp only [Node.toRaw, Decoder.record, Decoder.rowOfObject, henter, h.putAll_eq, bind,
    Except.bind, Except.map]

/-! ## Texts -/

/-- A text that spells a node is decoded as its tree is. -/
theorem decodeText_of_spells {n : Node} {s : String} (h : Spells n s.toList) (d : Decoder α) :
    decodeText d s = d (.text nestingLimit) n.toRaw := by
  simp only [decodeText, readDocument_of_spells h, bind, Except.bind]
  cases d (.text nestingLimit) n.toRaw <;> rfl

/-- Decoding the compact text of a node is decoding the node. -/
theorem decodeText_toText {n : Node} (h : n.IsExact) (d : Decoder α) :
    decodeText d n.toText = d (.text nestingLimit) n.toRaw :=
  decodeText_of_spells (by rw [Node.toText, String.toList_ofList]; exact spells_compact n h) d

/-- So is decoding its indented text. -/
theorem decodeText_toPrettyText {n : Node} (h : n.IsExact) (d : Decoder α) :
    decodeText d n.toPrettyText = d (.text nestingLimit) n.toRaw :=
  decodeText_of_spells
    (by rw [Node.toPrettyText, String.toList_ofList]; exact spells_pretty n h 0) d

/-- What a decoder gets from a node it also gets from the texts that are written of the node. -/
theorem Decoder.Reads.decodeText {n : Node} {a : α} (h : d.Reads depth n a)
    (hdepth : depth < nestingLimit) :
    decodeText d n.toText = .ok a ∧ decodeText d n.toPrettyText = .ok a := by
  rw [decodeText_toText h.exact, decodeText_toPrettyText h.exact]
  exact ⟨h.ok _ hdepth, h.ok _ hdepth⟩

end ChatArchive.Json
