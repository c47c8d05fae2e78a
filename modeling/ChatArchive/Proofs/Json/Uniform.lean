import ChatArchive.Proofs.Json.Record

/-!
# Values and their texts

A tree comes from a value or from a text, and the two differ in the faults that they give and in the
levels that they admit.  A decoder is uniform if it gets the same from both as long as the levels
are admitted.  Lists and records of uniform decoders are uniform, and so a value is decoded as its
text is (`Decoder.IsUniform.decodeText_toText`).
-/

namespace ChatArchive.Json

variable {α β : Type} {d : Decoder α}

/-- A decoder gets the same result, or none, wherever the tree of a node comes from. -/
structure Decoder.IsUniform (d : Decoder α) : Prop where
  same : ∀ (n : Node) {o o' : Origin}, o.Admits n.depth → o'.Admits n.depth →
    (d o n.toRaw).toOption = (d o' n.toRaw).toOption

/-! ## Simple types and lists -/

namespace Decoder.IsUniform

/-- Values are decoded alike from values and texts. -/
theorem value : Decoder.value.IsUniform where
  same n o o' ho ho' := by
    simp only [Decoder.value, n.toValue_toRaw ho, n.toValue_toRaw ho']

/-- So are texts. -/
theorem string : Decoder.string.IsUniform where
  same n _ _ _ _ := by cases n <;> rfl

/-- So are truth values. -/
theorem bool : Decoder.bool.IsUniform where
  same n _ _ _ _ := by cases n <;> rfl

/-- So are integers within some bounds. -/
theorem integer (name : String) (low high : Int) : (Decoder.integer name low high).IsUniform where
  same n _ _ _ _ := by
    cases n with
    | num x => cases x <;> rfl
    | null | bool | str | arr | obj => rfl

/-- A change of what was decoded makes no difference. -/
theorem map (h : d.IsUniform) (f : α → β) : (d.map f).IsUniform where
  same n o o' ho ho' := by
    simp only [Decoder.map, toOption_map, h.same n ho ho']

/-- What may be null is decoded alike if the rest is. -/
theorem option (h : d.IsUniform) : d.option.IsUniform where
  same n o o' ho ho' := by
    have hsome : ((d o n.toRaw).map some).toOption = ((d o' n.toRaw).map some).toOption := by
      rw [toOption_map, toOption_map, h.same n ho ho']
    cases n with
    | null => rfl
    | bool | num | str | arr | obj => exact hsome

/-- Items in a row are decoded alike if each of them is. -/
theorem items (h : d.IsUniform) (ns : List Node) {o o' : Origin} (ho : o.Admits (Node.depths ns))
    (ho' : o'.Admits (Node.depths ns)) :
    (d.items o (Node.toRaws ns)).toOption = (d.items o' (Node.toRaws ns)).toOption := by
  induction ns with
  | nil => rfl
  | cons n ns ih =>
    have hn := h.same n (ho.mono (Nat.le_max_left _ _)) (ho'.mono (Nat.le_max_left _ _))
    have hns := ih (ho.mono (Nat.le_max_right _ _)) (ho'.mono (Nat.le_max_right _ _))
    simp only [Node.toRaws, Decoder.items, toOption_bind, hn, hns]

/-- Lists are decoded alike if their items are. -/
theorem list (h : d.IsUniform) : d.list.IsUniform where
  same n o o' ho ho' := by
    cases n with
    | arr ns =>
      obtain ⟨inner, henter, hinner⟩ := Origin.Admits.exists_enter ho
      obtain ⟨inner', henter', hinner'⟩ := Origin.Admits.exists_enter ho'
      have hitems := h.items ns hinner hinner'
      simp only [Node.toRaw, Decoder.list, henter, henter', ArrayStop.onRead, toOption_bind,
        toOption_ok, Option.bind_some, hitems]
    | null | bool | str | obj => rfl
    | num x => cases x <;> rfl

end Decoder.IsUniform

/-! ## Records -/

/-- Fields of distinct names with uniform decoders. -/
inductive Fields.AreUniform : {δ γ : Type} → Fields δ γ → Prop where
  | nil : AreUniform .nil
  | cons {α δ γ : Type} {f : Field α} {rest : Fields δ γ} (hread : f.read.IsUniform)
      (hnew : f.name ∉ rest.names) (hrest : rest.AreUniform) : AreUniform (.cons f rest)

namespace Fields

variable {δ γ : Type}

/-- Fields that are decoded alike have distinct names. -/
theorem AreUniform.names_nodup {fs : Fields δ γ} (h : fs.AreUniform) : fs.names.Nodup := by
  induction h with
  | nil => exact List.nodup_nil
  | cons _ hnew _ ih => exact List.nodup_cons.mpr ⟨hnew, ih⟩

/-- A member has no more levels than all of them. -/
theorem depth_le_of_mem_named {name : String} {ms : List (String × Node)} {n : Node}
    (h : n ∈ named name ms) : n.depth ≤ Node.memberDepths ms := by
  induction ms with
  | nil => exact absurd h List.not_mem_nil
  | cons m ms ih =>
    by_cases hname : m.1 = name
    · subst hname
      rw [named_cons_self, List.mem_cons] at h
      rcases h with rfl | h
      · exact Nat.le_max_left _ _
      · exact (ih h).trans (Nat.le_max_right _ _)
    · rw [named_cons_of_ne hname] at h
      exact (ih h).trans (Nat.le_max_right _ _)

/-- What an object gives is the same wherever it comes from. -/
theorem AreUniform.gather_congr {fs : Fields δ γ} (h : fs.AreUniform) (ms : List (String × Node))
    {o o' : Origin} (ho : o.Admits (Node.memberDepths ms))
    (ho' : o'.Admits (Node.memberDepths ms)) : fs.gather o ms = fs.gather o' ms := by
  induction h with
  | nil => rfl
  | @cons α δ γ f rest hread _ _ ih =>
    have hone : readOne f o (named f.name ms) = readOne f o' (named f.name ms) := by
      match hnamed : named f.name ms with
      | [] | _ :: _ :: _ => rfl
      | [n] =>
        have hle := depth_le_of_mem_named (hnamed ▸ List.mem_singleton_self n)
        exact hread.same n (ho.mono hle) (ho'.mono hle)
    rw [gather, gather, hone, ih]

/-- What an array gives is the same wherever it comes from. -/
theorem AreUniform.ofItems_congr {fs : Fields δ γ} (h : fs.AreUniform) (ns : List Node)
    {o o' : Origin} (ho : o.Admits (Node.depths ns)) (ho' : o'.Admits (Node.depths ns))
    (expected : String) (index : Nat) :
    (fs.ofItems o expected .closed index (Node.toRaws ns)).toOption =
      (fs.ofItems o' expected .closed index (Node.toRaws ns)).toOption := by
  induction h generalizing ns index with
  | nil => rfl
  | @cons α δ γ f rest hread _ _ ih =>
    match ns with
    | [] =>
      have hrest := ih [] ho ho' (index + 1)
      rw [Node.toRaws] at hrest ⊢
      simp only [ofItems, ArrayStop.onRead]
      cases f.ifCut with
      | none => rfl
      | some a => simp only [toOption_bind, hrest]
    | n :: ns =>
      have hn := hread.same n (ho.mono (Nat.le_max_left _ _)) (ho'.mono (Nat.le_max_left _ _))
      have hns := ih ns (ho.mono (Nat.le_max_right _ _)) (ho'.mono (Nat.le_max_right _ _))
        (index + 1)
      simp only [Node.toRaws, ofItems, toOption_bind, hn, hns]

end Fields

/-- An array is read as the fields if no items are left over. -/
theorem row_toOption {δ γ : Type} (expected : String) (fs : Fields δ γ) {o inner : Origin}
    (henter : o.enter = .ok inner) (rs : List Raw) :
    (Decoder.row expected fs o rs .closed).toOption =
      (fs.ofItems inner expected .closed 0 rs).toOption.bind fun p =>
        if p.2.isEmpty then some p.1 else none := by
  simp only [Decoder.row, henter, toOption_bind, toOption_ok, Option.bind_some]
  congr 1
  funext p
  obtain ⟨g, left⟩ := p
  cases o <;> cases left <;> rfl

/-- Records are decoded alike if their fields are. -/
theorem Decoder.IsUniform.record {δ γ : Type} {fs : Fields δ γ} (h : fs.AreUniform)
    (title : String) (make : γ → α) : (Decoder.record title fs make).IsUniform where
  same n o o' ho ho' := by
    cases n with
    | obj ms =>
      obtain ⟨inner, henter, hinner⟩ := Origin.Admits.exists_enter ho
      obtain ⟨inner', henter', hinner'⟩ := Origin.Admits.exists_enter ho'
      simp only [Node.toRaw, Decoder.record, toOption_map,
        Fields.rowOfObject_eq_gather h.names_nodup henter,
        Fields.rowOfObject_eq_gather h.names_nodup henter', h.gather_congr ms hinner hinner']
    | arr ns =>
      obtain ⟨inner, henter, hinner⟩ := Origin.Admits.exists_enter ho
      obtain ⟨inner', henter', hinner'⟩ := Origin.Admits.exists_enter ho'
      simp only [Node.toRaw, Decoder.record, toOption_map, row_toOption _ fs henter,
        row_toOption _ fs henter', h.ofItems_congr ns hinner hinner']
    | null | bool | str => rfl
    | num x => cases x <;> rfl

/-! ## Texts -/

/-- A value is decoded as its text is. -/
theorem Decoder.IsUniform.decodeText_toText (h : d.IsUniform) {j : Json}
    (hexact : j.toNode.IsExact) (hdepth : j.toNode.depth < nestingLimit) :
    (decodeText d j.toText).toOption = (decodeValue d j).toOption := by
  rw [toText, Json.decodeText_toText hexact, decodeValue, ← toRaw_toNode]
  exact h.same j.toNode hdepth trivial

end ChatArchive.Json
