import ChatArchive.Proofs.Json.Member

/-!
# Records by the names of their members

An object is decoded member by member into a draft.  What comes of it does not depend on the order
of the members: each field is read from the one member of its name, and takes its default if there
is none (`Fields.rowOfObject_eq_gather`).  Why an object is refused may depend on the order, so this
is about results alone.
-/

namespace ChatArchive.Json

/-- A result is kept. -/
theorem toOption_ok {ε α : Type} (a : α) : (Except.ok a : Except ε α).toOption = some a := rfl

/-- Without the faults, one step after the other is one option after the other. -/
theorem toOption_bind {ε α β : Type} (x : Except ε α) (f : α → Except ε β) :
    (x >>= f).toOption = x.toOption.bind fun a => (f a).toOption := by
  cases x <;> rfl

/-- Without the faults, a change of the result is a change of the option. -/
theorem toOption_map {ε α β : Type} (x : Except ε α) (f : α → β) :
    (x.map f).toOption = x.toOption.map f := by
  cases x <;> rfl

/-! ## Skipping -/

mutual

/-- Nothing that was written is refused when it is skipped. -/
theorem Node.skipFault?_toRaw (n : Node) : n.toRaw.skipFault? = none := by
  match n with
  | .null | .bool _ | .num _ | .str _ => rfl
  | .arr ns => rw [Node.toRaw, Raw.skipFault?, Node.skipItems_toRaws ns]; rfl
  | .obj ms => rw [Node.toRaw, Raw.skipFault?, Node.skipMembers_toRawMembers ms]; rfl

/-- Skipping the items of a node meets no fault. -/
theorem Node.skipItems_toRaws (ns : List Node) : skipItems (Node.toRaws ns) = none := by
  match ns with
  | [] => rfl
  | n :: ns => rw [Node.toRaws, skipItems, n.skipFault?_toRaw, Node.skipItems_toRaws ns]; rfl

/-- Skipping the members of a node meets no fault. -/
theorem Node.skipMembers_toRawMembers (ms : List (String × Node)) :
    skipMembers (Node.toRawMembers ms) = none := by
  match ms with
  | [] => rfl
  | (k, n) :: ms =>
    rw [Node.toRawMembers, skipMembers, n.skipFault?_toRaw, Node.skipMembers_toRawMembers ms]; rfl

end

namespace Fields

variable {α δ γ : Type}

/-! ## Fields by their names -/

/-- The names of the fields. -/
def names {δ γ : Type} : Fields δ γ → List String
  | nil => []
  | cons f rest => f.name :: rest.names

/-- What the members of a field's name give for it: no two may be given. -/
def readOne (f : Field α) (o : Origin) : List Node → Option α
  | [] => f.ifMissing
  | [n] => (f.read o n.toRaw).toOption
  | _ :: _ :: _ => none

/-- The nodes of the members of a name. -/
def named (name : String) (ms : List (String × Node)) : List Node :=
  (ms.filter fun m => m.1 == name).map (·.2)

/-- Read every field from the members of its name. -/
def gather {δ γ : Type} (o : Origin) (ms : List (String × Node)) : Fields δ γ → Option γ
  | nil => some ()
  | cons f rest =>
    (readOne f o (named f.name ms)).bind fun a => (rest.gather o ms).map fun g => (a, g)

/-- A member of the name is among those that have it. -/
theorem named_cons_self (name : String) (n : Node) (ms : List (String × Node)) :
    named name ((name, n) :: ms) = n :: named name ms := by
  simp [named]

/-- A member of another name is not. -/
theorem named_cons_of_ne {name other : String} (h : other ≠ name) (n : Node)
    (ms : List (String × Node)) : named name ((other, n) :: ms) = named name ms := by
  simp [named, h]

/-! ## Drafts -/

/-- A member that no field has the name of is not taken. -/
theorem put_eq_none {δ γ : Type} {fs : Fields δ γ} {name : String} (h : name ∉ fs.names)
    (o : Origin) (r : Raw) (draft : δ) : fs.put o name r draft = none := by
  induction fs with
  | nil => rfl
  | cons f rest ih =>
    obtain ⟨slot, draft⟩ := draft
    rw [names, List.mem_cons, not_or] at h
    simp only [put, if_neg (Ne.symm h.1), ih h.2, Option.map_none]

/-- What the members of its name make of the slot of a field. -/
def fillSlot (f : Field α) (o : Origin) : List Node → Option α → Option (Option α)
  | [], slot => some slot
  | n :: ns, none => (f.read o n.toRaw).toOption.bind fun a => fillSlot f o ns (some a)
  | _ :: _, some _ => none

/-- The members of the first field's name are read into its slot, and all members into the rest. -/
theorem putAll_cons_toOption (f : Field α) (rest : Fields δ γ) (hnew : f.name ∉ rest.names)
    (o : Origin) (ms : List (String × Node)) (slot : Option α) (draft : δ) :
    ((cons f rest).putAll o (Node.toRawMembers ms) (slot, draft)).toOption =
      (fillSlot f o (named f.name ms) slot).bind fun s =>
        (rest.putAll o (Node.toRawMembers ms) draft).toOption.map fun d => (s, d) := by
  induction ms generalizing slot draft with
  | nil => rfl
  | cons m ms ih =>
    obtain ⟨name, n⟩ := m
    by_cases hname : f.name = name
    · subst hname
      have hrest : rest.putAll o (Node.toRawMembers ((f.name, n) :: ms)) draft =
          rest.putAll o (Node.toRawMembers ms) draft := by
        rw [Node.toRawMembers, putAll, put_eq_none hnew, n.skipFault?_toRaw]
      rw [named_cons_self, hrest, Node.toRawMembers, putAll]
      cases slot with
      | some a =>
        simp only [put, if_true, fillSlot, Option.bind_none]
        rfl
      | none =>
        simp only [put, if_true, fillSlot]
        cases f.read o n.toRaw with
        | error fault => rfl
        | ok a => exact ih (some a) draft
    · rw [named_cons_of_ne (Ne.symm hname), Node.toRawMembers, putAll, putAll]
      simp only [put, if_neg hname, n.skipFault?_toRaw]
      cases rest.put o name n.toRaw draft with
      | none => exact ih slot draft
      | some result =>
        cases result with
        | ok next => exact ih slot next
        | error fault =>
          cases fillSlot f o (named f.name ms) slot <;> rfl

/-- A slot that was open is filled by the only member of its name. -/
theorem bind_fillSlot (f : Field α) (o : Origin) (ns : List Node) :
    (fillSlot f o ns none).bind (fun s => s.or f.ifMissing) = readOne f o ns := by
  match ns with
  | [] => rfl
  | [n] =>
    rw [fillSlot, readOne]
    cases (f.read o n.toRaw).toOption <;> rfl
  | n :: n' :: ns =>
    rw [fillSlot, readOne]
    cases (f.read o n.toRaw).toOption <;> rfl

/-- A draft of all members is complete if every field can be read from those of its name. -/
theorem complete_putAll {fs : Fields δ γ} (hnames : fs.names.Nodup) (o : Origin)
    (ms : List (String × Node)) :
    (fs.putAll o (Node.toRawMembers ms) fs.blank >>= fs.complete).toOption = fs.gather o ms := by
  induction fs with
  | nil =>
    have hall : (nil.putAll o (Node.toRawMembers ms) ()).toOption = some () := by
      induction ms with
      | nil => rfl
      | cons m ms ih => rw [Node.toRawMembers, putAll, put, m.2.skipFault?_toRaw, ih]
    rw [toOption_bind, blank, hall]
    rfl
  | @cons α δ γ f rest ih =>
    rw [names, List.nodup_cons] at hnames
    rw [toOption_bind, blank, putAll_cons_toOption f rest hnames.1, gather, ← ih hnames.2,
      ← bind_fillSlot, toOption_bind]
    cases fillSlot f o (named f.name ms) none with
    | none => rfl
    | some s =>
      cases rest.putAll o (Node.toRawMembers ms) rest.blank with
      | error fault => simp [Except.toOption]
      | ok draft =>
        simp only [Except.toOption, Option.bind_some, Option.map_some, complete]
        cases s.or f.ifMissing with
        | none => rfl
        | some a =>
          cases rest.complete draft <;> rfl

/-- What an object is read as depends on its members by their names alone. -/
theorem rowOfObject_eq_gather {fs : Fields δ γ} (hnames : fs.names.Nodup) {o inner : Origin}
    (henter : o.enter = .ok inner) (ms : List (String × Node)) :
    (Decoder.rowOfObject fs o (Node.toRawMembers ms) .closed).toOption = fs.gather inner ms := by
  rw [← complete_putAll hnames]
  simp only [Decoder.rowOfObject, henter, ObjectStop.onRead]
  rfl

/-- An object that names no member twice has at most one of each name. -/
theorem named_toMemberNodes {ms : List (String × Json)} (hms : (ms.map (·.1)).Nodup)
    (name : String) :
    named name (toMemberNodes ms) = ((obj ms).field? name).toList.map toNode := by
  induction ms with
  | nil => rfl
  | cons m ms ih =>
    obtain ⟨k, v⟩ := m
    rw [List.map_cons, List.nodup_cons] at hms
    rw [toMemberNodes, field?_cons]
    by_cases h : k = name
    · subst h
      have hnone : (obj ms).field? k = none := by
        simp only [field?, Option.map_eq_none_iff, List.find?_eq_none, beq_iff_eq]
        exact fun m hm hk => hms.1 (List.mem_map.mpr ⟨m, hm, hk⟩)
      rw [named_cons_self, ih hms.2, hnone, if_pos rfl]
      rfl
    · rw [named_cons_of_ne h, ih hms.2, if_neg h]

/-- A field of an object that names no member twice. -/
theorem readOne_toMemberNodes {ms : List (String × Json)} (hms : (ms.map (·.1)).Nodup)
    (f : Field α) (o : Origin) :
    readOne f o (named f.name (toMemberNodes ms)) =
      ((obj ms).field? f.name).elim f.ifMissing fun j => (f.read o j.toRaw).toOption := by
  rw [named_toMemberNodes hms]
  cases (obj ms).field? f.name with
  | none => rfl
  | some j => exact congrArg (fun r => (f.read o r).toOption) (toRaw_toNode j)

end Fields

/-- What a record is decoded as from a value. -/
theorem decodeValue_record {α δ γ : Type} {fs : Fields δ γ} (hnames : fs.names.Nodup)
    (title : String) (make : γ → α) (ms : List (String × Json)) :
    (decodeValue (Decoder.record title fs make) (obj ms)).toOption =
      (fs.gather .value (toMemberNodes ms)).map make := by
  rw [decodeValue, toRaw, ← toRawMembers_toMemberNodes, Decoder.record, toOption_map,
    Fields.rowOfObject_eq_gather hnames (o := .value) rfl]

/-! ## Objects that give some of the fields -/

/-- What a field is in an object: its member, or its default if there is none. -/
def Field.valueIn? {α : Type} (f : Field α) (j : Json) : Option α :=
  (j.field? f.name).elim f.ifMissing fun v => (decodeValue f.read v).toOption

/-- The fields that an object gives, by its members or by their defaults. -/
inductive Fields.Given (j : Json) : {δ γ : Type} → Fields δ γ → γ → Prop where
  | nil : Given j .nil ()
  | cons {α δ γ : Type} {f : Field α} {rest : Fields δ γ} {a : α} {g : γ}
      (hfirst : f.valueIn? j = some a) (hrest : rest.Given j g) : Given j (.cons f rest) (a, g)

/-- A record is gathered from an object that gives its fields. -/
theorem Fields.Given.gather_eq {δ γ : Type} {fs : Fields δ γ} {g : γ} {ms : List (String × Json)}
    (h : fs.Given (obj ms) g) (hms : (ms.map (·.1)).Nodup) :
    fs.gather .value (toMemberNodes ms) = some g := by
  induction h with
  | nil => rfl
  | cons hfirst _ ih =>
    rw [gather, readOne_toMemberNodes hms, ih]
    exact congrArg (fun o : Option _ => o.bind fun a => some (a, _)) hfirst

/-- A record is decoded from an object that gives its fields. -/
theorem decodeValue_record_of_given {α δ γ : Type} {fs : Fields δ γ} {g : γ}
    {ms : List (String × Json)} (h : fs.Given (ofMembers ms) g) (hnames : fs.names.Nodup)
    (title : String) (make : γ → α) :
    (decodeValue (Decoder.record title fs make) (ofMembers ms)).toOption = some (make g) := by
  obtain ⟨ordered, hobj, hordered⟩ := exists_ofMembers_eq_obj ms
  rw [hobj] at h ⊢
  rw [decodeValue_record hnames, h.gather_eq hordered, Option.map_some]

end ChatArchive.Json
