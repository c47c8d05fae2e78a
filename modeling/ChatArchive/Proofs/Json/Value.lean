import ChatArchive.Proofs.Json.Decode

/-!
# Reading values

A node is read as a value from any place that admits as many levels as the node opens
(`Node.toValue_toRaw`), and a text in which it opens too many is refused
(`Node.toValue_of_too_deep`).  A value whose members are in order is read as itself
(`value_toNode`).
-/

namespace ChatArchive.Json

/-! ## Levels of nodes -/

mutual

/-- How many levels a node opens. -/
def Node.depth : Node → Nat
  | .arr items => Node.depths items + 1
  | .obj members => Node.memberDepths members + 1
  | .null | .bool _ | .num _ | .str _ => 0

/-- The levels of the deepest of some nodes. -/
def Node.depths : List Node → Nat
  | [] => 0
  | n :: ns => max n.depth (Node.depths ns)

/-- The levels of the deepest value of some members. -/
def Node.memberDepths : List (String × Node) → Nat
  | [] => 0
  | (_, n) :: ms => max n.depth (Node.memberDepths ms)

end

/-- Some nodes have no more levels than allowed exactly if none of them has. -/
theorem Node.depths_le_iff {levels : Nat} {ns : List Node} :
    Node.depths ns ≤ levels ↔ ∀ n ∈ ns, n.depth ≤ levels := by
  induction ns with
  | nil => simp [Node.depths]
  | cons n ns ih => rw [Node.depths, Nat.max_le, ih, List.forall_mem_cons]

/-! ## Values of nodes -/

mutual

/-- The value that a node is read as. -/
def Node.value : Node → Json
  | .null => .null
  | .bool b => .bool b
  | .num n => .num n
  | .str s => .str s
  | .arr items => .arr (Node.values items)
  | .obj members => Json.ofMembers (Node.memberValues members)

/-- The values of some nodes. -/
def Node.values : List Node → List Json
  | [] => []
  | n :: ns => n.value :: Node.values ns

/-- The members with the values of their nodes. -/
def Node.memberValues : List (String × Node) → List (String × Json)
  | [] => []
  | (k, n) :: ms => (k, n.value) :: Node.memberValues ms

end

mutual

/-- What a reader makes of a node has its value, if there is room for its levels. -/
theorem Node.toValue_toRaw (n : Node) {o : Origin} (h : o.Admits n.depth) :
    n.toRaw.toValue o = .ok n.value := by
  match n with
  | .null | .bool _ | .num _ | .str _ => rfl
  | .arr ns =>
    obtain ⟨inner, henter, hinner⟩ := Origin.Admits.exists_enter h
    simp only [Node.toRaw, Raw.toValue, henter, Node.itemValues_toRaws ns hinner,
      ArrayStop.onRead, bind, Except.bind, Node.value]
  | .obj ms =>
    obtain ⟨inner, henter, hinner⟩ := Origin.Admits.exists_enter h
    simp only [Node.toRaw, Raw.toValue, henter, Node.memberValues_toRawMembers ms hinner,
      ObjectStop.onRead, bind, Except.bind, Node.value]

/-- So have the items of a list. -/
theorem Node.itemValues_toRaws (ns : List Node) {o : Origin} (h : o.Admits (Node.depths ns)) :
    itemValues o (Node.toRaws ns) = .ok (Node.values ns) := by
  match ns with
  | [] => rfl
  | n :: ns =>
    have hn := Node.toValue_toRaw n (h.mono (Nat.le_max_left _ _))
    have hns := Node.itemValues_toRaws ns (h.mono (Nat.le_max_right _ _))
    simp only [Node.toRaws, itemValues, hn, hns, bind, Except.bind, Node.values]

/-- So have the members of an object. -/
theorem Node.memberValues_toRawMembers (ms : List (String × Node)) {o : Origin}
    (h : o.Admits (Node.memberDepths ms)) :
    Json.memberValues o (Node.toRawMembers ms) = .ok (Node.memberValues ms) := by
  match ms with
  | [] => rfl
  | (k, n) :: ms =>
    have hn := Node.toValue_toRaw n (h.mono (Nat.le_max_left _ _))
    have hms := Node.memberValues_toRawMembers ms (h.mono (Nat.le_max_right _ _))
    simp only [Node.toRawMembers, Json.memberValues, hn, hms, bind, Except.bind,
      Node.memberValues]

end

mutual

/-- A text with too many levels is refused for them. -/
theorem Node.toValue_of_too_deep (n : Node) {room : Nat} (hroom : 0 < room)
    (h : room ≤ n.depth) : n.toRaw.toValue (.text room) = .error .tooDeep := by
  match n with
  | .null | .bool _ | .num _ | .str _ => exact absurd (Nat.lt_of_lt_of_le hroom h) (Nat.lt_irrefl 0)
  | .arr ns =>
    rcases Nat.lt_or_ge 1 room with hmore | hnone
    · have hinner : room - 1 ≤ Node.depths ns := by
        rw [Node.depth] at h
        omega
      have hns := Node.itemValues_of_too_deep ns (Nat.sub_pos_of_lt hmore) hinner
      simp only [Node.toRaw, Raw.toValue, Origin.enter, if_neg (Nat.not_le.mpr hmore), hns, bind,
        Except.bind]
    · simp only [Node.toRaw, Raw.toValue, Origin.enter, if_pos hnone, bind, Except.bind]
  | .obj ms =>
    rcases Nat.lt_or_ge 1 room with hmore | hnone
    · have hinner : room - 1 ≤ Node.memberDepths ms := by
        rw [Node.depth] at h
        omega
      have hms := Node.memberValues_of_too_deep ms (Nat.sub_pos_of_lt hmore) hinner
      simp only [Node.toRaw, Raw.toValue, Origin.enter, if_neg (Nat.not_le.mpr hmore), hms, bind,
        Except.bind]
    · simp only [Node.toRaw, Raw.toValue, Origin.enter, if_pos hnone, bind, Except.bind]

/-- Items of too many levels have no values. -/
theorem Node.itemValues_of_too_deep (ns : List Node) {room : Nat} (hroom : 0 < room)
    (h : room ≤ Node.depths ns) :
    itemValues (.text room) (Node.toRaws ns) = .error .tooDeep := by
  match ns with
  | [] => exact absurd (Nat.lt_of_lt_of_le hroom h) (Nat.lt_irrefl 0)
  | n :: ns =>
    rcases Nat.lt_or_ge n.depth room with hfits | hdeep
    · have hns := Node.itemValues_of_too_deep ns hroom
        (by rw [Node.depths] at h; omega)
      have hn : n.toRaw.toValue (.text room) = .ok n.value := Node.toValue_toRaw n hfits
      simp only [Node.toRaws, itemValues, hn, hns, bind, Except.bind]
    · simp only [Node.toRaws, itemValues, Node.toValue_of_too_deep n hroom hdeep, bind,
        Except.bind]

/-- Members of too many levels have no values. -/
theorem Node.memberValues_of_too_deep (ms : List (String × Node)) {room : Nat}
    (hroom : 0 < room) (h : room ≤ Node.memberDepths ms) :
    Json.memberValues (.text room) (Node.toRawMembers ms) = .error .tooDeep := by
  match ms with
  | [] => exact absurd (Nat.lt_of_lt_of_le hroom h) (Nat.lt_irrefl 0)
  | (k, n) :: ms =>
    rcases Nat.lt_or_ge n.depth room with hfits | hdeep
    · have hms := Node.memberValues_of_too_deep ms hroom
        (by rw [Node.memberDepths] at h; omega)
      have hn : n.toRaw.toValue (.text room) = .ok n.value := Node.toValue_toRaw n hfits
      simp only [Node.toRawMembers, Json.memberValues, hn, hms, bind, Except.bind]
    · simp only [Node.toRawMembers, Json.memberValues, Node.toValue_of_too_deep n hroom hdeep,
        bind, Except.bind]

end

/-! ## Values in order -/

mutual

/-- The members of every object are in increasing order of their names. -/
def IsOrdered : Json → Prop
  | arr items => AreOrdered items
  | obj members => (members.map (·.1)).Pairwise (· < ·) ∧ MembersAreOrdered members
  | null | bool _ | num _ | str _ => True

/-- All of some values are ordered. -/
def AreOrdered : List Json → Prop
  | [] => True
  | j :: js => j.IsOrdered ∧ AreOrdered js

/-- The values of all of some members are ordered. -/
def MembersAreOrdered : List (String × Json) → Prop
  | [] => True
  | (_, j) :: ms => j.IsOrdered ∧ MembersAreOrdered ms

end

mutual

/-- A value is handed on as its node is read. -/
theorem toRaw_toNode (j : Json) : j.toNode.toRaw = j.toRaw := by
  match j with
  | .null | .bool _ | .num _ | .str _ => rfl
  | .arr js => rw [toNode, Node.toRaw, toRaw, toRaws_toNodes js]
  | .obj ms => rw [toNode, Node.toRaw, toRaw, toRawMembers_toMemberNodes ms]

/-- So are the items of a list. -/
theorem toRaws_toNodes (js : List Json) : Node.toRaws (toNodes js) = toRaws js := by
  match js with
  | [] => rfl
  | j :: js => rw [toNodes, Node.toRaws, toRaws, toRaw_toNode j, toRaws_toNodes js]

/-- So are the members of an object. -/
theorem toRawMembers_toMemberNodes (ms : List (String × Json)) :
    Node.toRawMembers (toMemberNodes ms) = toRawMembers ms := by
  match ms with
  | [] => rfl
  | (k, j) :: ms =>
    rw [toMemberNodes, Node.toRawMembers, toRawMembers, toRaw_toNode j,
      toRawMembers_toMemberNodes ms]

end

/-- A member whose name is greater than all others comes last. -/
theorem insertMember_of_lt {ms : List (String × Json)} {k : String} (h : ∀ m ∈ ms, m.1 < k)
    (v : Json) : insertMember k v ms = ms ++ [(k, v)] := by
  induction ms with
  | nil => rfl
  | cons m ms ih =>
    have hm : m.1 < k := h m List.mem_cons_self
    have hne : k ≠ m.1 := fun heq => absurd (heq ▸ hm) (String.lt_irrefl _)
    rw [insertMember, if_neg (String.lt_asymm hm), if_neg hne,
      ih fun m' hm' => h m' (List.mem_cons_of_mem _ hm'), List.cons_append]

/-- Members in the order of their names are inserted where they stand. -/
theorem foldl_insertMember {ms done : List (String × Json)}
    (h : ((done ++ ms).map (·.1)).Pairwise (· < ·)) :
    ms.foldl (fun acc (k, v) => insertMember k v acc) done = done ++ ms := by
  induction ms generalizing done with
  | nil => exact (List.append_nil done).symm
  | cons m ms ih =>
    obtain ⟨k, v⟩ := m
    have hlast : ∀ m ∈ done, m.1 < k := by
      rw [List.map_append, List.pairwise_append] at h
      exact fun m hm => h.2.2 _ (List.mem_map_of_mem hm) _ List.mem_cons_self
    rw [List.append_cons] at h ⊢
    rw [List.foldl_cons]
    dsimp only
    rw [insertMember_of_lt hlast, ih h]

/-- Members in order make the object that has them as they are. -/
theorem ofMembers_of_pairwise {ms : List (String × Json)}
    (h : (ms.map (·.1)).Pairwise (· < ·)) : ofMembers ms = obj ms := by
  rw [ofMembers, foldl_insertMember (by rwa [List.nil_append]), List.nil_append]

mutual

/-- A value in order is read as itself. -/
theorem value_toNode (j : Json) (h : j.IsOrdered) : j.toNode.value = j := by
  match j, h with
  | .null, _ | .bool _, _ | .num _, _ | .str _, _ => rfl
  | .arr js, h => rw [toNode, Node.value, values_toNodes js h]
  | .obj ms, ⟨hnames, hms⟩ =>
    rw [toNode, Node.value, memberValues_toMemberNodes ms hms, ofMembers_of_pairwise hnames]

/-- The nodes of ordered values have these values. -/
theorem values_toNodes (js : List Json) (h : AreOrdered js) :
    Node.values (toNodes js) = js := by
  match js, h with
  | [], _ => rfl
  | j :: js, ⟨hj, hjs⟩ => rw [toNodes, Node.values, value_toNode j hj, values_toNodes js hjs]

/-- The nodes of ordered members have these members. -/
theorem memberValues_toMemberNodes (ms : List (String × Json)) (h : MembersAreOrdered ms) :
    Node.memberValues (toMemberNodes ms) = ms := by
  match ms, h with
  | [], _ => rfl
  | (k, j) :: ms, ⟨hj, hms⟩ =>
    rw [toMemberNodes, Node.memberValues, value_toNode j hj, memberValues_toMemberNodes ms hms]

end

/-- The node of a number is the number. -/
theorem toNode_ofNat (n : Nat) : (ofNat n).toNode = .ofNat n := rfl

/-- The node of some texts is the list of them. -/
theorem toNode_ofStrings (ss : List String) : (ofStrings ss).toNode = .arr (ss.map .str) := by
  rw [ofStrings, toNode]
  congr 1
  induction ss with
  | nil => rfl
  | cons s ss ih => rw [List.map_cons, toNodes, ih, toNode, List.map_cons]

/-! ## Readable values -/

/-- A value that is read back from what is written of it, within some levels: its members are in
order, and its numbers are integers of 64 bits. -/
structure IsReadable (levels : Nat) (j : Json) : Prop where
  ordered : j.IsOrdered
  exact : j.toNode.IsExact
  depth_le : j.toNode.depth ≤ levels

/-- A value that can be read is decoded from its node as it was. -/
theorem Decoder.Reads.value {levels : Nat} {j : Json} (h : j.IsReadable levels) :
    Decoder.value.Reads levels j.toNode j where
  exact := h.exact
  ok _ ho :=
    (Node.toValue_toRaw j.toNode (ho.mono h.depth_le)).trans
      (congrArg Except.ok (value_toNode j h.ordered))

/-- A text can be read. -/
theorem isReadable_str (levels : Nat) (s : String) : (str s).IsReadable levels :=
  ⟨trivial, trivial, Nat.zero_le _⟩

/-- A number of 64 bits can be read. -/
theorem isReadable_ofNat (levels : Nat) {n : Nat} (h : n ≤ Word.maxNat 64) :
    (ofNat n).IsReadable levels :=
  ⟨trivial, Node.isExact_ofNat h, Nat.zero_le _⟩

/-- An array is readable if its items can be read one level below. -/
theorem isReadable_arr_iff {levels : Nat} {js : List Json} :
    (arr js).IsReadable (levels + 1) ↔ ∀ j ∈ js, j.IsReadable levels := by
  have hitems : AreOrdered js ∧ Node.AreExact (toNodes js) ∧ Node.depths (toNodes js) ≤ levels ↔
      ∀ j ∈ js, j.IsReadable levels := by
    induction js with
    | nil => simp [AreOrdered, toNodes, Node.AreExact, Node.depths]
    | cons j js ih =>
      rw [List.forall_mem_cons, ← ih]
      simp only [AreOrdered, toNodes, Node.AreExact, Node.depths, Nat.max_le]
      constructor
      · rintro ⟨⟨hj, hjs⟩, ⟨hexact, hexacts⟩, hdepth, hdepths⟩
        exact ⟨⟨hj, hexact, hdepth⟩, hjs, hexacts, hdepths⟩
      · rintro ⟨⟨hj, hexact, hdepth⟩, hjs, hexacts, hdepths⟩
        exact ⟨⟨hj, hjs⟩, ⟨hexact, hexacts⟩, hdepth, hdepths⟩
  rw [← hitems]
  constructor
  · rintro ⟨hordered, hexact, hdepth⟩
    exact ⟨hordered, hexact, Nat.le_of_succ_le_succ hdepth⟩
  · rintro ⟨hordered, hexact, hdepth⟩
    exact ⟨hordered, hexact, Nat.succ_le_succ hdepth⟩

/-- A list of texts can be read, and is one level. -/
theorem isReadable_ofStrings (ss : List String) : (ofStrings ss).IsReadable 1 := by
  refine isReadable_arr_iff.mpr fun j hj => ?_
  obtain ⟨s, -, rfl⟩ := List.mem_map.mp hj
  exact isReadable_str 0 s

/-- Members can be read exactly if the value of each can. -/
theorem membersAreReadable_iff {levels : Nat} {ms : List (String × Json)} :
    MembersAreOrdered ms ∧ Node.MembersAreExact (toMemberNodes ms) ∧
      Node.memberDepths (toMemberNodes ms) ≤ levels ↔ ∀ m ∈ ms, m.2.IsReadable levels := by
  induction ms with
  | nil => simp [MembersAreOrdered, toMemberNodes, Node.MembersAreExact, Node.memberDepths]
  | cons m ms ih =>
    rw [List.forall_mem_cons, ← ih]
    simp only [MembersAreOrdered, toMemberNodes, Node.MembersAreExact, Node.memberDepths,
      Nat.max_le]
    constructor
    · rintro ⟨⟨hm, hms⟩, ⟨hexact, hexacts⟩, hdepth, hdepths⟩
      exact ⟨⟨hm, hexact, hdepth⟩, hms, hexacts, hdepths⟩
    · rintro ⟨⟨hm, hexact, hdepth⟩, hms, hexacts, hdepths⟩
      exact ⟨⟨hm, hms⟩, ⟨hexact, hexacts⟩, hdepth, hdepths⟩

/-- An object is readable if its members are in order and can be read one level below. -/
theorem isReadable_obj_iff {levels : Nat} {ms : List (String × Json)} :
    (obj ms).IsReadable (levels + 1) ↔
      (ms.map (·.1)).Pairwise (· < ·) ∧ ∀ m ∈ ms, m.2.IsReadable levels := by
  rw [← membersAreReadable_iff]
  constructor
  · rintro ⟨⟨hnames, hordered⟩, hexact, hdepth⟩
    exact ⟨hnames, hordered, hexact, Nat.le_of_succ_le_succ hdepth⟩
  · rintro ⟨hnames, hordered, hexact, hdepth⟩
    exact ⟨⟨hnames, hordered⟩, hexact, Nat.succ_le_succ hdepth⟩

/-- The text of some members in any order is read as the object that they make. -/
theorem ofText_members {levels : Nat} {ms : List (String × Json)}
    (h : ∀ m ∈ ms, m.2.IsReadable levels) (hlevels : levels + 1 < nestingLimit) :
    ofText (Node.obj (toMemberNodes ms)).toText = .ok (ofMembers ms) := by
  obtain ⟨hordered, hexact, hdepth⟩ := membersAreReadable_iff.mpr h
  have hobj : (Node.obj (toMemberNodes ms)).IsExact := hexact
  have hroom : (Origin.text nestingLimit).Admits (Node.obj (toMemberNodes ms)).depth :=
    Nat.lt_of_le_of_lt (Nat.succ_le_succ hdepth) hlevels
  have hread := Node.toValue_toRaw _ hroom
  rw [Node.value, memberValues_toMemberNodes ms hordered] at hread
  exact (decodeText_toText hobj _).trans hread

end ChatArchive.Json
