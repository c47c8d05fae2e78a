import ChatArchive.Json.Reader

/-!
# Ways to write a node

`Spells n cs` says that a text is one of those that may be written of a node: blanks may stand
before and behind every item and member, and behind a colon.  Numbers are integers of 64 bits.  The
compact text of a node spells it, and so does the indented one (`spells_compact`, `spells_pretty`).
-/

namespace ChatArchive.Json

/-! ## Exact nodes -/

mutual

/-- All numbers of a node are integers of 64 bits. -/
def Node.IsExact : Node → Prop
  | .num (.int n) => Word.holds 64 n = true
  | .num (.float _) => False
  | .arr items => Node.AreExact items
  | .obj members => Node.MembersAreExact members
  | .null | .bool _ | .str _ => True

/-- All of some nodes are exact. -/
def Node.AreExact : List Node → Prop
  | [] => True
  | n :: ns => n.IsExact ∧ Node.AreExact ns

/-- The values of all of some members are exact. -/
def Node.MembersAreExact : List (String × Node) → Prop
  | [] => True
  | (_, n) :: ms => n.IsExact ∧ Node.MembersAreExact ms

end

/-- A number of 64 bits is exact. -/
theorem Node.isExact_ofNat {n : Nat} (h : n ≤ Word.maxNat 64) : (Node.ofNat n).IsExact := by
  have hleast : Word.minInt 64 ≤ 0 := by decide
  change Word.holds 64 n = true
  rw [Word.holds, Bool.and_eq_true, decide_eq_true_iff, decide_eq_true_iff]
  omega

/-! ## Spelling -/

/-- Nothing but blanks. -/
def IsGap (cs : List Char) : Prop := ∀ c ∈ cs, isJsonBlank c = true

/-- There need not be anything in a gap. -/
theorem isGap_nil : IsGap [] := fun _ hc => absurd hc List.not_mem_nil

/-- A line break and the indentation behind it are a gap. -/
theorem isGap_newLine (level : Nat) : IsGap (newLine level) := by
  intro c hc
  rcases List.mem_cons.mp hc with rfl | hc
  · rfl
  · rw [List.eq_of_mem_replicate hc]
    rfl

/-- What stands before an item or a member: a comma, unless it is the first, and blanks. -/
def separator (first : Bool) (gap : List Char) : List Char := (if first then [] else [',']) ++ gap

mutual

/-- A text is written of a node. -/
inductive Spells : Node → List Char → Prop where
  | null : Spells .null "null".toList
  | bool (b : Bool) : Spells (.bool b) (if b then "true" else "false").toList
  | int {n : Int} (h : Word.holds 64 n = true) : Spells (.num (.int n)) (intText n)
  | str (s : String) : Spells (.str s) (quote s)
  | arr {ns : List Node} {cs : List Char} (h : SpellsItems true ns cs) :
    Spells (.arr ns) ('[' :: (cs ++ [']']))
  | obj {ms : List (String × Node)} {cs : List Char} (h : SpellsMembers true ms cs) :
    Spells (.obj ms) ('\x7b' :: (cs ++ ['\x7d']))

/-- A text is written of the items that are left of an array. -/
inductive SpellsItems : Bool → List Node → List Char → Prop where
  | nil (first : Bool) {gap : List Char} (hgap : IsGap gap) : SpellsItems first [] gap
  | cons (first : Bool) {n : Node} {ns : List Node} {gap cs rest : List Char} (hgap : IsGap gap)
    (hitem : Spells n cs) (hrest : SpellsItems false ns rest) :
    SpellsItems first (n :: ns) (separator first gap ++ (cs ++ rest))

/-- A text is written of the members that are left of an object. -/
inductive SpellsMembers : Bool → List (String × Node) → List Char → Prop where
  | nil (first : Bool) {gap : List Char} (hgap : IsGap gap) : SpellsMembers first [] gap
  | cons (first : Bool) (k : String) {n : Node} {ms : List (String × Node)}
    {gap space cs rest : List Char} (hgap : IsGap gap) (hspace : IsGap space)
    (hvalue : Spells n cs) (hrest : SpellsMembers false ms rest) :
    SpellsMembers first ((k, n) :: ms)
      (separator first gap ++ (quote k ++ ':' :: (space ++ (cs ++ rest))))

end

/-! ## Compact form -/

mutual

/-- The compact text of a node spells it. -/
theorem spells_compact (n : Node) (h : n.IsExact) : Spells n n.compact := by
  match n, h with
  | .null, _ => exact .null
  | .bool b, _ => exact .bool b
  | .num (.int _), h => exact .int h
  | .str s, _ => exact .str s
  | .arr ns, h => exact .arr (spellsItems_compact ns h true)
  | .obj ms, h => exact .obj (spellsMembers_compact ms h true)

/-- The compact texts of some nodes spell these. -/
theorem spellsItems_compact (ns : List Node) (h : Node.AreExact ns) (first : Bool) :
    SpellsItems first ns (Node.compactItems first ns) := by
  match ns, h with
  | [], _ => exact .nil first isGap_nil
  | n :: ns, ⟨hn, hns⟩ =>
    have hrest := spellsItems_compact ns hns false
    have hall := SpellsItems.cons first isGap_nil (spells_compact n hn) hrest
    rwa [separator, List.append_nil, ← List.append_assoc] at hall

/-- The compact texts of some members spell these. -/
theorem spellsMembers_compact (ms : List (String × Node)) (h : Node.MembersAreExact ms)
    (first : Bool) : SpellsMembers first ms (Node.compactMembers first ms) := by
  match ms, h with
  | [], _ => exact .nil first isGap_nil
  | (k, n) :: ms, ⟨hn, hms⟩ =>
    have hrest := spellsMembers_compact ms hms false
    have hall := SpellsMembers.cons first k isGap_nil isGap_nil (spells_compact n hn) hrest
    rw [separator, List.append_nil, List.nil_append] at hall
    simpa only [Node.compactMembers, List.append_assoc, List.cons_append] using hall

end

/-! ## Indented form -/

mutual

/-- The indented text of a node spells it. -/
theorem spells_pretty (n : Node) (h : n.IsExact) (level : Nat) : Spells n (n.pretty level) := by
  match n, h with
  | .null, _ => exact .null
  | .bool b, _ => exact .bool b
  | .num (.int _), h => exact .int h
  | .str s, _ => exact .str s
  | .arr [], _ => exact .arr (.nil true isGap_nil)
  | .obj [], _ => exact .obj (.nil true isGap_nil)
  | .arr (n :: ns), h => exact .arr (spellsItems_pretty (n :: ns) h true (level + 1) level)
  | .obj (m :: ms), h => exact .obj (spellsMembers_pretty (m :: ms) h true (level + 1) level)

/-- The items of an array with the new line before its end. -/
theorem spellsItems_pretty (ns : List Node) (h : Node.AreExact ns) (first : Bool)
    (level close : Nat) :
    SpellsItems first ns (Node.prettyItems level first ns ++ newLine close) := by
  match ns, h with
  | [], _ => exact .nil first (isGap_newLine close)
  | n :: ns, ⟨hn, hns⟩ =>
    have hrest := spellsItems_pretty ns hns false level close
    have hall := SpellsItems.cons first (isGap_newLine level) (spells_pretty n hn level) hrest
    simpa only [Node.prettyItems, separator, List.append_assoc] using hall

/-- The members of an object with the new line before its end. -/
theorem spellsMembers_pretty (ms : List (String × Node)) (h : Node.MembersAreExact ms)
    (first : Bool) (level close : Nat) :
    SpellsMembers first ms (Node.prettyMembers level first ms ++ newLine close) := by
  match ms, h with
  | [], _ => exact .nil first (isGap_newLine close)
  | (k, n) :: ms, ⟨hn, hms⟩ =>
    have hspace : IsGap [' '] := by simp [IsGap, isJsonBlank]
    have hrest := spellsMembers_pretty ms hms false level close
    have hall :=
      SpellsMembers.cons first k (isGap_newLine level) hspace (spells_pretty n hn level) hrest
    simpa only [Node.prettyMembers, separator, List.append_assoc, List.cons_append,
      List.nil_append] using hall

end

end ChatArchive.Json
