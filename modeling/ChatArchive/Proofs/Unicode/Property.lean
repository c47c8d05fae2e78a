import ChatArchive.Proofs.Unicode.CharSet
import ChatArchive.Unicode.Property

/-!
# Properties and their tables

A character has a property if one of its categories or of the tables added to them names it, and no
table removed from them does (`contains_members`).  Looking the tables up range by range decides
this without sorting them: a table whose lines keep apart from some ranges names no character in
those (`not_contains_ofText`).
-/

namespace ChatArchive.Unicode

open CharSet (Holds)

/-! ## Tables -/

/-- Does no range of the line reach one of the given ranges? -/
def apart (ranges : List (Nat × Nat)) (line : List Char) : Bool :=
  (CharSet.rangesOfText line).all fun r => ranges.all fun s => r.2 < s.1 || s.2 < r.1

/-- No line of the table reaches one of the ranges. -/
def Apart (ranges : List (Nat × Nat)) (table : List String) : Prop :=
  ∀ line ∈ table, apart ranges line.toList = true

variable {ranges : List (Nat × Nat)}

/-- The empty table is apart from any ranges. -/
theorem apart_nil : Apart ranges [] := fun _ hline => absurd hline List.not_mem_nil

/-- A table is checked line by line. -/
theorem apart_cons {line : List Char} {table : List String} (hline : apart ranges line = true)
    (htable : Apart ranges table) : Apart ranges (String.ofList line :: table) := by
  refine List.forall_mem_cons.mpr ⟨?_, htable⟩
  rwa [String.toList_ofList]

/-- A line that is apart from the ranges holds nothing that they hold. -/
theorem not_holds_of_apart {line : List Char} (hline : apart ranges line = true) {n : Nat}
    (hn : Holds ranges n) : ¬ Holds (CharSet.rangesOfText line) n := by
  rintro ⟨r, hr, hlo, hhi⟩
  obtain ⟨s, hs, hslo, hshi⟩ := hn
  have hrs := List.all_eq_true.mp (List.all_eq_true.mp hline r hr) s hs
  simp only [Bool.or_eq_true, decide_eq_true_eq] at hrs
  omega

/-- A set that is read from such a table has none of their characters. -/
theorem not_contains_ofText {table : List String} (htable : Apart ranges table) {c : Char}
    (hc : Holds ranges c.toNat) : (CharSet.ofText table).contains c = false := by
  rw [← Bool.not_eq_true, CharSet.contains_ofText]
  rintro ⟨line, hline, hholds⟩
  exact not_holds_of_apart (htable line hline) hc hholds

/-! ## Properties -/

/-- A property is had through a category or an addition, unless it is removed. -/
theorem contains_members (p : Property) (c : Char) : p.members.contains c =
    ((p.categories.any (fun k => k.members.contains c) || (CharSet.ofText p.added).contains c) &&
      !(CharSet.ofText p.removed).contains c) := by
  have hsets : ∀ s ∈ p.categories.map Category.members, s.Ordered := by
    intro s hs
    obtain ⟨k, -, rfl⟩ := List.mem_map.mp hs
    exact CharSet.ordered_ofText _
  have hordered : (Category.membersOf p.categories).Ordered := CharSet.ordered_unions _
  rw [Property.members, CharSet.contains_difference (CharSet.ordered_union _ _)
    (CharSet.ordered_ofText _), CharSet.contains_union hordered (CharSet.ordered_ofText _),
    Category.membersOf, CharSet.contains_unions hsets, List.any_map]
  rfl

/-- A property misses some ranges if none of its categories reaches them and no addition does. -/
theorem not_contains_members {p : Property} (hcategories : ∀ k ∈ p.categories, Apart ranges k.table)
    (hadded : Apart ranges p.added) {c : Char} (hc : Holds ranges c.toNat) :
    p.members.contains c = false := by
  have hnone : (p.categories.any fun k => k.members.contains c) = false := by
    rw [List.any_eq_false]
    intro k hk
    rw [Category.members, not_contains_ofText (hcategories k hk) hc]
    exact Bool.false_ne_true
  rw [contains_members, hnone, not_contains_ofText hadded hc]
  rfl

end ChatArchive.Unicode
