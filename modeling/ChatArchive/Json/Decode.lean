import ChatArchive.Json.Reader
import ChatArchive.Word

/-!
# Decoding

Decoders turn a tree into a value of some type.  A tree comes from a text, or from a value that
was read before; the two differ in a few faults, and only a text may not nest too deeply.

A record is decoded from an object, whose members may stand in any order, or from an array of its
fields in order.  Members that are not known are skipped, and no known one may occur twice.
-/

namespace ChatArchive.Json

/-! ## Origins and decoders -/

/-- Where a tree comes from. -/
inductive Origin where
  /-- A text, with the levels that may still be opened. -/
  | text (room : Nat)
  | value

/-- A way to decode. -/
abbrev Decoder (α : Type) := Origin → Raw → Except Fault α

/-- The levels of nesting at which a text is refused. -/
def nestingLimit : Nat := 128

/-- Open an array or an object. -/
def Origin.enter : Origin → Except Fault Origin
  | value => .ok value
  | text room => if room ≤ 1 then .error .tooDeep else .ok (text (room - 1))

/-- The fault of a tree that is not what was expected. -/
def Raw.mismatch (r : Raw) (expected : String) : Fault :=
  match r with
  | .null => .wrongType .null expected
  | .bool b => .wrongType (.bool b) expected
  | .num (.int n) => .wrongType (.int n) expected
  | .num (.float x) => .wrongType (.float x) expected
  | .str s => .wrongType (.str s) expected
  | .arr _ _ => .wrongType .sequence expected
  | .obj _ _ => .wrongType .map expected
  | .unreadable f => f
  | .broken f _ => f

/-! ## Ends of arrays and objects -/

/-- The fault of an array that is read to its end.  In an array that is cut the last item has
it. -/
def ArrayStop.onRead : ArrayStop → Option Fault
  | closed | cut => none
  | atEnd => some .listUnclosed
  | afterComma => some .trailingComma
  | endAfterComma => some .valueMissing
  | junk => some .listSeparatorExpected

/-- The fault of an array that is skipped. -/
def ArrayStop.onSkip : ArrayStop → Option Fault
  | closed | cut => none
  | atEnd => some .listUnclosed
  | afterComma => some .valueExpected
  | endAfterComma => some .valueMissing
  | junk => some .listSeparatorExpected

/-- The fault of an array of which no more items are wanted. -/
def ArrayStop.onLeave : ArrayStop → Option Fault
  | closed | cut => none
  | atEnd => some .listUnclosed
  | afterComma => some .trailingComma
  | endAfterComma | junk => some .trailingCharacters

/-- The fault of an object that is read to its end. -/
def ObjectStop.onRead : ObjectStop → Option Fault
  | closed | cut => none
  | atEnd => some .objectUnclosed
  | afterComma => some .trailingComma
  | endAfterComma => some .valueMissing
  | junk => some .objectSeparatorExpected
  | badKey => some .keyNotString
  | brokenKey f _ => some f

/-- The fault of an object that is skipped. -/
def ObjectStop.onSkip : ObjectStop → Option Fault
  | closed | cut => none
  | atEnd => some .objectUnclosed
  | afterComma => some .keyNotString
  | endAfterComma => some .objectUnclosed
  | junk => some .objectSeparatorExpected
  | badKey => some .keyNotString
  | brokenKey _ f => some f

/-! ## Skipping -/

mutual

/-- The first fault of a tree that is skipped. -/
def Raw.skipFault? : Raw → Option Fault
  | .broken _ f => some f
  | .arr items stop => (skipItems items).or stop.onSkip
  | .obj members stop => (skipMembers members).or stop.onSkip
  | .null | .bool _ | .num _ | .str _ | .unreadable _ => none

/-- The first fault among items that are skipped. -/
def skipItems : List Raw → Option Fault
  | [] => none
  | r :: rs => r.skipFault?.or (skipItems rs)

/-- The first fault among members that are skipped; the faults of their names do not count. -/
def skipMembers : List (Except Fault String × Raw) → Option Fault
  | [] => none
  | (_, r) :: ms => r.skipFault?.or (skipMembers ms)

end

/-! ## Values -/

mutual

/-- A value of any shape. -/
def Raw.toValue (o : Origin) : Raw → Except Fault Json
  | .null => .ok .null
  | .bool b => .ok (.bool b)
  | .num n => .ok (.num n)
  | .str s => .ok (.str s)
  | .unreadable f => .error f
  | .broken f _ => .error f
  | .arr items stop => do
    let inner ← o.enter
    let js ← itemValues inner items
    match stop.onRead with
    | some f => .error f
    | none => .ok (.arr js)
  | .obj members stop => do
    let inner ← o.enter
    let ms ← memberValues inner members
    match stop.onRead with
    | some f => .error f
    | none => .ok (Json.ofMembers ms)

/-- The values of some items, if all of them have one. -/
def itemValues (o : Origin) : List Raw → Except Fault (List Json)
  | [] => .ok []
  | r :: rs => do
    let j ← r.toValue o
    let js ← itemValues o rs
    .ok (j :: js)

/-- The members with their values; a name that cannot be read is a fault here. -/
def memberValues (o : Origin) :
    List (Except Fault String × Raw) → Except Fault (List (String × Json))
  | [] => .ok []
  | (.error f, _) :: _ => .error f
  | (.ok name, r) :: ms => do
    let j ← r.toValue o
    let js ← memberValues o ms
    .ok ((name, j) :: js)

end

mutual

/-- A value as a tree. -/
def toRaw : Json → Raw
  | null => .null
  | bool b => .bool b
  | num n => .num n
  | str s => .str s
  | arr items => .arr (toRaws items) .closed
  | obj members => .obj (toRawMembers members) .closed

/-- The items as trees. -/
def toRaws : List Json → List Raw
  | [] => []
  | j :: js => toRaw j :: toRaws js

/-- The members as trees, with their names. -/
def toRawMembers : List (String × Json) → List (Except Fault String × Raw)
  | [] => []
  | (k, j) :: ms => (.ok k, toRaw j) :: toRawMembers ms

end

namespace Decoder

/-! ## Simple types -/

/-- Any value. -/
def value : Decoder Json := fun o r => r.toValue o

/-- A string. -/
def string : Decoder String
  | _, .str s => .ok s
  | _, r => .error (r.mismatch "a string")

/-- A truth value. -/
def bool : Decoder Bool
  | _, .bool b => .ok b
  | _, r => .error (r.mismatch "a boolean")

/-- An integer from `low` to `high`; `name` is that of the range. -/
def integer (name : String) (low high : Int) : Decoder Int
  | _, .num (.int n) =>
    if low ≤ n ∧ n ≤ high then .ok n else .error (.wrongValue (.int n) name)
  | _, r => .error (r.mismatch name)

/-- A natural number of 32 bits. -/
def nat32 : Decoder Nat := fun o r => (integer "u32" 0 (Word.maxNat 32) o r).map Int.toNat

/-- A natural number of 64 bits. -/
def nat64 : Decoder Nat := fun o r => (integer "u64" 0 (Word.maxNat 64) o r).map Int.toNat

/-- A count, which has 64 bits as well. -/
def count : Decoder Nat := fun o r => (integer "usize" 0 (Word.maxNat 64) o r).map Int.toNat

/-- An integer of 64 bits. -/
def int64 : Decoder Int := integer "i64" (Word.minInt 64) (Word.maxInt 64)

/-- Apply a function to what is decoded. -/
def map {α β : Type} (f : α → β) (d : Decoder α) : Decoder β := fun o r => (d o r).map f

/-- Null, or a value. -/
def option {α : Type} (d : Decoder α) : Decoder (Option α)
  | _, .null => .ok none
  | o, r => (d o r).map some

/-- The items of an array. -/
def items {α : Type} (d : Decoder α) (o : Origin) : List Raw → Except Fault (List α)
  | [] => .ok []
  | r :: rs => do
    let a ← d o r
    let as ← items d o rs
    .ok (a :: as)

/-- A list, item by item; the fault of an item comes before one at its end. -/
def list {α : Type} (d : Decoder α) : Decoder (List α)
  | o, .arr rs stop => do
    let inner ← o.enter
    let as ← items d inner rs
    match stop.onRead with
    | some f => .error f
    | none => .ok as
  | _, r => .error (r.mismatch "a sequence")

/-- One of several names. -/
def oneOf {α : Type} (known : List (String × α)) : Decoder α := fun o r =>
  let named (name : String) : Except Fault α :=
    match known.find? fun k => k.1 == name with
    | some k => .ok k.2
    | none => .error (.unknownVariant name (known.map (·.1)))
  match o, r with
  | _, .str s => named s
  | .value, .obj [(.ok name, v)] _ => do
    let a ← named name
    match v with
    | .null => .ok a
    | v => .error (v.mismatch "unit")
  | .value, .obj _ _ => .error (.wrongValue .map "map with a single key")
  | .value, r => .error (r.mismatch "string or map")
  | .text _, .obj [] stop => do
    let _ ← o.enter
    match stop with
    | .atEnd => .error .valueMissing
    | .brokenKey f _ => .error f
    | _ => .error .valueExpected
  | .text _, .obj ((key, v) :: rest) stop => do
    let _ ← o.enter
    let a ← named (← key)
    match v, rest, stop with
    | .null, [], .closed => .ok a
    | .null, [], .atEnd => .error .objectUnclosed
    | .null, _, _ => .error .valueExpected
    | v, _, _ => .error (v.mismatch "unit")
  | .text _, .broken f _ =>
    match f with
    | .valueMissing => .error .valueMissing
    | .stringUnclosed | .badEscape | .controlCharacter | .loneSurrogate | .hexEscapeUnfinished =>
      .error f
    | _ => .error .valueExpected
  | .text _, _ => .error .valueExpected

end Decoder

/-! ## Records -/

/-- A field of a record. -/
structure Field (α : Type) where
  name : String
  read : Decoder α
  /-- Its value where an object has no member of the name, if it may be missing. -/
  ifMissing : Option α
  /-- Its value where an array ends before it, if it may be cut off. -/
  ifCut : Option α

namespace Field

/-- A field that has to be given. -/
def required {α : Type} (name : String) (d : Decoder α) : Field α := ⟨name, d, none, none⟩

/-- A field that may be null, or missing from an object. -/
def nullable {α : Type} (name : String) (d : Decoder α) : Field (Option α) :=
  ⟨name, d.option, some none, none⟩

/-- A field with a default. -/
def defaulted {α : Type} (name : String) (d : Decoder α) (a : α) : Field α :=
  ⟨name, d, some a, some a⟩

/-- A field that may be null or missing. -/
def optional {α : Type} (name : String) (d : Decoder α) : Field (Option α) :=
  defaulted name d.option none

end Field

/-- The fields of a record in order.  The first index is the type of a draft, in which each field
may still be open, and the second that of the complete row. -/
inductive Fields : Type → Type → Type 1 where
  | nil : Fields Unit Unit
  | cons {α δ γ : Type} (f : Field α) (rest : Fields δ γ) : Fields (Option α × δ) (α × γ)

namespace Fields

variable {δ γ : Type}

/-- The number of fields. -/
def length {δ γ : Type} : Fields δ γ → Nat
  | nil => 0
  | cons _ rest => rest.length + 1

/-- The draft in which every field is open. -/
def blank {δ γ : Type} : Fields δ γ → δ
  | nil => ()
  | cons _ rest => (none, rest.blank)

/-- Read a member into a draft; nothing if no field has the name. -/
def put {δ γ : Type} (o : Origin) (name : String) (r : Raw) :
    Fields δ γ → δ → Option (Except Fault δ)
  | nil, () => none
  | cons f rest, (slot, draft) =>
    if f.name = name then
      match slot with
      | some _ => some (.error (.duplicateField name))
      | none => some ((f.read o r).map fun a => (some a, draft))
    else
      (rest.put o name r draft).map fun result => result.map fun d => (slot, d)

/-- Read members into a draft. -/
def putAll (fs : Fields δ γ) (o : Origin) :
    List (Except Fault String × Raw) → δ → Except Fault δ
  | [], draft => .ok draft
  | (.error f, _) :: _, _ => .error f
  | (.ok name, r) :: ms, draft =>
    match fs.put o name r draft with
    | some (.ok next) => fs.putAll o ms next
    | some (.error f) => .error f
    | none =>
      match r.skipFault? with
      | some f => .error f
      | none => fs.putAll o ms draft

/-- Complete a draft. -/
def complete {δ γ : Type} : Fields δ γ → δ → Except Fault γ
  | nil, () => .ok ()
  | cons f rest, (slot, draft) =>
    match slot.or f.ifMissing with
    | some a => do
      let g ← rest.complete draft
      .ok (a, g)
    | none => .error (.missingField f.name)

/-- Read the items of an array as the fields from number `index` on; gives the items that are
left over. -/
def ofItems {δ γ : Type} (o : Origin) (expected : String) (stop : ArrayStop) (index : Nat) :
    Fields δ γ → List Raw → Except Fault (γ × List Raw)
  | nil, rs => .ok ((), rs)
  | cons f rest, r :: rs => do
    let a ← f.read o r
    let (g, left) ← rest.ofItems o expected stop (index + 1) rs
    .ok ((a, g), left)
  | cons f rest, [] =>
    match stop.onRead with
    | some fault => .error fault
    | none =>
      match f.ifCut with
      | some a => do
        let (g, left) ← rest.ofItems o expected stop (index + 1) []
        .ok ((a, g), left)
      | none => .error (.wrongLength index expected)

end Fields

/-- The fault of an array with items that are not wanted. -/
def leaveFault (o : Origin) (all left : List Raw) (stop : ArrayStop) : Option Fault :=
  match o with
  | .text _ => if left.isEmpty then stop.onLeave else some .trailingCharacters
  | .value =>
    if left.isEmpty then none else some (.wrongLength all.length "fewer elements in array")

/-- A row of fields from an array. -/
def Decoder.row {δ γ : Type} (expected : String) (fs : Fields δ γ) (o : Origin) (rs : List Raw)
    (stop : ArrayStop) : Except Fault γ := do
  let inner ← o.enter
  let (g, left) ← fs.ofItems inner expected stop 0 rs
  match leaveFault o rs left stop with
  | some f => .error f
  | none => .ok g

/-- A row of fields from an object. -/
def Decoder.rowOfObject {δ γ : Type} (fs : Fields δ γ) (o : Origin)
    (ms : List (Except Fault String × Raw)) (stop : ObjectStop) : Except Fault γ := do
  let inner ← o.enter
  let draft ← fs.putAll inner ms fs.blank
  match stop.onRead with
  | some f => .error f
  | none => fs.complete draft

/-- A number of elements in a message. -/
def elementsText (n : Nat) : String :=
  if n = 1 then "1 element" else toString n ++ " elements"

/-- A record of some fields; `title` is its name in messages. -/
def Decoder.record {δ γ α : Type} (title : String) (fs : Fields δ γ) (make : γ → α) : Decoder α
  | o, .obj ms stop => (rowOfObject fs o ms stop).map make
  | o, .arr rs stop =>
    (row ("struct " ++ title ++ " with " ++ elementsText fs.length) fs o rs stop).map make
  | _, r => .error (r.mismatch ("struct " ++ title))

/-- A pair, which is an array of two. -/
def Decoder.pair {α β : Type} (a : Decoder α) (b : Decoder β) : Decoder (α × β)
  | o, .arr rs stop =>
    (row "a tuple of size 2" (.cons (.required "0" a) (.cons (.required "1" b) .nil)) o rs
      stop).map fun (x, y, _) => (x, y)
  | _, r => .error (r.mismatch "a tuple of size 2")

/-! ## Whole texts and values -/

/-- Decode a text.  Only blanks may follow the value. -/
def decodeText {α : Type} (d : Decoder α) (s : String) : Except Fault α := do
  let (root, rest) := readDocument s.toList
  let a ← d (.text nestingLimit) root
  if (skipBlanks (rest.getD [])).isEmpty then .ok a else .error .trailingCharacters

/-- Decode a value. -/
def decodeValue {α : Type} (d : Decoder α) (j : Json) : Except Fault α := d .value j.toRaw

/-- Read a value from a text. -/
def ofText (s : String) : Except Fault Json := decodeText Decoder.value s

end ChatArchive.Json
