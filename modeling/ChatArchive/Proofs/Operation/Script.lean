import ChatArchive.Operation.Delete
import ChatArchive.Operation.Export
import ChatArchive.Operation.Fetch
import ChatArchive.Operation.Index
import ChatArchive.Proofs.Json.Member
import ChatArchive.Proofs.Text.Digits
import ChatArchive.Proofs.Text.Search

/-!
# Scripts hold their parameters

The frame of a script has its two gaps one behind the other, and building a script fills them with
a line of JSON and the body, whatever these hold (`build_eq`).  The line has no control characters,
and from it the parameters are read back as they were given (`script_fills_frame`).
-/

namespace ChatArchive

open Json

/-! ## Text on one line -/

namespace Json

/-- No control characters, and so no line breaks. -/
def IsLine (cs : List Char) : Prop := ∀ c ∈ cs, 0x20 ≤ c.toNat

/-- Nothing breaks a line. -/
theorem isLine_nil : IsLine [] := fun _ hc => absurd hc List.not_mem_nil

/-- A text stays on its line if its first character and the rest do. -/
theorem isLine_cons {c : Char} {cs : List Char} :
    IsLine (c :: cs) ↔ 0x20 ≤ c.toNat ∧ IsLine cs := List.forall_mem_cons

/-- Two texts in a row stay on their line if both do. -/
theorem isLine_append {cs ds : List Char} : IsLine (cs ++ ds) ↔ IsLine cs ∧ IsLine ds :=
  List.forall_mem_append

/-- It can be decided of a given text. -/
theorem isLine_of_all {cs : List Char} (h : cs.all (fun c => 0x20 ≤ c.toNat) = true) :
    IsLine cs := fun c hc => of_decide_eq_true (List.all_eq_true.mp h c hc)

/-- Digits stay on their line. -/
theorem isLine_digits (n : Nat) : IsLine (Nat.toDigits 10 n) := by
  intro c hc
  obtain ⟨hlow, -⟩ := (Bool.and_eq_true _ _).mp (Text.isDigit_of_mem_toDigits hc)
  have hlow : 0x30 ≤ c.toNat := of_decide_eq_true hlow
  omega

/-- So do digits in base 16. -/
theorem isLine_hexDigit : ∀ n < 16, 0x20 ≤ (hexDigit n).toNat := by decide

/-- A character stays on its line as it is written, also a line break. -/
theorem isLine_escapeChar (c : Char) : IsLine (escapeChar c) := by
  unfold escapeChar
  split_ifs with hquote hslash hn hr ht hb hf hcontrol
  any_goals exact isLine_of_all rfl
  · have hhigh := isLine_hexDigit (c.toNat / 16) (by omega)
    have hlow := isLine_hexDigit (c.toNat % 16) (by omega)
    simp only [isLine_cons, isLine_nil, hhigh, hlow]
    decide
  · exact isLine_cons.mpr ⟨Nat.le_of_not_lt hcontrol, isLine_nil⟩

/-- So does a text in quotes. -/
theorem isLine_quote (s : String) : IsLine (quote s) := by
  refine isLine_cons.mpr ⟨by decide, isLine_append.mpr ⟨fun c hc => ?_, ?_⟩⟩
  · obtain ⟨d, -, hd⟩ := List.mem_flatMap.mp hc
    exact isLine_escapeChar d c hd
  · exact isLine_cons.mpr ⟨by decide, isLine_nil⟩

/-- So does an integer. -/
theorem isLine_intText (n : Int) : IsLine (intText n) := by
  unfold intText
  split_ifs
  · exact isLine_cons.mpr ⟨by decide, isLine_digits _⟩
  · exact isLine_digits _

/-- What stands before an item or a member. -/
theorem isLine_comma (first : Bool) : IsLine (if first then [] else [',']) := by
  cases first <;> exact isLine_of_all (by decide)

mutual

/-- The compact text of a node is one line. -/
theorem isLine_compact (n : Node) (h : n.IsExact) : IsLine n.compact := by
  match n, h with
  | .null, _ | .bool true, _ | .bool false, _ => exact isLine_of_all (by decide)
  | .num (.int n), _ => exact isLine_intText n
  | .str s, _ => exact isLine_quote s
  | .arr ns, h =>
    rw [Node.compact, isLine_cons, isLine_append]
    exact ⟨by decide, isLine_compactItems ns h true, isLine_cons.mpr ⟨by decide, isLine_nil⟩⟩
  | .obj ms, h =>
    rw [Node.compact, isLine_cons, isLine_append]
    exact ⟨by decide, isLine_compactMembers ms h true, isLine_cons.mpr ⟨by decide, isLine_nil⟩⟩

/-- The compact texts of the items of a list stay on their line. -/
theorem isLine_compactItems (ns : List Node) (h : Node.AreExact ns) (first : Bool) :
    IsLine (Node.compactItems first ns) := by
  match ns, h with
  | [], _ => exact isLine_nil
  | n :: ns, ⟨hn, hns⟩ =>
    rw [Node.compactItems, isLine_append, isLine_append]
    exact ⟨⟨isLine_comma first, isLine_compact n hn⟩, isLine_compactItems ns hns false⟩

/-- So do those of the members of an object. -/
theorem isLine_compactMembers (ms : List (String × Node)) (h : Node.MembersAreExact ms)
    (first : Bool) : IsLine (Node.compactMembers first ms) := by
  match ms, h with
  | [], _ => exact isLine_nil
  | (k, n) :: ms, ⟨hn, hms⟩ =>
    simp only [Node.compactMembers, isLine_append, isLine_cons]
    exact ⟨⟨⟨isLine_comma first, isLine_quote k⟩, by decide, isLine_compact n hn⟩,
      isLine_compactMembers ms hms false⟩

end

end Json

namespace Operation

/-! ## The gaps of the frame -/

namespace Script

open Text

/-- The gap of the configuration stands before that of the body. -/
theorem configGap_before_bodyGap :
    (find? bodyGap.toList frame.toList).any
      (fun i => occursIn configGap.toList (frame.toList.take i)) = true := by
  simp only [frame, bodyGap, configGap, join, String.toList_intercalate, List.map_cons,
    List.map_nil]
  -- line by line, for to compute with a text is to decode its bytes
  repeat rw [String.toList_ofList]
  decide +kernel

/-- Building a script puts the configuration and the body in place of the gaps, and nothing else is
changed. -/
theorem build_eq :
    ∃ before between after : String,
      frame = before ++ configGap ++ between ++ bodyGap ++ after ∧
      ∀ config body, build config body = before ++ config.toText ++ between ++ body ++ after := by
  obtain ⟨before, between, after, hframe, hbuild⟩ := replaceFirst_two configGap_before_bodyGap
  refine ⟨.ofList before, .ofList between, .ofList after, ?_, fun config body => ?_⟩
  · rw [← String.toList_inj, hframe]
    simp only [String.toList_append, String.toList_ofList]
  · rw [build, hbuild]
    simp only [← String.toList_inj, String.toList_append, String.toList_ofList, Node.toText]

end Script

/-! ## Parameters -/

/-- What a task tells the page besides where the service is. -/
inductive Params where
  /-- For fetching: how many pages to ask for at most. -/
  | listing (pageCeiling : Nat)
  /-- For indexing: conversations that are fetched in batches. -/
  | batches (ids : List String) (batchSize batchDelayMillis maxContentChars : Nat)
  /-- For exporting and for deleting: conversations that have their turn one by one. -/
  | inTurn (ids : List String) (itemDelayMillis : Nat)

namespace Params

/-- The parameters by the names under which a script knows them. -/
def members : Params → List (String × Json)
  | listing pageCeiling => [("pageCeiling", .ofNat pageCeiling)]
  | batches ids batchSize batchDelayMillis maxContentChars =>
    [("ids", .ofStrings ids), ("batchSize", .ofNat batchSize),
      ("batchDelayMs", .ofNat batchDelayMillis), ("maxContentChars", .ofNat maxContentChars)]
  | inTurn ids itemDelayMillis =>
    [("ids", .ofStrings ids), ("itemDelayMs", .ofNat itemDelayMillis)]

/-- All that the configuration holds. -/
def configuration (p : Params) (context : ReadyContext) : List (String × Json) :=
  ("apiBase", .str context.apiBase) :: ("orgId", .str context.organization) :: p.members

/-- The script with these parameters. -/
def script (p : Params) (context : ReadyContext) (body : String) : String :=
  Script.build (Script.config context.apiBase context.organization (toMemberNodes p.members)) body

/-- The numbers among the parameters. -/
def numbers : Params → List Nat
  | listing pageCeiling => [pageCeiling]
  | batches _ batchSize batchDelayMillis maxContentChars =>
    [batchSize, batchDelayMillis, maxContentChars]
  | inTurn _ itemDelayMillis => [itemDelayMillis]

/-- The numbers are words of 64 bits. -/
def Fit (p : Params) : Prop := ∀ n ∈ p.numbers, n ≤ Word.maxNat 64

/-- It can be decided, for there are at most three numbers. -/
instance (p : Params) : Decidable p.Fit :=
  inferInstanceAs (Decidable (∀ n ∈ p.numbers, n ≤ Word.maxNat 64))

/-- No name is given twice in a configuration. -/
theorem nodup_configuration (p : Params) (context : ReadyContext) :
    ((p.configuration context).map (·.1)).Nodup := by
  cases p <;> simp [configuration, members]

/-- Every member of the configuration can be read, and has at most one level. -/
theorem Fit.isReadable {p : Params} (h : p.Fit) (context : ReadyContext) :
    ∀ m ∈ p.configuration context, m.2.IsReadable 1 := by
  have hnumber := fun n hn => isReadable_ofNat 1 (h n hn)
  have hids := isReadable_ofStrings
  unfold configuration
  rw [List.forall_mem_cons, List.forall_mem_cons]
  refine ⟨isReadable_str _ _, isReadable_str _ _, ?_⟩
  cases p <;> simpa [members, numbers, hids] using hnumber

end Params

/-! ## Scripts of tasks -/

/-- A script is the frame with a body and, on one line, a text from which the parameters and nothing
else are read. -/
def Fills (before between after : String) (p : Params) (context : ReadyContext)
    (body script : String) : Prop :=
  ∃ line configuration, script = before ++ line ++ between ++ body ++ after ∧
    IsLine line.toList ∧ ofText line = .ok configuration ∧
    ∀ name v, configuration.field? name = some v ↔ (name, v) ∈ p.configuration context

/-- Whatever the parameters and the body hold, the script is the frame with them in its two gaps,
and the parameters are read back from it.  The scripts of the four tasks are such scripts. -/
theorem script_fills_frame :
    ∃ before between after : String,
      Script.frame = before ++ Script.configGap ++ between ++ Script.bodyGap ++ after ∧
      (∀ (p : Params) (context : ReadyContext) (body : String), p.Fit →
        Fills before between after p context body (p.script context body)) ∧
      ∀ (settings : OperationSettings) (ids : List String) (target : Files.Path)
        (context : ReadyContext),
        (Fetch.task settings).script context =
          .ok ((Params.listing (Fetch.ceiling settings)).script context
            (Text.join "\n" Fetch.body)) ∧
        (Index.task settings ids).script context =
          .ok ((Params.batches ids (max settings.batchSize 1) settings.batchDelayMillis
            settings.maxContentChars).script context (Text.join "\n" Index.body)) ∧
        (Export.task settings ids target).script context =
          .ok ((Params.inTurn ids settings.exportDelayMillis).script context
            (Text.join "\n" Export.body)) ∧
        (Delete.task settings ids).script context =
          .ok ((Params.inTurn ids settings.deleteDelayMillis).script context
            (Text.join "\n" Delete.body)) := by
  obtain ⟨before, between, after, hframe, hbuild⟩ := Script.build_eq
  refine ⟨before, between, after, hframe, fun p context body hfit => ?_,
    fun settings ids target context => ?_⟩
  · have hreadable := hfit.isReadable context
    have hscript : p.script context body =
        before ++ (Node.obj (toMemberNodes (p.configuration context))).toText ++ between ++ body ++
          after := by
      rw [Params.script, hbuild]
      rfl
    refine ⟨_, _, hscript, ?_, ofText_members hreadable (by decide), fun name v => ?_⟩
    · rw [Node.toText, String.toList_ofList]
      exact isLine_compact _ (membersAreReadable_iff.mpr hreadable).2.1
    · exact field?_ofMembers_eq_some_iff (p.nodup_configuration context)
  · refine ⟨rfl, ?_, ?_, ?_⟩
    all_goals
      simp only [Index.task, Export.task, Delete.task, Task.scriptOf, Params.script,
        Params.members, toMemberNodes, toNode_ofStrings, toNode_ofNat, Task.idsParam]

/-- Parameters, context and body that look like the gaps of the frame are filled in as they are. -/
theorem script_fills_frame_with_gaps :
    let p := Params.inTurn ["__BODY__", "__CONFIG__", "\"\\\n\x00"] 300
    let context := ReadyContext.mk "__CONFIG__" "__BODY__"
    p.Fit ∧ ∃ before between after : String,
      Script.frame = before ++ Script.configGap ++ between ++ Script.bodyGap ++ after ∧
      Fills before between after p context "__CONFIG__" (p.script context "__CONFIG__") := by
  intro p context
  have hfit : p.Fit := by decide
  obtain ⟨before, between, after, hframe, hfills, -⟩ := script_fills_frame
  exact ⟨hfit, before, between, after, hframe, hfills p context _ hfit⟩

end Operation

end ChatArchive
