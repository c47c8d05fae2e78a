import ChatArchive.Operation.Delete
import ChatArchive.Operation.Export
import ChatArchive.Operation.Fetch
import ChatArchive.Operation.Index
import ChatArchive.Proofs.Json.Uniform

/-!
# Values that are handed over as texts

The answer to a poll, the result in it and the data of the result are each handed over as a value
or as the text of a value.  It makes no difference which: the decoders of a task are uniform
(`Decoder.IsUniform`), so that a text that is decoded where it arrives gives what the value would
have given, up to the faults of what cannot be decoded (`text_or_value`).
-/

namespace ChatArchive

open Json

namespace Operation

/-- The result of a script that hands over a list under a name. -/
def resultOf (name : String) (things : List Json) : ScriptResult :=
  ⟨true, none, some (.obj [(name, .arr things)])⟩

/-! ## Outcomes that are alike -/

/-- What a failure is about, whatever its details. -/
inductive FailureKind where
  | cancelled
  | timedOut
  | loginExpired
  | noOrganization
  | session
  | injection
  | script
  | payload
  | output
  deriving Repr, DecidableEq

/-- The kind of a failure. -/
def Failure.kind : Failure → FailureKind
  | cancelled => .cancelled
  | timedOut _ => .timedOut
  | loginExpired => .loginExpired
  | noOrganization => .noOrganization
  | session _ => .session
  | injection _ => .injection
  | script _ => .script
  | payload _ => .payload
  | output _ => .output

variable {α β : Type}

/-- Two outcomes are the same, or failures of the same kind. -/
def Alike (x y : Except Failure α) : Prop := x.mapError Failure.kind = y.mapError Failure.kind

/-- Every outcome is like itself. -/
theorem Alike.refl (x : Except Failure α) : Alike x x := rfl

/-- Being alike carries over. -/
theorem Alike.trans {x y z : Except Failure α} (h : Alike x y) (h' : Alike y z) : Alike x z :=
  Eq.trans h h'

/-- Alike outcomes are both results, and then the same, or both failures. -/
theorem Alike.cases {x y : Except Failure α} (h : Alike x y) :
    (∃ a, x = .ok a ∧ y = .ok a) ∨
      ∃ f g, x = .error f ∧ y = .error g ∧ f.kind = g.kind := by
  cases x with
  | ok a =>
    cases y with
    | ok b =>
      obtain rfl : a = b := by simpa [Alike, Except.mapError] using h
      exact .inl ⟨a, rfl, rfl⟩
    | error g => simp [Alike, Except.mapError] at h
  | error f =>
    cases y with
    | ok b => simp [Alike, Except.mapError] at h
    | error g => exact .inr ⟨f, g, rfl, rfl, by simpa [Alike, Except.mapError] using h⟩

/-- Alike outcomes are alike after the same step. -/
theorem Alike.bind {x y : Except Failure α} (h : Alike x y) (k : α → Except Failure β) :
    Alike (x >>= k) (y >>= k) := by
  rcases h.cases with ⟨a, rfl, rfl⟩ | ⟨f, g, rfl, rfl, hkind⟩
  · exact Alike.refl (k a)
  · exact congrArg Except.error hkind

/-! ## Handing over -/

/-- How a value is handed over. -/
inductive Form where
  | value
  | text
  deriving Repr, DecidableEq

/-- A value as it is handed over. -/
def Form.give : Form → Json → Json
  | value, j => j
  | text, j => .str j.toText

/-- A decoding fault as a failure. -/
def refused (x : Except Fault α) : Except Failure α := x.mapError .payload

/-- Decodings that agree on what they decode are alike. -/
theorem alike_refused {x y : Except Fault α} (h : x.toOption = y.toOption) :
    Alike (refused x) (refused y) := by
  cases x <;> cases y <;> simp_all [Except.toOption, Alike, refused, Except.mapError, Failure.kind]

/-- A change of what was decoded can be made before or after faults become failures. -/
theorem refused_map (x : Except Fault α) (f : α → β) :
    (refused x).map f = refused (x.map f) := by
  cases x <;> rfl

/-- Turning faults into failures by cases is the same. -/
theorem match_eq_refused (x : Except Fault α) : (match x with
    | .ok a => Except.ok a
    | .error f => Except.error (Failure.payload f)) = refused x := by
  cases x <;> rfl

/-- A text is decoded as the text of a value. -/
theorem decodeReply_str (d : Decoder α) (s : String) :
    decodeReply d (.str s) = refused (decodeText d s) :=
  match_eq_refused _

/-- What is no text is decoded as the value that it is. -/
theorem decodeReply_of_ne_str (d : Decoder α) {j : Json} (h : ∀ s, j ≠ .str s) :
    decodeReply d j = refused (decodeValue d j) := by
  cases j with
  | str s => exact absurd rfl (h s)
  | null | bool | num | arr | obj => exact match_eq_refused _

/-- An object is no text. -/
theorem ne_str_obj (ms : List (String × Json)) : ∀ s, obj ms ≠ .str s := by
  intro s h
  cases h

/-- It does not matter how a value is handed over. -/
theorem alike_decodeReply_give {d : Decoder α} (hd : d.IsUniform) {levels : Nat} {j : Json}
    (hj : j.IsReadable levels) (hlevels : levels < nestingLimit) (hstr : ∀ s, j ≠ .str s)
    (form : Form) : Alike (decodeReply d (form.give j)) (decodeReply d j) := by
  cases form with
  | value => exact Alike.refl _
  | text =>
    rw [Form.give, decodeReply_str, decodeReply_of_ne_str d hstr]
    exact alike_refused (hd.decodeText_toText hj.exact (Nat.lt_of_le_of_lt hj.depth_le hlevels))

/-- A value that can be read can be read in any form. -/
theorem isReadable_give {levels : Nat} {j : Json} (hj : j.IsReadable levels) (form : Form) :
    (form.give j).IsReadable levels := by
  cases form with
  | value => exact hj
  | text => exact isReadable_str _ _

/-! ## The states of polls -/

/-- A value, where null counts as nothing. -/
def notNull : Json → Option Json
  | .null => none
  | j => some j

/-- The value of a member, where null counts as nothing. -/
def given? (name : String) (j : Json) : Option Json := (j.field? name).bind notNull

/-- A member that is missing and one that is null count the same. -/
theorem getD_given? (name : String) (j : Json) :
    (given? name j).getD .null = (j.field? name).getD .null := by
  rw [given?]
  cases j.field? name with
  | none => rfl
  | some v => cases v <;> rfl

/-- What is given is a member. -/
theorem field?_of_given? {name : String} {j r : Json} (h : given? name j = some r) :
    j.field? name = some r := by
  obtain ⟨v, hv, hr⟩ := Option.bind_eq_some_iff.mp h
  cases v with
  | null => cases hr
  | bool | num | str | arr | obj => rwa [← Option.some.inj hr]

/-- A member that may be missing or null is read as it is. -/
theorem optional_value {levels : Nat} {ms : List (String × Json)}
    (h : (obj ms).IsReadable (levels + 1)) (name : String) :
    ((obj ms).field? name).elim (some none)
        (fun j => (Decoder.value.option .value j.toRaw).toOption) =
      some (given? name (obj ms)) := by
  rw [given?]
  cases hj : (obj ms).field? name with
  | none => rfl
  | some j =>
    have hreadable := (isReadable_obj_iff.mp h).2 _ (mem_of_field? hj)
    have hread : Decoder.value .value j.toRaw = .ok j := by
      rw [← toRaw_toNode]
      exact (Decoder.Reads.value hreadable).ok .value trivial
    cases j with
    | null => rfl
    | bool | num | str | arr | obj =>
      exact congrArg (fun x => (x.map some).toOption) hread

/-- The state of a page is decoded alike from values and texts. -/
theorem uniform_pollState : PollState.decoder.IsUniform :=
  .record (.cons ((Decoder.IsUniform.integer ..).map Int.toNat) (by decide)
    (.cons .bool (by decide) (.cons (.option .value) (by decide) .nil))) _ _

/-- The counter of a reply, and whether the work is done. -/
def reading? (p : Json) : Option (Nat × Bool) :=
  ((p.field? "progress").elim (some 0) fun j => (Decoder.nat64 .value j.toRaw).toOption).bind
    fun count =>
      ((p.field? "done").elim (some false) fun j => (Decoder.bool .value j.toRaw).toOption).map
        fun done => (count, done)

/-- The state of a reply has the result that is in the reply. -/
theorem decodeValue_pollState {levels : Nat} {ms : List (String × Json)}
    (h : (obj ms).IsReadable (levels + 1)) :
    (decodeValue PollState.decoder (obj ms)).toOption =
      (reading? (obj ms)).map fun v => ⟨v.1, v.2, given? "result" (obj ms)⟩ := by
  rw [PollState.decoder, decodeValue_record (by decide)]
  simp only [Fields.gather, Fields.readOne_toMemberNodes h.nodup, Field.optional,
    Field.defaulted, optional_value h, Option.bind_some, Option.map_some]
  rw [reading?]
  cases ((obj ms).field? "progress").elim (some 0)
    fun j => (Decoder.nat64 .value j.toRaw).toOption with
  | none => rfl
  | some count =>
    cases ((obj ms).field? "done").elim (some false)
      fun j => (Decoder.bool .value j.toRaw).toOption <;> rfl

/-! ## The data of results -/

/-- The result of a script is decoded alike from values and texts. -/
theorem uniform_scriptResult : ScriptResult.decoder.IsUniform :=
  .record (.cons .bool (by decide)
    (.cons (.option .string) (by decide) (.cons (.option .value) (by decide) .nil))) _ _

/-- Whether a script succeeded, and its error. -/
def verdict? (r : Json) : Option (Bool × Option String) :=
  ((r.field? "success").elim none fun j => (Decoder.bool .value j.toRaw).toOption).bind
    fun success =>
      ((r.field? "error").elim (some none) fun j =>
        (Decoder.string.option .value j.toRaw).toOption).map fun error => (success, error)

/-- A result has the data that are in it. -/
theorem decodeValue_scriptResult {levels : Nat} {ms : List (String × Json)}
    (h : (obj ms).IsReadable (levels + 1)) :
    (decodeValue ScriptResult.decoder (obj ms)).toOption =
      (verdict? (obj ms)).map fun v => ⟨v.1, v.2, given? "data" (obj ms)⟩ := by
  rw [ScriptResult.decoder, decodeValue_record (by decide)]
  simp only [Fields.gather, Fields.readOne_toMemberNodes h.nodup, Field.required, Field.optional,
    Field.defaulted, optional_value h, Option.bind_some, Option.map_some]
  rw [verdict?]
  cases ((obj ms).field? "success").elim none
    fun j => (Decoder.bool .value j.toRaw).toOption with
  | none => rfl
  | some success =>
    cases ((obj ms).field? "error").elim (some none)
      fun j => (Decoder.string.option .value j.toRaw).toOption <;> rfl

/-- What a task decodes of a result. -/
def payloadOf (d : Decoder α) (r : Json) : Except Failure α := do
  (← decodeReply ScriptResult.decoder r).dataAs d

/-- Two decoded values that differ in what is made of one go on alike if what follows does. -/
theorem alike_bind_refused {γ : Type} {x y : Except Fault α} {o : Option γ} {f g : γ → α}
    (hx : x.toOption = o.map f) (hy : y.toOption = o.map g) {k : α → Except Failure β}
    (h : ∀ c, Alike (k (f c)) (k (g c))) : Alike (refused x >>= k) (refused y >>= k) := by
  cases o with
  | none =>
    cases x with
    | ok a => simp [Except.toOption] at hx
    | error f =>
      cases y with
      | ok b => simp [Except.toOption] at hy
      | error g => rfl
  | some c =>
    cases x with
    | error f => simp [Except.toOption] at hx
    | ok a =>
      cases y with
      | error g => simp [Except.toOption] at hy
      | ok b =>
        obtain rfl := Option.some.inj hx
        obtain rfl := Option.some.inj hy
        exact h c

/-- It does not matter how the data of a result are handed over. -/
theorem alike_payloadOf_data {d : Decoder α} (hd : d.IsUniform) {levels : Nat}
    {ms : List (String × Json)} (h : (obj ms).IsReadable (levels + 1))
    (hlevels : levels < nestingLimit)
    (hdata : ∀ j, (obj ms).field? "data" = some j → ∀ s, j ≠ .str s) (form : Form) :
    Alike (payloadOf d ((obj ms).modifyField "data" form.give)) (payloadOf d (obj ms)) := by
  have hgiven := field?_modifyField "data" form.give ms
  have hverdict : verdict? ((obj ms).modifyField "data" form.give) = verdict? (obj ms) := by
    rw [verdict?, verdict?, hgiven, hgiven, if_neg (by decide), if_neg (by decide)]
  have hfield := hgiven "data"
  rw [if_pos rfl] at hfield
  have hafter : (decodeValue ScriptResult.decoder
      ((obj ms).modifyField "data" form.give)).toOption =
        (verdict? (obj ms)).map fun v =>
          ⟨v.1, v.2, given? "data" ((obj ms).modifyField "data" form.give)⟩ := by
    rw [← hverdict]
    exact decodeValue_scriptResult (h.modifyField fun _ _ hv => isReadable_give hv form)
  have hne : ∀ s, (obj ms).modifyField "data" form.give ≠ .str s := ne_str_obj _
  unfold payloadOf
  rw [decodeReply_of_ne_str _ (ne_str_obj ms), decodeReply_of_ne_str _ hne]
  -- the two results differ in their data only, which count if the script succeeded
  refine alike_bind_refused hafter (decodeValue_scriptResult h) fun v => ?_
  unfold ScriptResult.dataAs
  dsimp only
  rw [getD_given?, getD_given?, hfield]
  cases v.1 with
  | false => exact Alike.refl _
  | true =>
    cases hj : (obj ms).field? "data" with
    | none => exact Alike.refl _
    | some j =>
      have hreadable := (isReadable_obj_iff.mp h).2 _ (mem_of_field? hj)
      exact alike_decodeReply_give hd hreadable hlevels (hdata j hj) form

/-! ## Merges -/

/-- A task goes by the data that it decodes of a result, and changes nothing if it cannot. -/
structure Task.GoesBy {γ : Type} (task : Task α) (d : Decoder γ) : Prop where
  refuses : ∀ {clock s w f}, s.dataAs d = .error f → task.merge clock s w = (w, .error f)
  congr : ∀ {clock s s' w a}, s.dataAs d = .ok a → s'.dataAs d = .ok a →
    task.merge clock s w = task.merge clock s' w

/-- What the merge of a task makes of a result. -/
def mergeReply (task : Task α) (clock : Clock) (w : Workspace) (r : Json) :
    Workspace × Except Failure α :=
  match decodeReply ScriptResult.decoder r with
  | .error f => (w, .error f)
  | .ok s => task.merge clock s w

/-- A task gets the same data from two results and makes the same of them. -/
structure Task.Equates {γ : Type} (task : Task α) (d : Decoder γ) (r r' : Json) : Prop where
  payload : Alike (payloadOf d r) (payloadOf d r')
  workspace : ∀ clock w, (mergeReply task clock w r).1 = (mergeReply task clock w r').1
  outcome : ∀ clock w, Alike (mergeReply task clock w r).2 (mergeReply task clock w r').2

/-- If the data of a result cannot be decoded, nothing is merged. -/
theorem Task.GoesBy.mergeReply_of_error {γ : Type} {task : Task α} {d : Decoder γ}
    (h : task.GoesBy d) {r : Json} {f : Failure} (hr : payloadOf d r = .error f) (clock : Clock)
    (w : Workspace) : mergeReply task clock w r = (w, .error f) := by
  rw [payloadOf] at hr
  rw [mergeReply]
  cases hs : decodeReply ScriptResult.decoder r with
  | error g =>
    rw [hs] at hr
    obtain rfl := Except.error.inj hr
    rfl
  | ok s =>
    rw [hs] at hr
    exact h.refuses hr

/-- Data that were decoded come from a result that was. -/
theorem exists_of_payloadOf {γ : Type} {d : Decoder γ} {r : Json} {a : γ}
    (hr : payloadOf d r = .ok a) :
    ∃ s, decodeReply ScriptResult.decoder r = .ok s ∧ s.dataAs d = .ok a := by
  rw [payloadOf] at hr
  cases hs : decodeReply ScriptResult.decoder r with
  | error f =>
    rw [hs] at hr
    cases hr
  | ok s =>
    rw [hs] at hr
    exact ⟨s, rfl, hr⟩

/-- Two results with the same data are the same to a task. -/
theorem Task.GoesBy.equates {γ : Type} {task : Task α} {d : Decoder γ} (h : task.GoesBy d)
    {r r' : Json} (hr : Alike (payloadOf d r) (payloadOf d r')) : task.Equates d r r' := by
  have hmerges : ∀ clock w, (mergeReply task clock w r).1 = (mergeReply task clock w r').1 ∧
      Alike (mergeReply task clock w r).2 (mergeReply task clock w r').2 := by
    intro clock w
    rcases hr.cases with ⟨a, hok, hok'⟩ | ⟨f, g, herror, herror', hkind⟩
    · obtain ⟨s, hs, hdata⟩ := exists_of_payloadOf hok
      obtain ⟨s', hs', hdata'⟩ := exists_of_payloadOf hok'
      have hsame : mergeReply task clock w r = mergeReply task clock w r' := by
        rw [mergeReply, mergeReply, hs, hs']
        exact h.congr hdata hdata'
      rw [hsame]
      exact ⟨rfl, Alike.refl _⟩
    · rw [h.mergeReply_of_error herror, h.mergeReply_of_error herror']
      exact ⟨rfl, congrArg Except.error hkind⟩
  exact ⟨hr, fun clock w => (hmerges clock w).1, fun clock w => (hmerges clock w).2⟩

/-! ## The four tasks -/

/-- Pages are decoded alike from values and texts. -/
theorem uniform_fetch : Fetch.decoder.IsUniform :=
  have item : ListingItem.decoder.IsUniform :=
    .record (.cons .string (by decide) (.cons (.option .string) (by decide)
      (.cons (Decoder.IsUniform.value.map timestamp?) (by decide) .nil))) _ _
  have page : ListingPage.decoder.IsUniform :=
    .record (.cons (.option .string) (by decide) (.cons (.option .string) (by decide)
      (.cons item.list (by decide) .nil))) _ _
  .record (.cons page.list (by decide) .nil) _ _

/-- So are items of contents. -/
theorem uniform_index : Index.decoder.IsUniform :=
  have item : Index.itemDecoder.IsUniform :=
    .record (.cons .string (by decide) (.cons .string (by decide)
      (.cons (.option .string) (by decide) .nil))) _ _
  .record (.cons item.list (by decide) .nil) _ _

/-- So are items of an export. -/
theorem uniform_export : Export.decoder.IsUniform :=
  have item : Export.itemDecoder.IsUniform :=
    .record (.cons .string (by decide) (.cons (.option .value) (by decide)
      (.cons (.option .string) (by decide) .nil))) _ _
  .record (.cons item.list (by decide) .nil) _ _

/-- So are results of deletions. -/
theorem uniform_delete : Delete.decoder.IsUniform :=
  have result : Delete.resultDecoder.IsUniform :=
    .record (.cons .string (by decide) (.cons .bool (by decide)
      (.cons (.option .string) (by decide) .nil))) _ _
  .record (.cons result.list (by decide) .nil) _ _

/-- A fetch goes by its pages. -/
theorem goesBy_fetch (settings : OperationSettings) :
    (Fetch.task settings).GoesBy Fetch.decoder where
  refuses h := by simp only [Fetch.task, Fetch.merge, h]
  congr h h' := by simp only [Fetch.task, Fetch.merge, h, h']

/-- Indexing goes by its items. -/
theorem goesBy_index (settings : OperationSettings) (ids : List String) :
    (Index.task settings ids).GoesBy Index.decoder where
  refuses h := by simp only [Index.task, Index.merge, h]
  congr h h' := by simp only [Index.task, Index.merge, h, h']

/-- An export goes by its items. -/
theorem goesBy_export (settings : OperationSettings) (ids : List String) (target : Files.Path) :
    (Export.task settings ids target).GoesBy Export.decoder where
  refuses h := by simp only [Export.task, Export.merge, h]
  congr h h' := by simp only [Export.task, Export.merge, h, h']

/-- A deletion goes by its results. -/
theorem goesBy_delete (settings : OperationSettings) (ids : List String) :
    (Delete.task settings ids).GoesBy Delete.decoder where
  refuses h := by simp only [Delete.task, Delete.merge, h]
  congr h h' := by simp only [Delete.task, Delete.merge, h, h']

/-! ## Replies with a result with data -/

/-- A reply of the page: an object that can be read from its text, where a result, if there is one,
is an object and its data, if there are any, are no text. -/
structure IsReply (p : Json) : Prop where
  isObject : ∃ ms, p = .obj ms
  readable : p.IsReadable (nestingLimit - 1)
  result : ∀ r, given? "result" p = some r → ∃ ms, r = .obj ms
  data : ∀ r, given? "result" p = some r → ∀ j, r.field? "data" = some j → ∀ s, j ≠ .str s

/-- A result that is handed over in one form with its data in another.  While there is none, null
stands in its place. -/
def handResult (result data : Form) : Json → Json
  | .null => .null
  | r => result.give (r.modifyField "data" data.give)

/-- A reply that is handed over, with its result and the data of that, in forms of their own. -/
def handReply (reply result data : Form) (p : Json) : Json :=
  reply.give (p.modifyField "result" (handResult result data))

namespace IsReply

variable {ms : List (String × Json)}

/-- A result is null, or an object. -/
theorem result_cases (hp : IsReply (obj ms)) {r : Json}
    (hr : (obj ms).field? "result" = some r) : r = .null ∨ ∃ ms', r = .obj ms' := by
  have hgiven : given? "result" (obj ms) = notNull r := by rw [given?, hr, Option.bind_some]
  cases r with
  | null => exact .inl rfl
  | bool | num | str | arr | obj => exact .inr (hp.result _ hgiven)

/-- The result in a reply can be read with one level less. -/
theorem readable_result (hp : IsReply (obj ms)) {r : Json}
    (hr : (obj ms).field? "result" = some r) : r.IsReadable (nestingLimit - 2) :=
  (isReadable_obj_iff.mp hp.readable).2 _ (mem_of_field? hr)

/-- So can the result in the form in which it is handed over. -/
theorem readable_handResult (hp : IsReply (obj ms)) {r : Json}
    (hr : (obj ms).field? "result" = some r) (result data : Form) :
    (handResult result data r).IsReadable (nestingLimit - 2) := by
  have hreadable := hp.readable_result hr
  obtain rfl | ⟨ms', rfl⟩ := hp.result_cases hr
  · exact hreadable
  · exact isReadable_give (hreadable.modifyField fun _ _ hv => isReadable_give hv data) result

/-- A reply with its result in that form can be read. -/
theorem readable_handed (hp : IsReply (obj ms)) (result data : Form) :
    ((obj ms).modifyField "result" (handResult result data)).IsReadable (nestingLimit - 1) :=
  hp.readable.modifyField fun _ hr _ => hp.readable_handResult hr result data

/-- The result of a reply is there as it is handed over. -/
theorem given?_handed (hp : IsReply (obj ms)) (result data : Form) :
    given? "result" ((obj ms).modifyField "result" (handResult result data)) =
      (given? "result" (obj ms)).map (handResult result data) := by
  rw [given?, given?, field?_modifyField, if_pos rfl]
  cases hr : (obj ms).field? "result" with
  | none => rfl
  | some r =>
    obtain rfl | ⟨ms', rfl⟩ := hp.result_cases hr
    · rfl
    · cases result <;> rfl

/-- The state of a reply has the result as it is handed over. -/
theorem decode_pollState_handed (hp : IsReply (obj ms)) (result data : Form) :
    (decodeValue PollState.decoder
        ((obj ms).modifyField "result" (handResult result data))).toOption =
      (reading? (obj ms)).map fun v =>
        ⟨v.1, v.2, (given? "result" (obj ms)).map (handResult result data)⟩ := by
  have hother := field?_modifyField "result" (handResult result data) ms
  have hreading : reading? ((obj ms).modifyField "result" (handResult result data)) =
      reading? (obj ms) := by
    rw [reading?, reading?, hother, hother, if_neg (by decide), if_neg (by decide)]
  rw [← hreading, ← hp.given?_handed]
  exact decodeValue_pollState (hp.readable_handed result data)

/-- The state of a reply that is handed over is that of the reply, but for the result, which is as
it is handed over. -/
theorem alike_pollState (hp : IsReply (obj ms)) (reply result data : Form) :
    Alike (decodeReply PollState.decoder (handReply reply result data (obj ms)))
      ((decodeReply PollState.decoder (obj ms)).map fun s =>
        { s with result := s.result.map (handResult result data) }) := by
  have hne : ∀ s, (obj ms).modifyField "result" (handResult result data) ≠ .str s := ne_str_obj _
  have hform := alike_decodeReply_give uniform_pollState (hp.readable_handed result data)
    (by decide) hne reply
  refine hform.trans ?_
  rw [decodeReply_of_ne_str _ hne, decodeReply_of_ne_str _ (ne_str_obj ms), refused_map]
  refine alike_refused ?_
  rw [toOption_map, decodeValue_pollState hp.readable, hp.decode_pollState_handed, Option.map_map]
  rfl

/-- It does not matter how a result and its data are handed over. -/
theorem alike_payloadOf (hp : IsReply (obj ms)) {r : Json} (hr : given? "result" (obj ms) = some r)
    {d : Decoder α} (hd : d.IsUniform) (result data : Form) :
    Alike (payloadOf d (handResult result data r)) (payloadOf d r) := by
  have hreadable := hp.readable_result (field?_of_given? hr)
  have hdata := hp.data r hr
  obtain ⟨ms', rfl⟩ := hp.result r hr
  have hgiven : ((obj ms').modifyField "data" data.give).IsReadable (nestingLimit - 2) :=
    hreadable.modifyField fun _ _ hv => isReadable_give hv data
  have hform := alike_decodeReply_give uniform_scriptResult hgiven (by decide) (ne_str_obj _)
    result
  exact (hform.bind _).trans (alike_payloadOf_data hd hreadable (by decide) hdata data)

end IsReply

/-- It makes no difference which of a reply, its result and the data of that are handed over as
texts: the state is the same, and so are the data to each task and what the task makes of them, up
to the details of failures. -/
theorem text_or_value {p : Json} (hp : IsReply p) (reply result data : Form)
    (settings : OperationSettings) (ids : List String) (target : Files.Path) :
    Alike (decodeReply PollState.decoder (handReply reply result data p))
        ((decodeReply PollState.decoder p).map fun s =>
          { s with result := s.result.map (handResult result data) }) ∧
      (∀ s, decodeReply PollState.decoder p = .ok s → s.result = given? "result" p) ∧
      ∀ r, given? "result" p = some r →
        (Fetch.task settings).Equates Fetch.decoder (handResult result data r) r ∧
        (Index.task settings ids).Equates Index.decoder (handResult result data r) r ∧
        (Export.task settings ids target).Equates Export.decoder (handResult result data r) r ∧
        (Delete.task settings ids).Equates Delete.decoder (handResult result data r) r := by
  obtain ⟨ms, rfl⟩ := hp.isObject
  refine ⟨hp.alike_pollState reply result data, fun s hs => ?_, fun r hr => ⟨?_, ?_, ?_, ?_⟩⟩
  · have hstate := decodeValue_pollState hp.readable
    rw [decodeReply_of_ne_str _ (ne_str_obj ms)] at hs
    cases hx : decodeValue PollState.decoder (obj ms) with
    | error f =>
      rw [hx] at hs
      cases hs
    | ok s' =>
      rw [hx] at hs hstate
      obtain rfl := Except.ok.inj hs
      obtain ⟨v, -, rfl⟩ := Option.map_eq_some_iff.mp hstate.symm
      rfl
  · exact (goesBy_fetch settings).equates (hp.alike_payloadOf hr uniform_fetch result data)
  · exact (goesBy_index settings ids).equates (hp.alike_payloadOf hr uniform_index result data)
  · exact (goesBy_export settings ids target).equates
      (hp.alike_payloadOf hr uniform_export result data)
  · exact (goesBy_delete settings ids).equates
      (hp.alike_payloadOf hr uniform_delete result data)

/-- A reply whose result is a text, with data that are a text again, tells which conversation is
gone. -/
theorem text_or_value_deleted :
    let r := obj [("data", obj [("results", .arr [obj [("id", .str "a"), ("ok", .bool true)]])]),
      ("success", .bool true)]
    let p := obj [("done", .bool true), ("progress", .num (.int 1)), ("result", r)]
    IsReply p ∧
      (payloadOf Delete.decoder (handResult .text .text r)).map Delete.deletedIds = .ok ["a"] := by
  intro r p
  have hresult : given? "result" p = some r := rfl
  have hp : IsReply p := by
    refine ⟨⟨_, rfl⟩, ?_, fun r' hr' => ?_, fun r' hr' j hj s => ?_⟩
    · constructor
      · exact ⟨by decide, trivial, trivial, ⟨by decide,
          ⟨by decide, ⟨⟨by decide, trivial, trivial, trivial⟩, trivial⟩, trivial⟩, trivial,
            trivial⟩, trivial⟩
      · simp [p, r, toNode, toMemberNodes, toNodes, Node.IsExact, Node.MembersAreExact,
          Node.AreExact, Word.holds]
        decide
      · decide
    · exact ⟨_, (Option.some.inj (hresult.symm.trans hr')).symm⟩
    · obtain rfl := Option.some.inj (hresult.symm.trans hr')
      obtain rfl := Option.some.inj hj
      exact Json.noConfusion
  refine ⟨hp, ?_⟩
  obtain ⟨-, -, hequates⟩ := text_or_value hp .text .text .text .default ["a"] ""
  have hpayload : Alike (payloadOf Delete.decoder (handResult .text .text r))
      (.ok [⟨"a", true, none⟩]) := (hequates r hresult).2.2.2.payload
  rcases hpayload.cases with ⟨a, ha, hok⟩ | ⟨f, g, -, herror, -⟩
  · obtain rfl := Except.ok.inj hok
    rw [ha]
    rfl
  · cases herror

end Operation

end ChatArchive
