import ChatArchive.Proofs.Json.Record
import ChatArchive.Proofs.Toml.Part
import ChatArchive.Settings.Text

/-!
# Settings from their texts

The document of some settings can be read back (`Settings.Fits.isSimple`), and so can every part of
it.  From a part the settings that it names are decoded, and the others are the defaults
(`Settings.Fits.decode_part`); that goes for every text that is read as this part, however it is
written.
-/

namespace ChatArchive

open Json Toml

/-! ## Settings that are chosen -/

/-- Replace the settings of chosen names by others. -/
def ServiceSettings.replace (chosen : String → Bool) (s new : ServiceSettings) :
    ServiceSettings where
  baseUrl := if chosen "base_url" then new.baseUrl else s.baseUrl
  entryPath := if chosen "entry_path" then new.entryPath else s.entryPath
  readyPrefix := if chosen "ready_path_prefix" then new.readyPrefix else s.readyPrefix
  apiBase := if chosen "api_base" then new.apiBase else s.apiBase
  organizationCookie :=
    if chosen "org_cookie" then new.organizationCookie else s.organizationCookie

/-- Replace the settings of chosen names by others. -/
def OperationSettings.replace (chosen : String → Bool) (s new : OperationSettings) :
    OperationSettings where
  pollMillis := if chosen "poll_interval_ms" then new.pollMillis else s.pollMillis
  settleMillis := if chosen "settle_delay_ms" then new.settleMillis else s.settleMillis
  fetchSeconds := if chosen "fetch_timeout_secs" then new.fetchSeconds else s.fetchSeconds
  indexSeconds := if chosen "index_timeout_secs" then new.indexSeconds else s.indexSeconds
  exportSeconds := if chosen "export_timeout_secs" then new.exportSeconds else s.exportSeconds
  deleteSeconds := if chosen "delete_timeout_secs" then new.deleteSeconds else s.deleteSeconds
  pageCeiling := if chosen "page_ceiling" then new.pageCeiling else s.pageCeiling
  batchSize := if chosen "index_batch_size" then new.batchSize else s.batchSize
  batchDelayMillis :=
    if chosen "index_batch_delay_ms" then new.batchDelayMillis else s.batchDelayMillis
  maxContentChars := if chosen "max_content_chars" then new.maxContentChars else s.maxContentChars
  exportDelayMillis :=
    if chosen "export_item_delay_ms" then new.exportDelayMillis else s.exportDelayMillis
  deleteDelayMillis :=
    if chosen "delete_item_delay_ms" then new.deleteDelayMillis else s.deleteDelayMillis

/-- Replace the settings of chosen names by others. -/
def CacheSettings.replace (chosen : String → Bool) (s new : CacheSettings) : CacheSettings where
  maxAgeHours := if chosen "metadata_max_age_hours" then new.maxAgeHours else s.maxAgeHours
  contentCap := if chosen "content_index_cap" then new.contentCap else s.contentCap

/-- Replace the settings of chosen names by others. -/
def Settings.replace (chosen : String → Bool) (s new : Settings) : Settings where
  profileDir := if chosen "profile_dir" then new.profileDir else s.profileDir
  service := s.service.replace chosen new.service
  operations := s.operations.replace chosen new.operations
  cache := s.cache.replace chosen new.cache

/-- Where every field is chosen, nothing of the old settings is left. -/
theorem Settings.replace_all (s new : Settings) : s.replace (fun _ => true) new = new := rfl

/-- The text names the chosen settings, with the values that they have, and no others.  It may have
the header of a section of which it names nothing. -/
def Settings.IsNamedIn (s : Settings) (chosen : String → Bool) (text : String) : Prop :=
  ∃ headed, Toml.read? text = some (s.document.part chosen headed).toJson

/-! ## Documents of settings -/

/-- The numbers of the settings have 64 bits. -/
structure Settings.Fits (s : Settings) : Prop where
  operations : ∀ setting ∈ s.operations.named, setting.2 ≤ Word.maxNat 64
  maxAgeHours : Word.minInt 64 ≤ s.cache.maxAgeHours ∧ s.cache.maxAgeHours ≤ Word.maxInt 64
  contentCap : s.cache.contentCap ≤ Word.maxNat 64

/-- The names of settings do not depend on their values. -/
theorem ServiceSettings.map_fst_entries (s : ServiceSettings) :
    s.entries.map (·.1) = ServiceSettings.default.entries.map (·.1) := rfl

/-- The names of the entries do not depend on the settings. -/
theorem OperationSettings.map_fst_entries (s : OperationSettings) :
    s.entries.map (·.1) = OperationSettings.default.entries.map (·.1) := rfl

/-- Nor do those of the cache. -/
theorem CacheSettings.map_fst_entries (s : CacheSettings) :
    s.entries.map (·.1) = CacheSettings.default.entries.map (·.1) := rfl

/-- A table can be read back if its entries can and have different names. -/
theorem isSimple_table (key : String) {es : List Entry} {names : List String}
    (hnames : es.map (·.1) = names) (hkeys : ∀ name ∈ key :: names, IsBareKey name)
    (hdistinct : names.Nodup) (hvalues : ∀ e ∈ es, e.2.IsSimple) :
    IsBareKey key ∧ (∀ e ∈ es, Entry.IsSimple e) ∧ (es.map (·.1)).Nodup := by
  subst hnames
  rw [List.forall_mem_cons] at hkeys
  exact ⟨hkeys.1, fun e he => ⟨hkeys.2 _ (List.mem_map_of_mem he), hvalues e he⟩, hdistinct⟩

/-- A natural number of 64 bits fits. -/
theorem holds_of_le {n : Nat} (h : n ≤ Word.maxNat 64) : Word.holds 64 n = true := by
  have hmin : Word.minInt 64 ≤ 0 := by decide
  simp only [Word.holds, Bool.and_eq_true, decide_eq_true_eq]
  omega

/-- So does an integer of 64 bits. -/
theorem holds_of_holdsInt {n : Int} (h : Word.minInt 64 ≤ n ∧ n ≤ Word.maxInt 64) :
    Word.holds 64 n = true := by
  have hmax : Word.maxInt 64 ≤ Word.maxNat 64 := by decide
  simp only [Word.holds, Bool.and_eq_true, decide_eq_true_eq]
  omega

/-- What fits into 64 bits fits into 128. -/
theorem isBounded_of_holds {n : Int} (h : Word.holds 64 n = true) : isBounded n = true := by
  have hmin : Word.minInt 128 ≤ Word.minInt 64 := by decide
  have hmax : (Word.maxNat 64 : Int) ≤ Word.maxNat 128 := by decide
  simp only [isBounded, Word.holds, Bool.and_eq_true, decide_eq_true_eq] at h ⊢
  omega

namespace Settings.Fits

variable {s : Settings}

/-- The entries of the operations are numbers of 64 bits. -/
theorem exists_eq_integer (h : s.Fits) {e : Entry} (he : e ∈ s.operations.entries) :
    ∃ n : Nat, e.2 = .integer n ∧ n ≤ Word.maxNat 64 := by
  obtain ⟨setting, hsetting, rfl⟩ := List.mem_map.mp he
  exact ⟨setting.2, rfl, h.operations setting hsetting⟩

/-- The document of settings can be read back. -/
theorem isSimple (h : s.Fits) : s.document.IsSimple where
  entries e he := by
    obtain ⟨dir, -, rfl⟩ := List.mem_map.mp he
    exact ⟨(by decide : IsBareKey "profile_dir"), trivial⟩
  tables t ht := by
    simp only [document, List.mem_cons, List.not_mem_nil, or_false] at ht
    rcases ht with rfl | rfl | rfl
    -- the names are known whatever the values are, so that what is asked of them is decided
    · have hnames := s.service.map_fst_entries
      refine isSimple_table "service" hnames (by decide) (by decide) fun e he => ?_
      simp only [ServiceSettings.entries, List.mem_cons, List.not_mem_nil, or_false] at he
      rcases he with rfl | rfl | rfl | rfl | rfl <;> trivial
    · have hnames := s.operations.map_fst_entries
      refine isSimple_table "operations" hnames (by decide) (by decide) fun e he => ?_
      obtain ⟨n, hn, hle⟩ := h.exists_eq_integer he
      rw [hn]
      exact isBounded_of_holds (holds_of_le hle)
    · have hnames := s.cache.map_fst_entries
      refine isSimple_table "cache" hnames (by decide) (by decide) fun e he => ?_
      simp only [CacheSettings.entries, List.mem_cons, List.not_mem_nil, or_false] at he
      rcases he with rfl | rfl
      · exact isBounded_of_holds (holds_of_holdsInt h.maxAgeHours)
      · exact isBounded_of_holds (holds_of_le h.contentCap)
  names := by
    cases hdir : s.profileDir <;> simp [document, hdir]

end Settings.Fits

/-! ## Decoding parts -/

/-- A field is read from a part of a table if its name is chosen, and is its default otherwise. -/
theorem valueIn?_part {α : Type} {es : List Entry} (hes : (es.map (·.1)).Nodup) {key : String}
    {v : Scalar} (he : (key, v) ∈ es) {d : Decoder α} {a : α}
    (hread : decodeValue d v.toJson = .ok a) (chosen : String → Bool) (default : α) :
    (Field.defaulted key d default).valueIn? (entriesToJson (es.filter fun e => chosen e.1)) =
      some (if chosen key then a else default) := by
  have hfield := field?_entriesToJson_filter hes he chosen
  rw [Field.valueIn?, Field.defaulted, hfield]
  split_ifs
  · rw [Option.elim_some, hread, toOption_ok]
  · rfl

/-- A natural number of 64 bits is read as itself. -/
theorem decode_natural (range : String) {n : Nat} (h : n ≤ Word.maxNat 64) :
    decodeValue (fun o r => (Decoder.integer range 0 (Word.maxNat 64) o r).map Int.toNat)
      (Scalar.integer n).toJson = .ok n := by
  rw [Scalar.toJson, holds_of_le h]
  have hbounds : (0 : Int) ≤ n ∧ (n : Int) ≤ Word.maxNat 64 := by omega
  simp only [decodeValue, if_true, toRaw, Decoder.integer, if_pos hbounds, Except.map,
    Int.toNat_natCast]

/-- An integer of 64 bits is decoded from its scalar. -/
theorem decode_int64 {n : Int} (h : Word.minInt 64 ≤ n ∧ n ≤ Word.maxInt 64) :
    decodeValue Decoder.int64 (Scalar.integer n).toJson = .ok n := by
  rw [Scalar.toJson, holds_of_holdsInt h]
  exact if_pos h

/-- The chosen fields are decoded, and the others have their defaults. -/
theorem ServiceSettings.decode_part (s : ServiceSettings) (chosen : String → Bool) :
    (decodeValue decoder (entriesToJson (s.entries.filter fun e => chosen e.1))).toOption =
      some (ServiceSettings.default.replace chosen s) := by
  have hnames : (s.entries.map (·.1)).Nodup := by
    rw [map_fst_entries]
    decide
  have hfield {key text : String} (h : (key, Scalar.string text) ∈ s.entries) (default : String) :=
    valueIn?_part hnames h (d := Decoder.string) (a := text) rfl chosen default
  exact decodeValue_record_of_given
    (.cons (hfield (by simp [entries]) _) <| .cons (hfield (by simp [entries]) _) <|
      .cons (hfield (by simp [entries]) _) <| .cons (hfield (by simp [entries]) _) <|
      .cons (hfield (by simp [entries]) _) .nil) (by decide) _ _

/-- So they are in the section of the operations, if its numbers fit. -/
theorem OperationSettings.decode_part {s : OperationSettings}
    (h : ∀ setting ∈ s.named, setting.2 ≤ Word.maxNat 64) (chosen : String → Bool) :
    (decodeValue decoder (entriesToJson (s.entries.filter fun e => chosen e.1))).toOption =
      some (OperationSettings.default.replace chosen s) := by
  have hnames : (s.entries.map (·.1)).Nodup := by
    rw [map_fst_entries]
    decide
  have hfield {key : String} {n : Nat} (hmem : (key, n) ∈ s.named) (range : String)
      (default : Nat) :=
    have hentry : (key, Scalar.integer n) ∈ s.entries := List.mem_map_of_mem hmem
    valueIn?_part hnames hentry (decode_natural range (h _ hmem)) chosen default
  exact decodeValue_record_of_given
    (.cons (hfield (by simp [named]) _ _) <| .cons (hfield (by simp [named]) _ _) <|
      .cons (hfield (by simp [named]) _ _) <| .cons (hfield (by simp [named]) _ _) <|
      .cons (hfield (by simp [named]) _ _) <| .cons (hfield (by simp [named]) _ _) <|
      .cons (hfield (by simp [named]) _ _) <| .cons (hfield (by simp [named]) _ _) <|
      .cons (hfield (by simp [named]) _ _) <| .cons (hfield (by simp [named]) _ _) <|
      .cons (hfield (by simp [named]) _ _) <| .cons (hfield (by simp [named]) _ _) .nil)
    (by decide) _ _

/-- So they are in the section of the cache, if its numbers fit. -/
theorem CacheSettings.decode_part {s : CacheSettings}
    (hage : Word.minInt 64 ≤ s.maxAgeHours ∧ s.maxAgeHours ≤ Word.maxInt 64)
    (hcap : s.contentCap ≤ Word.maxNat 64) (chosen : String → Bool) :
    (decodeValue decoder (entriesToJson (s.entries.filter fun e => chosen e.1))).toOption =
      some (CacheSettings.default.replace chosen s) := by
  have hnames : (s.entries.map (·.1)).Nodup := by
    rw [map_fst_entries]
    decide
  have hfirst := valueIn?_part hnames List.mem_cons_self (decode_int64 hage) chosen
  have hsecond := valueIn?_part hnames (List.mem_cons_of_mem _ List.mem_cons_self)
    (decode_natural "usize" hcap) chosen
  exact decodeValue_record_of_given (.cons (hfirst _) (.cons (hsecond _) .nil)) (by decide) _ _

/-- A section is read from its part, and is the default if it is left out. -/
theorem valueIn?_table {α : Type} {d : Document} (hd : d.IsSimple) {key : String} {es : List Entry}
    (ht : (key, es) ∈ d.tables) {chosen : String → Bool} {read : Decoder α} {a default : α}
    (hpart : (decodeValue read (entriesToJson (es.filter fun e => chosen e.1))).toOption = some a)
    (hempty : (decodeValue read (entriesToJson [])).toOption = some default)
    (headed : String → Bool) :
    (Field.defaulted key read default).valueIn? (d.part chosen headed).toJson = some a := by
  have hfield := hd.field?_part_of_table chosen headed ht
  rw [Field.valueIn?, Field.defaulted, hfield]
  split_ifs with hkept
  · exact hpart
  -- a section is only left out if nothing of it is chosen
  · have hnone : es.filter (fun e => chosen e.1) = [] := by
      rw [Document.keepsTable, Bool.or_eq_true, not_or] at hkept
      simpa [Document.tablePart] using hkept.2
    rw [hnone, hempty] at hpart
    exact hpart

/-- The folder of the profile is read from a part that gives it. -/
theorem valueIn?_profileDir {s : Settings} (hs : s.document.IsSimple)
    (chosen headed : String → Bool) :
    (Field.defaulted "profile_dir" Settings.pathDecoder.option none).valueIn?
      (s.document.part chosen headed).toJson =
        some (if chosen "profile_dir" then s.profileDir else none) := by
  have htable : "profile_dir" ∉ s.document.tables.map (·.1) := by simp [Settings.document]
  rw [Field.valueIn?, Field.defaulted]
  cases hdir : s.profileDir with
  | none =>
    have hentry : "profile_dir" ∉ s.document.entries.map (·.1) := by
      simp [Settings.document, hdir]
    rw [Document.IsSimple.field?_part_of_not_mem chosen headed hentry htable, ite_self]
    rfl
  | some dir =>
    have hentry : ("profile_dir", Scalar.string dir) ∈ s.document.entries := by
      simp [Settings.document, hdir]
    rw [hs.field?_part_of_entry chosen headed hentry]
    split_ifs <;> rfl

/-- From a part of the document the settings that it names are decoded, and the others are the
defaults. -/
theorem Settings.Fits.decode_part {s : Settings} (h : s.Fits) (chosen headed : String → Bool) :
    (decodeValue Settings.decoder (s.document.part chosen headed).toJson).toOption =
      some (Settings.default.replace chosen s) := by
  have hservice := valueIn?_table h.isSimple List.mem_cons_self (s.service.decode_part chosen) rfl
    headed
  have hoperations := valueIn?_table h.isSimple (List.mem_cons_of_mem _ List.mem_cons_self)
    (OperationSettings.decode_part h.operations chosen) rfl headed
  have hcache := valueIn?_table h.isSimple
    (List.mem_cons_of_mem _ (List.mem_cons_of_mem _ List.mem_cons_self))
    (CacheSettings.decode_part h.maxAgeHours h.contentCap chosen) rfl headed
  exact decodeValue_record_of_given
    (.cons (valueIn?_profileDir h.isSimple chosen headed) <| .cons hservice <|
      .cons hoperations <| .cons hcache .nil) (by decide) _ _

/-- Settings are read back from their text.  From a text that names some of them these are read, and
the others are the defaults. -/
theorem Settings.Fits.reloads {s : Settings} (h : s.Fits) :
    Settings.ofText? s.toText = some s ∧
      ∀ chosen : String → Bool,
        (∀ headed, s.IsNamedIn chosen (s.document.part chosen headed).toText) ∧
        ∀ text, s.IsNamedIn chosen text →
          Settings.ofText? text = some (Settings.default.replace chosen s) := by
  have hpart (chosen headed : String → Bool) :
      s.IsNamedIn chosen (s.document.part chosen headed).toText :=
    ⟨headed, read?_toText (h.isSimple.part chosen headed)⟩
  have hload (chosen : String → Bool) (text : String) (htext : s.IsNamedIn chosen text) :
      Settings.ofText? text = some (Settings.default.replace chosen s) := by
    obtain ⟨headed, hread⟩ := htext
    simp only [Settings.ofText?, hread, bind, Option.bind_some, h.decode_part]
  refine ⟨?_, fun chosen => ⟨hpart chosen, hload chosen⟩⟩
  have hall := hload _ _ (hpart (fun _ => true) (fun _ => true))
  rwa [Document.part_all, Settings.replace_all] at hall

/-- Settings with a folder that needs quotes, and with numbers at the ends of their ranges. -/
def Settings.extreme : Settings where
  profileDir := some "C:\\Users\\me"
  service := .default
  operations := { OperationSettings.default with fetchSeconds := Word.maxNat 64 }
  cache := ⟨Word.minInt 64, 0⟩

/-- These settings are read back from their text, and so is a text of two of their fields, which is
written by hand with another kind of quotes. -/
theorem Settings.reloads_extreme :
    Settings.extreme.Fits ∧ Settings.ofText? Settings.extreme.toText = some Settings.extreme ∧
      Settings.ofText?
          "profile_dir = \x27C:\\Users\\me\x27\n\n[cache]\ncontent_index_cap = 0\n" =
        some { Settings.default with
          profileDir := some "C:\\Users\\me"
          cache := { CacheSettings.default with contentCap := 0 } } := by
  have hfits : Settings.extreme.Fits := ⟨by decide, by decide, by decide⟩
  obtain ⟨hall, hsome⟩ := Settings.Fits.reloads hfits
  obtain ⟨hnamed, hload⟩ := hsome fun name => name == "profile_dir" || name == "content_index_cap"
  refine ⟨hfits, hall, ?_⟩
  refine Eq.trans (congrArg Settings.ofText? ?_) (hload _ (hnamed fun _ => false))
  decide +kernel

end ChatArchive
