import ListingAttributes.Proofs.Numeric.Integers
import ListingAttributes.Proofs.Toml.Sections
import ListingAttributes.Settings.Pipeline

/-!
# Settings survive being stored

Settings have a text exactly if no timeout is beyond the greatest integer of
TOML, and the text is read as the same settings (`settings_survive_storage`).

Three things could be lost on the way.

* A setting without a value is not written.  The settings that the reader has a
  default for are always written, and a missing one of the others is read as
  one without a value (`BackendSettings.ofToml?_settings`).
* A temperature is written in double precision and rounded when it is read,
  which undoes the widening (`temperature?_temperature`).
* A count is written as an integer with a sign.  Only a timeout can be too
  great for that (`BackendSettings.linesText?_eq_none_iff`).
-/

namespace ListingAttributes

/-! ### Lines that can be written -/

namespace Toml

variable {settings : List (String × Setting)}

theorem Setting.text?_eq_none_iff {setting : Setting} :
    setting.text? = none ↔ ∃ n, setting = .count n ∧ 9223372036854775808 ≤ n := by
  cases setting with
  | text value => simp [text?]
  | count n => simp [text?]
  | temperature value => simp [text?]

/-- Lines cannot be written exactly if one of them cannot. -/
theorem linesText?_eq_none_iff :
    linesText? settings = none ↔ ∃ entry ∈ settings, entry.2.text? = none := by
  induction settings with
  | nil => simp [linesText?]
  | cons entry settings ih =>
      obtain ⟨key, setting⟩ := entry
      simp only [List.mem_cons, exists_eq_or_imp, ← ih, linesText?]
      cases setting.text? with
      | none => simp
      | some value => cases linesText? settings <;> simp

/-- Lines can be written if their keys are some of the names that settings have. -/
theorem Writable.of_sublist {names : List String} (hnames : names.Nodup)
    (hbare : ∀ name ∈ names, IsBare name)
    (h : (settings.map Prod.fst).Sublist names) : Writable settings where
  bare := fun entry hentry => hbare entry.1 (h.subset (List.mem_map_of_mem hentry))
  nodup := h.nodup hnames

theorem lookup_settingEntry (name : String) (settings : List (String × Setting)) :
    Json.lookup name (settings.map settingEntry) =
      (Json.lookup name settings).map Setting.toToml :=
  Json.lookup_map (fun _ setting => setting.toToml) name settings

end Toml

namespace Settings

open Numeric Toml

/-! ### Values -/

theorem count32?_count (n : UInt32) : count32? (Setting.count n.toNat).toToml = some n := by
  have hlt : n.toNat < UInt32.size := n.toNat_lt_size
  rw [Setting.toToml, count32?, if_pos ⟨Int.natCast_nonneg _, hlt⟩, Int.toNat_natCast,
    UInt32.ofNat_toNat]

theorem count64?_count (n : UInt64) : count64? (Setting.count n.toNat).toToml = some n := by
  have hlt : n.toNat < UInt64.size := n.toNat_lt_size
  rw [Setting.toToml, count64?, if_pos ⟨Int.natCast_nonneg _, hlt⟩, Int.toNat_natCast,
    UInt64.ofNat_toNat]

theorem temperature?_temperature (x : Extended binary32) :
    temperature? (Setting.temperature x).toToml = some x := by
  rw [Setting.toToml, temperature?, narrow_widen]

theorem text?_text (value : String) : text? (Setting.text value).toToml = some value := rfl

theorem provider?_text (provider : Generation.Provider) :
    BackendSettings.provider? (Setting.text provider.name).toToml = some provider := by
  cases provider <;> rfl

/-! ### Sections -/

theorem BackendSettings.sublist_optionalText (name : String) (value : Option String) :
    ((optionalText name value).map Prod.fst).Sublist [name] := by
  cases value with
  | none => exact List.nil_sublist _
  | some text => exact List.Sublist.refl _

theorem BackendSettings.sublist_names (backend : BackendSettings) :
    (backend.settings.map Prod.fst).Sublist names := by
  have hoptional := sublist_optionalText
  simp only [settings, List.map_append]
  exact ((((List.Sublist.refl ["kind", "model"]).append (hoptional _ _)).append
    (hoptional _ _)).append (List.Sublist.refl ["timeout_secs"])).append (hoptional _ _)

theorem ExtractionSettings.sublist_names (extraction : ExtractionSettings) :
    (extraction.settings.map Prod.fst).Sublist names := by
  simp only [settings, List.map_append]
  exact (List.Sublist.refl ["classify_max_tokens", "classify_temperature", "extract_max_tokens",
    "extract_temperature", "call_timeout_secs"]).append
      (BackendSettings.sublist_optionalText "extract_system_prompt" extraction.systemMessage)

theorem BackendSettings.writable (backend : BackendSettings) : Writable backend.settings :=
  .of_sublist (by decide) (by decide) backend.sublist_names

theorem ExtractionSettings.writable (extraction : ExtractionSettings) :
    Writable extraction.settings :=
  .of_sublist (by decide) (by decide) extraction.sublist_names

/-! ### Fields -/

section Fields

variable {α : Type} {read? : Toml → Option α} {fields : Table} {written : Toml}
  {settings : List (String × Setting)} {setting : Setting} {name : String} {value default : α}

/-- A default does not replace what is written. -/
theorem withDefault_of_lookup (h : Json.lookup name fields = some written)
    (hread : read? written = some value) :
    Fields.withDefault read? default name fields = some value := by
  rw [Fields.withDefault, Fields.optional, h]
  simp only [Option.map_some, hread, Option.getD_some]

theorem withDefault_settingEntry (h : Json.lookup name settings = some setting)
    (hread : read? setting.toToml = some value) :
    Fields.withDefault read? default name (settings.map settingEntry) = some value :=
  withDefault_of_lookup (by rw [lookup_settingEntry, h, Option.map_some]) hread

/-- A setting that is written is read again, if its value is. -/
theorem required_settingEntry (h : Json.lookup name settings = some setting)
    (hread : read? setting.toToml = some value) :
    Fields.required read? name (settings.map settingEntry) = some value := by
  rw [Fields.required, lookup_settingEntry, h]
  exact hread

/-- A setting that may have no value has the one that is written, or none if none is. -/
theorem optional_settingEntry {value : Option String}
    (h : Json.lookup name settings = value.map .text) :
    Fields.optional text? name (settings.map settingEntry) = some value := by
  rw [Fields.optional, lookup_settingEntry, h]
  cases value <;> rfl

end Fields

theorem BackendSettings.lookup_optionalText (name key : String) (value : Option String) :
    Json.lookup name (optionalText key value) = if key = name then value.map .text else none := by
  cases value <;> simp [optionalText, Json.lookup]

/-- The settings of a backend are read back from the table of what is written. -/
theorem BackendSettings.ofToml?_settings (backend : BackendSettings) :
    ofToml? (.table (backend.settings.map settingEntry)) = some backend := by
  have hprovider : Json.lookup "kind" backend.settings = some (.text backend.provider.name) := by
    simp [settings, Json.lookup]
  have hmodel : Json.lookup "model" backend.settings = some (.text backend.model) := by
    simp [settings, Json.lookup]
  have hurl : Json.lookup "base_url" backend.settings = backend.baseUrl.map .text := by
    simp [settings, lookup_optionalText, Json.lookup]
  have hkey : Json.lookup "api_key" backend.settings = backend.key.map .text := by
    simp [settings, lookup_optionalText, Json.lookup]
  have htimeout : Json.lookup "timeout_secs" backend.settings =
      some (.count backend.timeout.toNat) := by
    simp [settings, lookup_optionalText, Json.lookup]
  have hversion : Json.lookup "anthropic_version" backend.settings =
      backend.version.map .text := by
    simp [settings, lookup_optionalText, Json.lookup]
  simp only [ofToml?, fieldsOf?, withDefault_settingEntry hprovider (provider?_text _),
    required_settingEntry hmodel (text?_text _), optional_settingEntry hurl,
    optional_settingEntry hkey, withDefault_settingEntry htimeout (count64?_count _),
    optional_settingEntry hversion, Option.bind_eq_bind, Option.bind_some, Option.pure_def]

/-- The settings of an extraction are read back from the table of what is written. -/
theorem ExtractionSettings.ofToml?_settings (extraction : ExtractionSettings) :
    ofToml? (.table (extraction.settings.map settingEntry)) = some extraction := by
  have hclassifyTokens : Json.lookup "classify_max_tokens" extraction.settings =
      some (.count extraction.classifyMaxTokens.toNat) := by
    simp [settings, Json.lookup]
  have hclassify : Json.lookup "classify_temperature" extraction.settings =
      some (.temperature extraction.classifyTemperature) := by
    simp [settings, Json.lookup]
  have hextractTokens : Json.lookup "extract_max_tokens" extraction.settings =
      some (.count extraction.extractMaxTokens.toNat) := by
    simp [settings, Json.lookup]
  have hextract : Json.lookup "extract_temperature" extraction.settings =
      some (.temperature extraction.extractTemperature) := by
    simp [settings, Json.lookup]
  have htimeout : Json.lookup "call_timeout_secs" extraction.settings =
      some (.count extraction.callTimeout.toNat) := by
    simp [settings, Json.lookup]
  have hmessage : Json.lookup "extract_system_prompt" extraction.settings =
      extraction.systemMessage.map .text := by
    unfold settings
    cases extraction.systemMessage <;> simp [Json.lookup]
  simp only [ofToml?, fieldsOf?, required_settingEntry hclassifyTokens (count32?_count _),
    required_settingEntry hclassify (temperature?_temperature _),
    required_settingEntry hextractTokens (count32?_count _),
    required_settingEntry hextract (temperature?_temperature _),
    required_settingEntry htimeout (count64?_count _), optional_settingEntry hmessage,
    Option.bind_eq_bind, Option.bind_some, Option.pure_def]

/-- The settings of a pipeline are read back from the tables of its sections. -/
theorem PipelineSettings.ofToml?_sections (pipeline : PipelineSettings) :
    ofToml? (.table [(backendSection, .table (pipeline.backend.settings.map settingEntry)),
      (extractionSection, .table (pipeline.extraction.settings.map settingEntry))]) =
        some pipeline := by
  have hne : backendSection ≠ extractionSection := by decide
  unfold ofToml? fieldsOf?
  simp only [Option.bind_eq_bind, Option.bind_some]
  rw [withDefault_of_lookup (by rw [Json.lookup, if_pos rfl]) pipeline.backend.ofToml?_settings,
    withDefault_of_lookup (by rw [Json.lookup, if_neg hne, Json.lookup, if_pos rfl])
      pipeline.extraction.ofToml?_settings]
  rfl

/-! ### Storage -/

/-- The greatest timeout with a written form: the integers of TOML have 64 bits and a sign. -/
def greatestTimeout : Nat := 9223372036854775807

/-- A greater timeout is all that keeps settings from having a text. -/
theorem BackendSettings.linesText?_eq_none_iff (backend : BackendSettings) :
    linesText? backend.settings = none ↔ greatestTimeout < backend.timeout.toNat := by
  rw [Toml.linesText?_eq_none_iff]
  unfold settings greatestTimeout
  cases backend.baseUrl <;> cases backend.key <;> cases backend.version <;>
    simp [optionalText, Setting.text?_eq_none_iff, Nat.lt_iff_add_one_le]

theorem ExtractionSettings.linesText?_eq_none_iff (extraction : ExtractionSettings) :
    linesText? extraction.settings = none ↔ greatestTimeout < extraction.callTimeout.toNat := by
  have hclassify := extraction.classifyMaxTokens.toNat_lt
  have hextract := extraction.extractMaxTokens.toNat_lt
  rw [Toml.linesText?_eq_none_iff]
  unfold settings greatestTimeout
  cases extraction.systemMessage <;>
    simp [Setting.text?_eq_none_iff, Nat.lt_iff_add_one_le]
  all_goals omega

/-- What is read from the text of a table is what is read from the table. -/
theorem ofText_of_parse? {α : Type} {read? : Toml → Option α} {text : List Char}
    {entries : Table} {settings : α} (hparse : Toml.parse? text = some entries)
    (hread : read? (.table entries) = some settings) : ofText read? text = .ok settings := by
  have htable : table? text = .ok (.table entries) := by rw [table?, hparse]
  simp only [ofText, htable, bind, Except.bind, hread]

/-- What becomes of settings with these timeouts when they are stored.  If no timeout is too great,
their text is read as the same settings, of which the same is wrong; otherwise there is no text. -/
structure SurvivesStorage {α : Type} (write : α → Except SettingsError (List Char))
    (load : List Char → Except SettingsError α) (problem? : α → Option SettingsProblem)
    (settings : α) (timeouts : List UInt64) : Prop where
  stored : (∀ timeout ∈ timeouts, timeout.toNat ≤ greatestTimeout) →
    ∃ text loaded, write settings = .ok text ∧ load text = .ok loaded ∧ loaded = settings ∧
      problem? loaded = problem? settings
  refused : (∃ timeout ∈ timeouts, greatestTimeout < timeout.toNat) →
    write settings = .error .unwritable

/-- Settings survive storage if what has a written form is read back from it. -/
theorem SurvivesStorage.of_text? {α : Type} {write : α → Except SettingsError (List Char)}
    {load : List Char → Except SettingsError α} {problem? : α → Option SettingsProblem}
    {settings : α} {timeouts : List UInt64} {text? : Option (List Char)}
    (hwrite : write settings = toText text?)
    (hnone : text? = none ↔ ∃ timeout ∈ timeouts, greatestTimeout < timeout.toNat)
    (hload : ∀ text, text? = some text → load text = .ok settings) :
    SurvivesStorage write load problem? settings timeouts where
  stored := by
    intro hsmall
    cases htext : text? with
    | none =>
        obtain ⟨timeout, hmem, hgreat⟩ := hnone.1 htext
        exact absurd (hsmall timeout hmem) (Nat.not_le.2 hgreat)
    | some text =>
        exact ⟨text, settings, by rw [hwrite, htext]; rfl, hload text htext, rfl, rfl⟩
  refused := by
    intro hgreat
    rw [hwrite, hnone.2 hgreat]
    rfl

theorem BackendSettings.survivesStorage (backend : BackendSettings) :
    SurvivesStorage text ofText problem? backend [backend.timeout] := by
  refine .of_text? rfl (by simpa using backend.linesText?_eq_none_iff) ?_
  intro text htext
  exact ofText_of_parse? (parse?_lines backend.writable htext) backend.ofToml?_settings

theorem ExtractionSettings.survivesStorage (extraction : ExtractionSettings) :
    SurvivesStorage text ofText problem? extraction [extraction.callTimeout] := by
  refine .of_text? rfl (by simpa using extraction.linesText?_eq_none_iff) ?_
  intro text htext
  exact ofText_of_parse? (parse?_lines extraction.writable htext) extraction.ofToml?_settings

theorem PipelineSettings.survivesStorage (pipeline : PipelineSettings) :
    SurvivesStorage text ofText problem? pipeline
      [pipeline.backend.timeout, pipeline.extraction.callTimeout] := by
  refine .of_text? rfl ?_ ?_
  · -- there is no text if one of the sections has none
    simp only [List.mem_cons, List.not_mem_nil, or_false, exists_eq_or_imp, exists_eq_left,
      ← BackendSettings.linesText?_eq_none_iff, ← ExtractionSettings.linesText?_eq_none_iff]
    cases linesText? pipeline.backend.settings <;>
      cases linesText? pipeline.extraction.settings <;> simp
  · intro text htext
    simp only [Option.bind_eq_bind, Option.bind_eq_some_iff, Option.pure_def,
      Option.some.injEq] at htext
    obtain ⟨first, hfirst, second, hsecond, rfl⟩ := htext
    exact ofText_of_parse? (parse?_sections (by decide) (by decide) (by decide)
      pipeline.backend.writable pipeline.extraction.writable hfirst hsecond)
      pipeline.ofToml?_sections

/-- **Settings survive being stored**, those of a backend, of an extraction and of a pipeline,
whatever their texts and temperatures are.  A temperature keeps its sign, also that of a zero, and
one that is no number stays one that is no number. -/
theorem settings_survive_storage (backend : BackendSettings) (extraction : ExtractionSettings)
    (pipeline : PipelineSettings) :
    SurvivesStorage BackendSettings.text BackendSettings.ofText BackendSettings.problem? backend
        [backend.timeout] ∧
      SurvivesStorage ExtractionSettings.text ExtractionSettings.ofText
        ExtractionSettings.problem? extraction [extraction.callTimeout] ∧
      SurvivesStorage PipelineSettings.text PipelineSettings.ofText PipelineSettings.problem?
        pipeline [pipeline.backend.timeout, pipeline.extraction.callTimeout] :=
  ⟨backend.survivesStorage, extraction.survivesStorage, pipeline.survivesStorage⟩

/-- Settings with an empty text, quotes and several lines, and with these timeouts. -/
def strained (timeout callTimeout : UInt64) : PipelineSettings where
  backend := ⟨.openAi, "one\ntwo", some "", some "it's \"\"\"quoted\"\"\" \\", timeout, none⟩
  extraction := { ExtractionSettings.default with callTimeout, systemMessage := some "\x07" }

/-- The greatest timeouts survive, and a second more in either section is refused. -/
theorem settings_survive_storage_strained :
    (∃ text, (strained 9223372036854775807 9223372036854775807).text = .ok text ∧
      PipelineSettings.ofText text = .ok (strained 9223372036854775807 9223372036854775807)) ∧
      (strained 9223372036854775808 60).text = .error .unwritable ∧
      (strained 60 9223372036854775808).text = .error .unwritable := by
  have hsurvives := fun settings : PipelineSettings =>
    (settings_survive_storage settings.backend settings.extraction settings).2.2
  have hsmall : ∀ timeout ∈ [(9223372036854775807 : UInt64), 9223372036854775807],
      timeout.toNat ≤ greatestTimeout := by
    simp [greatestTimeout]
  obtain ⟨text, loaded, htext, hloaded, rfl, -⟩ :=
    (hsurvives (strained 9223372036854775807 9223372036854775807)).stored hsmall
  refine ⟨⟨text, htext, hloaded⟩, (hsurvives _).refused ⟨_, List.mem_cons_self, ?_⟩,
    (hsurvives _).refused ⟨_, List.mem_cons_of_mem _ List.mem_cons_self, ?_⟩⟩
  · show greatestTimeout < (9223372036854775808 : UInt64).toNat
    decide
  · show greatestTimeout < (9223372036854775808 : UInt64).toNat
    decide

end Settings

end ListingAttributes
