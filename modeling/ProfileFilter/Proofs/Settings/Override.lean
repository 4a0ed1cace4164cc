import ProfileFilter.Proofs.Service.BaseUrl
import ProfileFilter.Proofs.Settings.Fields
import ProfileFilter.Service.Client

/-!
# Base URLs from the settings to the client

A base URL is brought into form where the settings are checked, again where overrides are put in
place, and again in the client. Loaded settings hold a base URL that was in form once
(`exists_baseUrl_of_load`); so the places after that leave it as it is exactly if the text it was
loaded from hides no blank before the slashes at its end.

Main statement: `baseUrl_layers`.
-/

namespace ProfileFilter

/-! ## Stored base URLs -/

/-- Every value passes down to its parts that it is a value. -/
theorem Value.passesDown_true : PassesDown fun _ => True where
  null := trivial
  list _ _ _ := trivial
  tuple _ _ _ := trivial
  mapping _ _ _ := trivial

namespace Check

theorem baseUrl_eq_valid_iff {url stored : Text} :
    baseUrl (.text url) = .valid stored ↔ Credentials.normalBaseUrl url = stored := by
  constructor
  · exact Validated.valid.inj
  · rintro rfl
    rfl

theorem grants_baseUrl :
    Grants baseUrl (fun _ => True) fun stored => ∃ url, stored = Credentials.normalBaseUrl url := by
  intro v stored _ hvalid
  obtain ⟨url, -, rfl⟩ := Validated.map_eq_valid.mp hvalid
  exact ⟨url, rfl⟩

/-- The default is in form as well. -/
theorem grants_connectionSettings :
    Grants connectionSettings (fun _ => True) fun settings =>
      ∃ url, settings.baseUrl = Credentials.normalBaseUrl url := by
  refine Grants.record Value.passesDown_true fun entries settings hentries hvalid => ?_
  obtain ⟨_, _, hupToTimeout, -, rfl⟩ := Validated.seq_eq_valid.mp hvalid
  obtain ⟨_, _, hupToKey, -, rfl⟩ := Validated.seq_eq_valid.mp hupToTimeout
  obtain ⟨_, _, hupToBase, -, rfl⟩ := Validated.seq_eq_valid.mp hupToKey
  obtain ⟨_, hbase, rfl⟩ := Validated.map_eq_valid.mp hupToBase
  exact grants_baseUrl.optional hentries ⟨"https://api.infobip.com", by decide⟩ hbase

theorem grants_settings :
    Grants settings (fun _ => True) fun settings =>
      ∃ url, settings.connection.baseUrl = Credentials.normalBaseUrl url := by
  refine Grants.record Value.passesDown_true fun entries settings hentries hvalid => ?_
  obtain ⟨_, _, hupToServer, -, rfl⟩ := Validated.seq_eq_valid.mp hvalid
  obtain ⟨_, hconnection, rfl⟩ := Validated.map_eq_valid.mp hupToServer
  exact grants_connectionSettings.optional hentries ⟨"https://api.infobip.com", by decide⟩
    hconnection

end Check

namespace Settings

/-- Settings that were made of a document were checked. -/
theorem exists_check_of_ofDocument {environment : Environment} {document : Value}
    {settings : Settings} (h : ofDocument environment document = .ok settings) :
    ∃ v, Check.settings v = .valid settings := by
  unfold ofDocument at h
  simp only at h
  split at h
  · exact ⟨_, ofChecked_eq_ok.mp h⟩
  · exact ⟨_, ofChecked_eq_ok.mp h⟩
  · cases h

/-- So were settings that were loaded, wherever they come from. -/
theorem exists_check_of_load {files : Files} {environment : Environment} {path : Text}
    {settings : Settings} (h : load files environment path = .ok settings) :
    ∃ v, Check.settings v = .valid settings := by
  have hfile : ∀ state, ofFile environment state = .ok settings →
      ∃ v, Check.settings v = .valid settings := by
    intro state hstate
    cases state with
    | document v => exact exists_check_of_ofDocument hstate
    | missing => exact exists_check_of_ofDocument hstate
    | blocked => exact exists_check_of_ofDocument hstate
    | _ => cases hstate
  unfold load at h
  split_ifs at h
  · split at h
    · exact hfile _ h
    · exact exists_check_of_ofDocument h
  · exact hfile _ h

theorem exists_baseUrl_of_load {files : Files} {environment : Environment} {path : Text}
    {settings : Settings} (h : load files environment path = .ok settings) :
    ∃ url, settings.connection.baseUrl = Credentials.normalBaseUrl url := by
  obtain ⟨v, hv⟩ := exists_check_of_load h
  exact Check.grants_settings v settings trivial hv

end Settings

/-! ## Overrides -/

namespace ConnectionSettings

/-- Without overrides only the base URL is touched. -/
theorem override_none_eq_self_iff {settings : ConnectionSettings} :
    settings.override none none = settings ↔
      Credentials.normalBaseUrl settings.baseUrl = settings.baseUrl := by
  cases settings
  simp [override]

theorem override_apiKey_eq_iff {settings : ConnectionSettings} {key : Text} :
    settings.override none (some key) = { settings with apiKey := key } ↔
      Credentials.normalBaseUrl settings.baseUrl = settings.baseUrl := by
  cases settings
  simp [override]

end ConnectionSettings

namespace Settings

open Credentials (HidesBlank)

/-- **A base URL on its way from the settings to the client.**

* Every base URL is stored in a form that does not start with a blank or end with a slash. What is
  stored does not end with a blank, is stored as it is if that is done once more, and is used as it
  is by a client, each exactly if the base URL hides no blank.
* The base URL of loaded settings was stored from some text. Putting no override in place leaves the
  settings as they are, and an override of the key changes nothing else, each exactly if that text
  hides no blank; an override of the base URL changes nothing else in any case. -/
theorem baseUrl_layers (url other key : Text) (files : Files) (environment : Environment)
    (path : Text) :
    (∃ stored, Check.baseUrl (.text url) = .valid stored ∧
      (∀ c ∈ stored.head?, c.isBlank = false) ∧ stored.getLast? ≠ some ('/' : CodePoint) ∧
        (stored.trim = stored ↔ ¬ HidesBlank url) ∧
        (Check.baseUrl (.text stored) = .valid stored ↔ ¬ HidesBlank url) ∧
        ((Client.ofCredentials stored key).baseUrl = stored ↔ ¬ HidesBlank url)) ∧
    ∀ settings, load files environment path = .ok settings →
      ∃ source, Check.baseUrl (.text source) = .valid settings.connection.baseUrl ∧
        (settings.connection.override none none = settings.connection ↔ ¬ HidesBlank source) ∧
        (settings.connection.override none (some key) =
          { settings.connection with apiKey := key } ↔ ¬ HidesBlank source) ∧
        settings.connection.override (some other) none =
          { settings.connection with baseUrl := Credentials.normalBaseUrl other } := by
  constructor
  · refine ⟨Credentials.normalBaseUrl url, rfl,
      fun c hc => Credentials.isBlank_of_mem_head?_normalBaseUrl hc,
      Credentials.getLast?_normalBaseUrl url, Credentials.trim_normalBaseUrl_iff, ?_,
      Credentials.normalBaseUrl_normalBaseUrl_iff⟩
    rw [Check.baseUrl_eq_valid_iff, Credentials.normalBaseUrl_normalBaseUrl_iff]
  · intro settings hload
    obtain ⟨source, hsource⟩ := exists_baseUrl_of_load hload
    have hsettled : Credentials.normalBaseUrl settings.connection.baseUrl =
        settings.connection.baseUrl ↔ ¬ HidesBlank source := by
      rw [hsource, Credentials.normalBaseUrl_normalBaseUrl_iff]
    refine ⟨source, Check.baseUrl_eq_valid_iff.mpr hsource.symm, ?_, ?_, rfl⟩
    · rw [ConnectionSettings.override_none_eq_self_iff, hsettled]
    · rw [ConnectionSettings.override_apiKey_eq_iff, hsettled]

/-- A base URL between blanks and with slashes at its end, as it may stand in a file. -/
def slashedFields : Entries := [(.text "base_url", .text " https://a.example// ")]

theorem baseUrl_layers_slashed :
    (∃ stored, Check.baseUrl (.text " https://a.example// ") = .valid stored ∧
      (Client.ofCredentials stored "k").baseUrl = stored) ∧
    ∃ settings, load (sampleFiles slashedFields) [] [] = .ok settings ∧
      settings.connection.baseUrl = "https://a.example" ∧
      settings.connection.override none none = settings.connection ∧
      settings.connection.override none (some "k") = { settings.connection with apiKey := "k" } ∧
      settings.connection.override (some "https://b.example/") none =
        { settings.connection with baseUrl := "https://b.example" } := by
  have hload : load (sampleFiles slashedFields) [] [] =
      .ok { connection := { baseUrl := "https://a.example" } } := by rfl
  obtain ⟨⟨stored, hstored, -, -, htrim, -, hclient⟩, hloaded⟩ := baseUrl_layers
    " https://a.example// " "https://b.example/" "k" (sampleFiles slashedFields) [] []
  obtain ⟨source, hsource, hnone, hkey, hurl⟩ := hloaded _ hload
  have hform : stored = "https://a.example" :=
    (Check.baseUrl_eq_valid_iff.mp hstored).symm.trans (by decide)
  have hclear : ¬ HidesBlank source := Credentials.trim_normalBaseUrl_iff.mp (by
    rw [Check.baseUrl_eq_valid_iff.mp hsource]
    decide)
  refine ⟨⟨stored, hstored, hclient.mpr (htrim.mp ?_)⟩, _, hload, rfl, hnone.mpr hclear,
    hkey.mpr hclear, hurl.trans ?_⟩
  · rw [hform]
    decide
  · have hother : Credentials.normalBaseUrl "https://b.example/" = "https://b.example" := by
      decide
    rw [hother]

/-- A base URL that hides a blank between the slashes at its end. -/
def hidingFields : Entries := [(.text "base_url", .text "https://api.example.com/ /")]

/-- The hidden blank is stored at the end of the base URL; storing that once more, putting no
override in place, or using it in a client drops it, and the slash before it. -/
theorem baseUrl_hidden :
    Check.baseUrl (.text "https://api.example.com/ /") = .valid "https://api.example.com/ " ∧
      Text.trim "https://api.example.com/ " ≠ ("https://api.example.com/ " : Text) ∧
      Check.baseUrl (.text "https://api.example.com/ ") = .valid "https://api.example.com" ∧
      (Client.ofCredentials "https://api.example.com/ " "k").baseUrl = "https://api.example.com" ∧
      ∃ settings, load (sampleFiles hidingFields) [] [] = .ok settings ∧
        settings.connection.override none none ≠ settings.connection ∧
        settings.connection.override none (some "k") ≠
          { settings.connection with apiKey := "k" } := by
  have hload : load (sampleFiles hidingFields) [] [] =
      .ok { connection := { baseUrl := "https://api.example.com/ " } } := by rfl
  refine ⟨by rfl, by decide, by rfl, by decide, _, hload, ?_, ?_⟩
  · exact fun h => absurd (congrArg ConnectionSettings.baseUrl h) (by decide)
  · exact fun h => absurd (congrArg ConnectionSettings.baseUrl h) (by decide)

end Settings

end ProfileFilter
