import Mathlib.Order.Fin.Basic
import ProfileFilter.Proofs.Settings.Reference
import ProfileFilter.Proofs.Validate.Grant
import ProfileFilter.Settings.Load

/-!
# Where settings come from

The fields of the settings are independent. Each comes from its own variable in the environment;
without that from its own entry in the file, in which references are replaced; and without that
from its default. Variables that are neither the own variable of a field nor named by a reference
in the file change nothing.

A variable may be both: a reference in the file may name the variable that overrides another field
(`load_referred`).

Main statement: `load_fields`.
-/

namespace ProfileFilter

namespace Settings

/-! ## Fields -/

/-- The fields of the settings, by what they hold. -/
inductive Field : Type → Type where
  /-- the base URL -/
  | baseUrl : Field Text
  /-- the key -/
  | apiKey : Field Text
  /-- how many seconds to wait for an answer -/
  | timeoutSeconds : Field Binary64
  /-- how many items a page may hold -/
  | pageLimit : Field Int
  /-- the address to bind -/
  | host : Field Text
  /-- the port to bind -/
  | port : Field Int
  /-- how much to log -/
  | logLevel : Field Text

namespace Field

variable {α : Type}

/-- The section in which the field is filed. -/
def sectionName : Field α → Text
  | baseUrl | apiKey | timeoutSeconds | pageLimit => "connection"
  | host | port | logLevel => "server"

/-- The key under which the field is filed in its section. -/
def key : Field α → Text
  | baseUrl => "base_url"
  | apiKey => "api_key"
  | timeoutSeconds => "timeout_seconds"
  | pageLimit => "page_limit"
  | host => "host"
  | port => "port"
  | logLevel => "log_level"

/-- The variable that overrides the field. -/
def variableName (f : Field α) : Text := Settings.variableName f.sectionName f.key

/-- How a value for the field is checked. -/
def check : {α : Type} → Field α → Value → Validated α
  | _, baseUrl => Check.baseUrl
  | _, apiKey | _, host | _, logLevel => Check.text
  | _, timeoutSeconds => Check.number
  | _, pageLimit | _, port => Check.integer

/-- The field of given settings. -/
def get : {α : Type} → Field α → Settings → α
  | _, baseUrl, settings => settings.connection.baseUrl
  | _, apiKey, settings => settings.connection.apiKey
  | _, timeoutSeconds, settings => settings.connection.timeoutSeconds
  | _, pageLimit, settings => settings.connection.pageLimit
  | _, host, settings => settings.server.host
  | _, port, settings => settings.server.port
  | _, logLevel, settings => settings.server.logLevel

/-- The field of settings that nothing is said about. -/
def default (f : Field α) : α := f.get {}

end Field

/-- Every field that can be overridden is one. -/
theorem exists_field : ∀ s ∈ sections, ∀ key ∈ s.2,
    ∃ (α : Type) (f : Field α), f.sectionName = s.1 ∧ f.key = key := by
  simp only [sections, List.forall_mem_cons, List.not_mem_nil, false_implies, implies_true,
    and_true]
  exact ⟨⟨⟨_, .baseUrl, rfl, rfl⟩, ⟨_, .apiKey, rfl, rfl⟩, ⟨_, .timeoutSeconds, rfl, rfl⟩,
    ⟨_, .pageLimit, rfl, rfl⟩⟩, ⟨_, .host, rfl, rfl⟩, ⟨_, .port, rfl, rfl⟩, ⟨_, .logLevel, rfl, rfl⟩⟩

/-! ## Sections -/

/-- The entries of a section; of one that is not there or no mapping, none. -/
def sectionOf (entries : Entries) (name : Text) : Entries :=
  match Value.get name entries with
  | .mapping fields => fields
  | _ => []

/-- The value that is filed under a key of a section. -/
def valueAt? (entries : Entries) (name key : Text) : Option Value :=
  Value.lookup? key (sectionOf entries name)

/-- The sections are mappings or not there, and no text is the key of two entries. -/
structure HasSections (entries : Entries) : Prop where
  /-- the keys of the entries are distinct -/
  distinct : Value.HasDistinctKeys entries
  /-- what is filed as a section is a mapping with distinct keys -/
  mapping {name : Text} {v : Value} : name ∈ sections.map Prod.fst →
    Value.lookup? name entries = some v → ∃ fields, v = .mapping fields ∧
      Value.HasDistinctKeys fields

variable {entries : Entries} {name : Text}

theorem sectionOf_of_lookup? {fields : Entries}
    (h : Value.lookup? name entries = some (.mapping fields)) :
    sectionOf entries name = fields := by
  rw [sectionOf, Value.get, h]
  rfl

theorem sectionOf_eq_nil (h : Value.lookup? name entries = none) :
    sectionOf entries name = [] := by
  rw [sectionOf, Value.get, h]
  rfl

theorem HasSections.sectionOf (h : HasSections entries) (hname : name ∈ sections.map Prod.fst) :
    Value.HasDistinctKeys (sectionOf entries name) := by
  cases hlookup : Value.lookup? name entries with
  | none =>
    rw [sectionOf_eq_nil hlookup]
    exact List.Pairwise.nil
  | some v =>
    obtain ⟨fields, rfl, hfields⟩ := h.mapping hname hlookup
    rwa [sectionOf_of_lookup? hlookup]

section Expand

variable (environment : Environment)

theorem HasSections.expandEntries (h : HasSections entries) :
    HasSections (Reference.expandEntries environment entries) where
  distinct := Reference.hasDistinctKeys_expandEntries environment h.distinct
  mapping hname hlookup := by
    rw [Reference.lookup?_expandEntries] at hlookup
    obtain ⟨w, hw, rfl⟩ := Option.map_eq_some_iff.mp hlookup
    obtain ⟨fields, rfl, hfields⟩ := h.mapping hname hw
    exact ⟨_, rfl, Reference.hasDistinctKeys_expandEntries environment hfields⟩

/-- Expanding a document expands the values in its sections. -/
theorem HasSections.valueAt?_expandEntries (h : HasSections entries)
    (hname : name ∈ sections.map Prod.fst) (key : Text) :
    valueAt? (Reference.expandEntries environment entries) name key =
      (valueAt? entries name key).map (Reference.expand environment) := by
  have hexpanded := Reference.lookup?_expandEntries environment name entries
  cases hlookup : Value.lookup? name entries with
  | none =>
    rw [hlookup] at hexpanded
    rw [valueAt?, valueAt?, sectionOf_eq_nil hlookup, sectionOf_eq_nil hexpanded]
    rfl
  | some v =>
    obtain ⟨fields, rfl, -⟩ := h.mapping hname hlookup
    rw [hlookup] at hexpanded
    rw [valueAt?, valueAt?, sectionOf_of_lookup? hlookup, sectionOf_of_lookup? hexpanded]
    exact Reference.lookup?_expandEntries environment key fields

end Expand

/-! ## Overrides -/

section Override

variable (environment : Environment)

/-- What is found first for one of two reasons, else elsewhere. -/
theorem or_ite_or {β : Type} {p q : Prop} [Decidable p] [Decidable q] (x y : Option β) :
    (if p ∨ q then x else none).or y =
      (if q then x else none).or ((if p then x else none).or y) := by
  by_cases hp : p <;> by_cases hq : q <;> cases x <;> simp [hp, hq]

/-- Filing the overrides of a section, field after field: a field whose variable is set is found
with the value of the variable, and everything else as before. -/
theorem lookup?_foldl_overridesOf (name : Text) (names : List Text) (key : Text) {fields : Entries}
    (h : Value.HasDistinctKeys fields) :
    let filed := (overridesOf environment name names).foldl
      (fun fields o => Value.insert o.1 (.text o.2) fields) fields
    Value.HasDistinctKeys filed ∧
      Value.lookup? key filed =
        (if key ∈ names then (environment.lookup (variableName name key)).map .text else none).or
          (Value.lookup? key fields) := by
  induction names generalizing fields with
  | nil => exact ⟨h, rfl⟩
  | cons first rest ih =>
    simp only [List.mem_cons, or_ite_or]
    cases hset : environment.lookup (variableName name first) with
    | none =>
      have hskip : overridesOf environment name (first :: rest) =
          overridesOf environment name rest := by
        rw [overridesOf, List.filterMap_cons_none (by rw [hset]; rfl), overridesOf]
      rw [hskip]
      obtain ⟨hdistinct, hlookup⟩ := ih h
      refine ⟨hdistinct, hlookup.trans ?_⟩
      by_cases hkey : key = first
      · rw [if_pos hkey, hkey, hset, Option.map_none, Option.none_or]
      · rw [if_neg hkey, Option.none_or]
    | some t =>
      have hfile : overridesOf environment name (first :: rest) =
          (first, t) :: overridesOf environment name rest := by
        rw [overridesOf, List.filterMap_cons_some (by rw [hset]; rfl), overridesOf]
      rw [hfile, List.foldl_cons]
      obtain ⟨hdistinct, hlookup⟩ := ih (h.insert first (.text t))
      refine ⟨hdistinct, hlookup.trans ?_⟩
      by_cases hkey : key = first
      · rw [if_pos hkey, hkey, Value.lookup?_insert_self h, hset, Option.map_some, Option.some_or]
      · rw [if_neg hkey, Value.lookup?_insert_of_ne hkey, Option.none_or]

theorem lookup_eq_none_of_overridesOf {environment : Environment} {names : List Text} {key : Text}
    (h : overridesOf environment name names = []) (hkey : key ∈ names) :
    environment.lookup (variableName name key) = none :=
  Option.map_eq_none_iff.mp (List.filterMap_eq_nil_iff.mp h key hkey)

theorem overrideSection_eq (entries : Entries) (name : Text) (values : List (Text × Text)) :
    overrideSection entries name values = Value.insert name (.mapping (values.foldl
      (fun fields o => Value.insert o.1 (.text o.2) fields) (sectionOf entries name))) entries :=
  rfl

/-- Overriding a section keeps the sections, and changes the fields whose variables are set. -/
theorem HasSections.overrideSection (h : HasSections entries)
    (hname : name ∈ sections.map Prod.fst) (names : List Text) :
    let overridden := overrideSection entries name (overridesOf environment name names)
    HasSections overridden ∧ ∀ other key, valueAt? overridden other key =
      (if other = name ∧ key ∈ names then
        (environment.lookup (variableName other key)).map .text else none).or
        (valueAt? entries other key) := by
  have hfiled := fun key => lookup?_foldl_overridesOf environment name names key
    (h.sectionOf hname)
  rw [overrideSection_eq]
  refine ⟨⟨h.distinct.insert _ _, fun {other v} hother hlookup => ?_⟩, fun other key => ?_⟩
  · by_cases hne : other = name
    · subst hne
      rw [Value.lookup?_insert_self h.distinct] at hlookup
      exact ⟨_, (Option.some.inj hlookup).symm, (hfiled []).1⟩
    · rw [Value.lookup?_insert_of_ne hne] at hlookup
      exact h.mapping hother hlookup
  · by_cases hne : other = name
    · subst hne
      rw [valueAt?, sectionOf_of_lookup? (Value.lookup?_insert_self h.distinct _ _),
        (hfiled key).2]
      simp [valueAt?]
    · rw [valueAt?, Settings.sectionOf, Value.get, Value.lookup?_insert_of_ne hne]
      simp [hne, valueAt?, Settings.sectionOf, Value.get]

/-- The entries with the overrides of all sections. -/
def overridden (environment : Environment) (entries : Entries) : Entries :=
  (overrides environment).foldl (fun entries o => overrideSection entries o.1 o.2) entries

/-- Overriding the sections one after the other. -/
theorem HasSections.foldl_overrideSection (found : List (Text × List Text))
    (hfound : ∀ s ∈ found, s.1 ∈ sections.map Prod.fst) (h : HasSections entries) :
    let overridden := ((found.map fun s => (s.1, overridesOf environment s.1 s.2)).filter
      fun entry => !entry.2.isEmpty).foldl
        (fun entries o => Settings.overrideSection entries o.1 o.2) entries
    HasSections overridden ∧ ∀ other key, valueAt? overridden other key =
      (if ∃ s ∈ found, other = s.1 ∧ key ∈ s.2 then
        (environment.lookup (variableName other key)).map .text else none).or
        (valueAt? entries other key) := by
  induction found generalizing entries with
  | nil => exact ⟨h, fun other key => by simp⟩
  | cons first rest ih =>
    obtain ⟨name, names⟩ := first
    obtain ⟨hname, hrest⟩ := List.forall_mem_cons.mp hfound
    obtain ⟨hfirst, hvalue⟩ := h.overrideSection environment hname names
    simp only [List.exists_mem_cons_iff, or_ite_or, List.map_cons]
    by_cases hempty : overridesOf environment name names = []
    · rw [List.filter_cons_of_neg (by simp [hempty])]
      obtain ⟨hsections, hothers⟩ := ih hrest h
      refine ⟨hsections, fun other key => (hothers other key).trans ?_⟩
      congr 1
      split_ifs with hkey
      · rw [hkey.1, lookup_eq_none_of_overridesOf hempty hkey.2, Option.map_none, Option.none_or]
      · rw [Option.none_or]
    · rw [List.filter_cons_of_pos (by simp [hempty]), List.foldl_cons]
      obtain ⟨hsections, hothers⟩ := ih hrest hfirst
      exact ⟨hsections, fun other key => (hothers other key).trans (by rw [hvalue])⟩

theorem Field.exists_mem_sections {α : Type} (f : Field α) :
    ∃ s ∈ sections, f.sectionName = s.1 ∧ f.key ∈ s.2 := by
  cases f <;> decide

theorem Field.sectionName_mem {α : Type} (f : Field α) :
    f.sectionName ∈ sections.map Prod.fst := by
  cases f <;> decide

theorem HasSections.overridden (h : HasSections entries) :
    HasSections (overridden environment entries) :=
  (h.foldl_overrideSection environment sections fun _ hs => List.mem_map_of_mem hs).1

/-- What is found for a field after overriding is what its own variable holds, else what was
found before. -/
theorem HasSections.valueAt?_overridden (h : HasSections entries) {α : Type} (f : Field α) :
    valueAt? (Settings.overridden environment entries) f.sectionName f.key =
      ((environment.lookup f.variableName).map .text).or
        (valueAt? entries f.sectionName f.key) := by
  have hfold := (h.foldl_overrideSection environment sections
    fun _ hs => List.mem_map_of_mem hs).2 f.sectionName f.key
  rwa [if_pos f.exists_mem_sections] at hfold

end Override

/-! ## Checking -/

section Check

variable {α : Type}

/-- A field with a default, under one key. -/
theorem optional_eq_valid {key : Text} {default a : α} {check : Value → Validated α}
    (h : Check.optional [key] default check entries = .valid a) :
    match Value.lookup? key entries with
    | some v => check v = .valid a
    | none => a = default := by
  simp only [Check.optional, Check.findField?, List.findSome?_cons, List.findSome?_nil] at h
  cases hlookup : Value.lookup? key entries with
  | none =>
    rw [hlookup] at h
    exact (Validated.valid.inj h).symm
  | some v =>
    rw [hlookup] at h
    exact Validated.under_eq_valid.mp h

/-- A section that is not there is like an empty one. -/
theorem HasSections.check_sectionOf (h : HasSections entries)
    (hname : name ∈ sections.map Prod.fst) {default a : α} {check : Value → Validated α}
    (hcheck : Check.optional [name] default check entries = .valid a)
    (hdefault : check (.mapping []) = .valid default) :
    check (.mapping (Settings.sectionOf entries name)) = .valid a := by
  have hfound := optional_eq_valid hcheck
  cases hlookup : Value.lookup? name entries with
  | none =>
    rw [hlookup] at hfound
    rw [sectionOf_eq_nil hlookup, hdefault, hfound]
  | some v =>
    obtain ⟨fields, rfl, -⟩ := h.mapping hname hlookup
    rw [hlookup] at hfound
    rwa [sectionOf_of_lookup? hlookup]

/-- **Every field of checked settings comes from its own entry**, or from its default. -/
theorem HasSections.get_of_check (h : HasSections entries) {settings : Settings}
    (hcheck : Check.settings (.mapping entries) = .valid settings) (f : Field α) :
    match valueAt? entries f.sectionName f.key with
    | some v => f.check v = .valid (f.get settings)
    | none => f.get settings = f.default := by
  obtain ⟨_, server, hupToServer, hserver, rfl⟩ := Validated.seq_eq_valid.mp hcheck
  obtain ⟨connection, hconnection, rfl⟩ := Validated.map_eq_valid.mp hupToServer
  have hconnection := h.check_sectionOf Field.baseUrl.sectionName_mem hconnection rfl
  have hserver := h.check_sectionOf Field.host.sectionName_mem hserver rfl
  -- both records are applied field by field, so they come apart from their last fields on
  obtain ⟨_, _, hupToTimeout, hpageLimit, rfl⟩ := Validated.seq_eq_valid.mp hconnection
  obtain ⟨_, _, hupToKey, htimeout, rfl⟩ := Validated.seq_eq_valid.mp hupToTimeout
  obtain ⟨_, _, hupToBase, hkey, rfl⟩ := Validated.seq_eq_valid.mp hupToKey
  obtain ⟨_, hbase, rfl⟩ := Validated.map_eq_valid.mp hupToBase
  obtain ⟨_, _, hupToPort, hlevel, rfl⟩ := Validated.seq_eq_valid.mp hserver
  obtain ⟨_, _, hupToHost, hport, rfl⟩ := Validated.seq_eq_valid.mp hupToPort
  obtain ⟨_, hhost, rfl⟩ := Validated.map_eq_valid.mp hupToHost
  cases f with
  | baseUrl => exact optional_eq_valid hbase
  | apiKey => exact optional_eq_valid hkey
  | timeoutSeconds => exact optional_eq_valid htimeout
  | pageLimit => exact optional_eq_valid hpageLimit
  | host => exact optional_eq_valid hhost
  | port => exact optional_eq_valid hport
  | logLevel => exact optional_eq_valid hlevel

end Check

/-! ## Loading -/

/-- The file that settings are loaded from: the one that is asked for, else the first there is. -/
def source? (files : Files) (path : Text) : Option Place :=
  if path.isEmpty then searchPlaces.find? fun place => (files place).isThere
  else some (.working path)

section Load

variable {files : Files} {path : Text} {place : Place} {environment other : Environment}

/-- The result of a check, as the result of loading. -/
def ofChecked : Validated Settings → Except LoadFailure Settings
  | .valid settings => .ok settings
  | .invalid issues => .error (.invalid issues)

theorem ofDocument_mapping (environment : Environment) (entries : Entries) :
    ofDocument environment (.mapping entries) = ofChecked (Check.settings
      (.mapping (overridden environment (Reference.expandEntries environment entries)))) := by
  have hdata : (if (Value.mapping entries).isTruthy
      then Reference.expand environment (.mapping entries) else .mapping []) =
        .mapping (Reference.expandEntries environment entries) := by
    cases entries <;> rfl
  simp only [ofDocument, hdata, overridden]
  cases overrides environment <;> rfl

theorem load_of_document {v : Value} (hplace : source? files path = some place)
    (hfile : files place = .document v) (environment : Environment) :
    load files environment path = ofDocument environment v := by
  rw [load]
  rw [source?] at hplace
  split at hplace
  · next hpath =>
    rw [if_pos hpath, hplace]
    exact congrArg (ofFile environment) hfile
  · next hpath =>
    obtain rfl := Option.some.inj hplace
    have hthere : (files (.working path)).isThere = true := by
      rw [hfile]
      rfl
    rw [if_neg hpath, if_pos hthere, hfile, ofFile]

theorem ofChecked_eq_ok {v : Validated Settings} {settings : Settings} :
    ofChecked v = .ok settings ↔ v = .valid settings := by
  cases v <;> simp [ofChecked]

/-- **A field of loaded settings** comes from its own variable, else from the file, else from
its default. -/
theorem get_of_load (hplace : source? files path = some place)
    (hfile : files place = .document (.mapping entries)) (hsections : HasSections entries)
    {settings : Settings} (hload : load files environment path = .ok settings)
    {α : Type} (f : Field α) :
    match ((environment.lookup f.variableName).map Value.text).or
      ((valueAt? entries f.sectionName f.key).map (Reference.expand environment)) with
    | some v => f.check v = .valid (f.get settings)
    | none => f.get settings = f.default := by
  rw [load_of_document hplace hfile, ofDocument_mapping, ofChecked_eq_ok] at hload
  have hexpanded := hsections.expandEntries environment
  have hget := (hexpanded.overridden environment).get_of_check hload f
  rwa [hexpanded.valueAt?_overridden, hsections.valueAt?_expandEntries _ f.sectionName_mem] at hget

/-- The variables of the fields decide which overrides there are. -/
theorem overrides_congr
    (h : ∀ {α : Type} (f : Field α), environment.lookup f.variableName =
      other.lookup f.variableName) :
    overrides environment = overrides other := by
  have hfields : ∀ s ∈ sections, overridesOf environment s.1 s.2 = overridesOf other s.1 s.2 := by
    intro s hs
    refine List.filterMap_congr fun key hkey => ?_
    obtain ⟨α, f, hname, rfl⟩ := exists_field s hs key hkey
    rw [← hname]
    exact congrArg _ (h f)
  rw [overrides, overrides]
  congr 1
  exact List.map_congr_left fun s hs => congrArg _ (hfields s hs)

/-- **Nothing else matters**: whatever is in the file, only the variables of the fields and the
variables that references in the file name decide what is loaded, or why nothing is. -/
theorem load_congr {v : Value} (hplace : source? files path = some place)
    (hfile : files place = .document v)
    (hfields : ∀ {α : Type} (f : Field α), environment.lookup f.variableName =
      other.lookup f.variableName)
    (hreferred : ∀ name ∈ Reference.referred v,
      environment.lookup name = other.lookup name) :
    load files environment path = load files other path := by
  rw [load_of_document hplace hfile, load_of_document hplace hfile, ofDocument, ofDocument,
    Reference.expand_congr v hreferred, overrides_congr hfields]

/-- The environments differ in no variable but one. -/
def AgreeExcept (name : Text) (environment other : Environment) : Prop :=
  ∀ n, n ≠ name → environment.lookup n = other.lookup n

/-- **Every field of the settings comes from its own variable, its own entry or its default.**
Take a file that holds a mapping, each section of which is not there or a mapping.

* If the settings load, a field whose variable is set is what the variable holds, checked; one
  whose variable is not set, but which the file gives, is what the file holds, with its references
  replaced, checked; and one that neither gives has its default.
* Changing one variable, setting it or unsetting it, changes at most the field that it overrides
  and the fields whose values in the file refer to it, if the settings load both times.
* Changing a variable that overrides no field and that nothing in the file refers to changes
  nothing: the same settings load, or they fail to for the same reason. -/
theorem load_fields (hplace : source? files path = some place)
    (hfile : files place = .document (.mapping entries)) (hsections : HasSections entries)
    (environment : Environment) :
    (∀ settings, load files environment path = .ok settings → ∀ {α : Type} (f : Field α),
      (∀ t, environment.lookup f.variableName = some t →
        f.check (.text t) = .valid (f.get settings)) ∧
      (environment.lookup f.variableName = none →
        (∀ v, valueAt? entries f.sectionName f.key = some v →
          f.check (Reference.expand environment v) = .valid (f.get settings)) ∧
        (valueAt? entries f.sectionName f.key = none → f.get settings = f.default))) ∧
    ∀ name other, AgreeExcept name environment other →
      (∀ settings settings', load files environment path = .ok settings →
        load files other path = .ok settings' → ∀ {α : Type} (f : Field α),
        f.get settings ≠ f.get settings' → f.variableName = name ∨
          ∃ v, valueAt? entries f.sectionName f.key = some v ∧ name ∈ Reference.referred v) ∧
      ((∀ {α : Type} (f : Field α), f.variableName ≠ name) →
        name ∉ Reference.referred (.mapping entries) →
        load files environment path = load files other path) := by
  refine ⟨fun settings hload α f => ?_, fun name other hagree =>
    ⟨fun settings settings' hload hload' α f hne => ?_, fun hfields hreferred => ?_⟩⟩
  · have hget := get_of_load hplace hfile hsections hload f
    refine ⟨fun t ht => ?_, fun hunset => ⟨fun v hv => ?_, fun hnone => ?_⟩⟩
    · rwa [ht] at hget
    · rwa [hunset, hv] at hget
    · rwa [hunset, hnone] at hget
  · by_contra hneither
    obtain ⟨hvariable, hrefers⟩ := not_or.mp hneither
    have hget := get_of_load hplace hfile hsections hload f
    have hget' := get_of_load hplace hfile hsections hload' f
    -- the field comes from the same value both times
    have hexpand : (valueAt? entries f.sectionName f.key).map (Reference.expand environment) =
        (valueAt? entries f.sectionName f.key).map (Reference.expand other) := by
      refine Option.map_congr fun v hv => Reference.expand_congr v fun n hn => hagree n ?_
      rintro rfl
      exact hrefers ⟨v, hv, hn⟩
    rw [← hagree _ hvariable, ← hexpand] at hget'
    split at hget
    · next v hv =>
      rw [hv] at hget'
      exact hne (Validated.valid.inj (hget.symm.trans hget'))
    · next hnone =>
      rw [hnone] at hget'
      exact hne (hget.trans hget'.symm)
  · refine load_congr hplace hfile (fun f => hagree _ (hfields f)) fun n hn => hagree n ?_
    rintro rfl
    exact hreferred hn

end Load

/-! ## Files with references -/

/-- A place for settings that holds one section, and nothing anywhere else. -/
def sampleFiles (fields : Entries) : Files := fun place =>
  if place = .working "people-filter.yaml" then
    .document (.mapping [(.text "connection", .mapping fields)])
  else .missing

theorem hasSections_sample {fields : Entries} (h : Value.HasDistinctKeys fields) :
    HasSections [(.text "connection", .mapping fields)] where
  distinct := List.pairwise_singleton _ _
  mapping _ hlookup := by
    rw [Value.lookup?_cons] at hlookup
    split at hlookup
    · exact ⟨fields, (Option.some.inj hlookup).symm, h⟩
    · cases hlookup

/-- A base URL that refers to the variable which overrides another field. -/
def referringFields : Entries :=
  [(.text "base_url", .text "$\x7bPEOPLEFILTER_SERVER_HOST\x7d")]

/-- Setting a variable can change a field that it does not override: here the base URL in the file
refers to the variable that overrides the address to bind. -/
theorem load_referred :
    let files := sampleFiles referringFields
    let name : Text := "PEOPLEFILTER_SERVER_HOST"
    HasSections [(.text "connection", .mapping referringFields)] ∧
      AgreeExcept name [(name, "h")] [] ∧
      ∃ settings settings', load files [(name, "h")] [] = .ok settings ∧
        load files [] [] = .ok settings' ∧
        Field.baseUrl.get settings ≠ Field.baseUrl.get settings' ∧
        Field.baseUrl.variableName ≠ name := by
  refine ⟨hasSections_sample (List.pairwise_singleton _ _), fun n hn => ?_,
    { connection := { baseUrl := "h" }, server := { host := "h" } },
    { connection := { baseUrl := [] } }, by rfl, by rfl, by decide, by decide⟩
  rw [List.lookup_cons, beq_eq_false_iff_ne.mpr hn]

/-- A base URL that refers to a variable, and a key. -/
def sampleFields : Entries :=
  [(.text "base_url", .text "https://$\x7bHOST\x7d/"), (.text "api_key", .text "other")]

/-- The variable that is referred to, and one that overrides the key. -/
def sampleEnvironment : Environment :=
  [("HOST", "a.example"), ("PEOPLEFILTER_CONNECTION_API_KEY", "k")]

theorem load_fields_sample :
    let files := sampleFiles sampleFields
    let stray : Environment := ("PEOPLEFILTER_SERVER_NAME", "n") :: sampleEnvironment
    let unset : Environment := [("HOST", "a.example")]
    ∃ settings settings', load files sampleEnvironment [] = .ok settings ∧
      load files stray [] = .ok settings ∧ load files unset [] = .ok settings' ∧
      settings.connection.apiKey = "k" ∧ settings.connection.baseUrl = "https://a.example" ∧
      settings.server.port = 8000 ∧
      settings'.connection.baseUrl = settings.connection.baseUrl := by
  intro files stray unset
  have hplace : source? files [] = some (.working "people-filter.yaml") := rfl
  have hdistinct : Value.HasDistinctKeys sampleFields := .of_nodup (by decide)
  obtain ⟨hget, hchange⟩ := load_fields hplace rfl (hasSections_sample hdistinct) sampleEnvironment
  have hload : load files sampleEnvironment [] = .ok { connection :=
    { baseUrl := "https://a.example", apiKey := "k" } } := by rfl
  have hunset : load files unset [] = .ok { connection :=
    { baseUrl := "https://a.example", apiKey := "other" } } := by rfl
  have hstray : AgreeExcept "PEOPLEFILTER_SERVER_NAME" sampleEnvironment stray := by
    intro n hn
    rw [List.lookup_cons, beq_eq_false_iff_ne.mpr hn]
  have hlost : AgreeExcept "PEOPLEFILTER_CONNECTION_API_KEY" sampleEnvironment unset := by
    intro n hn
    rw [sampleEnvironment, List.lookup_cons, List.lookup_cons, List.lookup_cons,
      beq_eq_false_iff_ne.mpr hn]
  refine ⟨_, _, hload, ?_, hunset, ?_, ?_, ?_, ?_⟩
  · exact ((hchange _ stray hstray).2 (fun f => by cases f <;> decide) (by decide)).symm.trans
      hload
  · exact (Validated.valid.inj ((hget _ hload .apiKey).1 "k" rfl)).symm
  · exact (Validated.valid.inj (((hget _ hload .baseUrl).2 rfl).1 _ rfl)).symm
  · exact ((hget _ hload .port).2 rfl).2 rfl
  · by_contra hne
    obtain hown | ⟨v, hv, hreferred⟩ :=
      (hchange _ unset hlost).1 _ _ hload hunset .baseUrl (Ne.symm hne)
    · exact absurd hown (by decide)
    · obtain rfl := Option.some.inj hv
      exact absurd hreferred (by decide)

end Settings

end ProfileFilter
