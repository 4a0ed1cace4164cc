import ProfileFilter.Proofs.Settings.Fields

/-!
# Why there are no settings

Loading fails with what is found where the settings are looked for (`load_eq`). A document that is
no mapping is refused by the checks, with one exception: if a variable is set that overrides a
field, there has to be something to put it in (`HasNoSections`). Issues lie at the root, at one of
the sections or at one of their fields (`path_mem_paths`).

Main statements: `load_eq_error`, `load_breaks_iff`.
-/

namespace ProfileFilter

/-! ## Where issues lie -/

namespace Validated

variable {α β : Type} {P : List Step → Prop}

/-- Whatever is wrong lies at one of these paths. -/
def Blames (v : Validated α) (P : List Step → Prop) : Prop :=
  ∀ issues, v = .invalid issues → ∀ issue ∈ issues, P issue.path

theorem blames_valid (a : α) : (valid a).Blames P := by
  intro issues h
  cases h

theorem blames_refuse (problem : Problem) (input : Value) (h : P []) :
    (refuse problem input : Validated α).Blames P := by
  intro issues hrefuse issue hissue
  cases hrefuse
  rw [List.mem_singleton.mp hissue]
  exact h

theorem Blames.map {v : Validated α} (h : v.Blames P) (f : α → β) : (f <$> v).Blames P := by
  cases v with
  | valid a => exact blames_valid (f a)
  | invalid issues =>
    intro mapped hmapped
    cases hmapped
    exact h issues rfl

theorem Blames.seq {f : Validated (α → β)} {v : Validated α} (hf : f.Blames P) (h : v.Blames P) :
    (f <*> v).Blames P := by
  intro issues hseq issue hissue
  cases f with
  | valid g =>
    cases v with
    | valid a => cases hseq
    | invalid found =>
      cases hseq
      exact h _ rfl issue hissue
  | invalid first =>
    cases v with
    | valid a =>
      cases hseq
      exact hf _ rfl issue hissue
    | invalid found =>
      cases hseq
      rcases List.mem_append.mp hissue with hissue | hissue
      · exact hf first rfl issue hissue
      · exact h found rfl issue hissue

theorem Blames.under {v : Validated α} {Q : List Step → Prop} {key : Text} (h : v.Blames Q)
    (hkey : ∀ path, Q path → P (.key key :: path)) : (v.under key).Blames P := by
  intro issues hunder issue hissue
  cases v with
  | valid a => cases hunder
  | invalid found =>
    cases hunder
    obtain ⟨below, hbelow, rfl⟩ := List.mem_map.mp hissue
    exact hkey _ (h found rfl below hbelow)

end Validated

namespace Check

open Validated

variable {α : Type} {P : List Step → Prop}

theorem blames_optional {check : Value → Validated α} {Q : List Step → Prop} {key : Text}
    (h : ∀ v, (check v).Blames Q) (hkey : ∀ path, Q path → P (.key key :: path)) (default : α)
    (entries : Entries) : (optional [key] default check entries).Blames P := by
  rw [optional, findField?]
  cases hlookup : Value.lookup? key entries with
  | none =>
    simp only [List.findSome?_cons, hlookup]
    exact blames_valid default
  | some v =>
    simp only [List.findSome?_cons, hlookup]
    exact (h v).under hkey

theorem blames_text (v : Value) : (text v).Blames (· = []) := by
  cases v with
  | text t => exact blames_valid t
  | _ => exact blames_refuse _ _ rfl

theorem blames_integer (v : Value) : (integer v).Blames (· = []) := by
  cases v with
  | int n => exact blames_valid n
  | bool b => exact blames_valid _
  | float x =>
    rw [integer]
    split_ifs
    · exact blames_refuse _ _ rfl
    · split
      · exact blames_valid _
      · exact blames_refuse _ _ rfl
  | text t =>
    rw [integer, integerText]
    dsimp only
    split
    · exact blames_refuse _ _ rfl
    · split_ifs
      · exact blames_refuse _ _ rfl
      · exact blames_refuse _ _ rfl
      · exact blames_valid _
  | _ => exact blames_refuse _ _ rfl

theorem blames_number (v : Value) : (number v).Blames (· = []) := by
  cases v with
  | float x => exact blames_valid x
  | int n =>
    rw [number]
    split_ifs
    · exact blames_valid _
    · exact blames_refuse _ _ rfl
  | bool b => exact blames_valid _
  | text t =>
    rw [number]
    split
    · exact blames_valid _
    · split
      · exact blames_valid _
      · exact blames_refuse _ _ rfl
  | _ => exact blames_refuse _ _ rfl

/-- The issues of a section lie at the section as a whole, or at one of its fields. -/
def IsFieldPath (fields : List Text) (path : List Step) : Prop :=
  path = [] ∨ ∃ field ∈ fields, path = [.key field]

theorem blames_field {check : Value → Validated α} {fields : List Text} {key : Text}
    (h : ∀ v, (check v).Blames (· = [])) (hkey : key ∈ fields) (default : α) (entries : Entries) :
    (optional [key] default check entries).Blames (IsFieldPath fields) := by
  refine blames_optional h (fun path hpath => ?_) default entries
  rw [hpath]
  exact .inr ⟨key, hkey, rfl⟩

theorem blames_connectionSettings (v : Value) : (connectionSettings v).Blames
    (IsFieldPath ["base_url", "api_key", "timeout_seconds", "page_limit"]) := by
  cases v with
  | mapping entries =>
    refine Blames.seq (Blames.seq (Blames.seq (Blames.map ?_ _) ?_) ?_) ?_
    · exact blames_field (fun v => (blames_text v).map _) (by decide) _ _
    · exact blames_field blames_text (by decide) _ _
    · exact blames_field blames_number (by decide) _ _
    · exact blames_field blames_integer (by decide) _ _
  | _ => exact blames_refuse _ _ (.inl rfl)

theorem blames_serverSettings (v : Value) : (serverSettings v).Blames
    (IsFieldPath ["host", "port", "log_level"]) := by
  cases v with
  | mapping entries =>
    refine Blames.seq (Blames.seq (Blames.map ?_ _) ?_) ?_
    · exact blames_field blames_text (by decide) _ _
    · exact blames_field blames_integer (by decide) _ _
    · exact blames_field blames_text (by decide) _ _
  | _ => exact blames_refuse _ _ (.inl rfl)

end Check

namespace Settings

/-- The root of the settings, their sections, and the fields of these. -/
def paths : List (List Step) :=
  [] :: sections.flatMap fun s => [.key s.1] :: s.2.map fun field => [.key s.1, .key field]

theorem cons_mem_paths {s : Text × List Text} (hs : s ∈ sections) {path : List Step}
    (h : Check.IsFieldPath s.2 path) : .key s.1 :: path ∈ paths := by
  refine List.mem_cons_of_mem _ (List.mem_flatMap.mpr ⟨s, hs, ?_⟩)
  rcases h with rfl | ⟨field, hfield, rfl⟩
  · exact List.mem_cons_self
  · exact List.mem_cons_of_mem _ (List.mem_map.mpr ⟨field, hfield, rfl⟩)

/-- **An issue lies at the root, at a section or at a field of one.** -/
theorem path_mem_paths {v : Value} {issues : List Issue} (h : Check.settings v = .invalid issues) :
    ∀ issue ∈ issues, issue.path ∈ paths := by
  have hblames : (Check.settings v).Blames (· ∈ paths) := by
    cases v with
    | mapping entries =>
      refine Validated.Blames.seq (Validated.Blames.map ?_ _) ?_
      · refine Check.blames_optional Check.blames_connectionSettings (fun path hpath => ?_) _ _
        exact cons_mem_paths List.mem_cons_self hpath
      · refine Check.blames_optional Check.blames_serverSettings (fun path hpath => ?_) _ _
        exact cons_mem_paths (List.mem_cons_of_mem _ List.mem_cons_self) hpath
    | _ => exact Validated.blames_refuse _ _ List.mem_cons_self
  exact hblames issues h

/-! ## Documents -/

/-- There is something in the document and a variable that overrides a field, but the document is
no mapping that the field could be put in. -/
structure HasNoSections (environment : Environment) (document : Value) : Prop where
  /-- the document is not taken for an empty one -/
  isTruthy : document.isTruthy = true
  /-- it is no mapping -/
  ne_mapping (entries : Entries) : document ≠ .mapping entries
  /-- there are overrides -/
  overrides_ne_nil : overrides environment ≠ []

variable {environment : Environment} {document : Value}

theorem ofDocument_of_hasNoSections (h : HasNoSections environment document) :
    ofDocument environment document = .error .noSections := by
  have htruthy := h.isTruthy
  have hmapping := h.ne_mapping
  cases hoverrides : overrides environment with
  | nil => exact absurd hoverrides h.overrides_ne_nil
  | cons first rest =>
    unfold ofDocument
    rw [if_pos htruthy, hoverrides]
    cases document with
    | mapping entries => exact absurd rfl (hmapping entries)
    | null => cases htruthy
    | _ => rfl

/-- What comes of any other document is decided by the checks. -/
theorem exists_ofDocument_eq (h : ¬ HasNoSections environment document) :
    ∃ data, ofDocument environment document = ofChecked (Check.settings data) := by
  cases hoverrides : overrides environment with
  | nil =>
    unfold ofDocument
    rw [hoverrides]
    exact ⟨_, rfl⟩
  | cons first rest =>
    have hne : overrides environment ≠ [] := by
      rw [hoverrides]
      exact List.cons_ne_nil _ _
    by_cases htruthy : document.isTruthy = true
    · cases document with
      | mapping entries => exact ⟨_, ofDocument_mapping environment entries⟩
      | _ => exact absurd ⟨htruthy, fun entries => Value.noConfusion, hne⟩ h
    · unfold ofDocument
      rw [if_neg htruthy, hoverrides]
      exact ⟨_, rfl⟩

/-! ## Files -/

/-- What is found where the settings are looked for. -/
def found (files : Files) (path : Text) : FileState :=
  ((source? files path).map files).getD .missing

variable {files : Files} {path : Text} {why : LoadFailure}

/-- A path that is given has to lead somewhere; apart from that, it is decided by what is found. -/
theorem load_eq (files : Files) (environment : Environment) (path : Text) :
    load files environment path =
      if !path.isEmpty && !(files (.working path)).isThere then .error (.missing path)
      else ofFile environment (found files path) := by
  rw [load, found, source?]
  by_cases hpath : path.isEmpty = true
  · rw [if_pos hpath, if_pos hpath, hpath, Bool.not_true, Bool.false_and, if_neg Bool.false_ne_true]
    cases searchPlaces.find? fun place => (files place).isThere <;> rfl
  · rw [if_neg hpath, if_neg hpath, eq_false_of_ne_true hpath, Bool.not_false, Bool.true_and]
    cases (files (.working path)).isThere <;> rfl

theorem load_of_isThere (h : path = [] ∨ (files (.working path)).isThere = true) :
    load files environment path = ofFile environment (found files path) := by
  rw [load_eq, if_neg]
  rcases h with rfl | h
  · exact Bool.false_ne_true
  · rw [h, Bool.not_true, Bool.and_false]
    exact Bool.false_ne_true

theorem load_of_not_isThere (hpath : path ≠ [])
    (h : (files (.working path)).isThere = false) :
    load files environment path = .error (.missing path) := by
  rw [load_eq, if_pos]
  rw [h, Bool.not_false, Bool.and_true, Bool.not_eq_true', List.isEmpty_eq_false_iff]
  exact hpath

theorem isThere_found (hpath : path ≠ []) :
    (found files path).isThere = (files (.working path)).isThere := by
  rw [found, source?, if_neg (by rwa [List.isEmpty_iff])]
  rfl

/-- A file is found, but reading it or putting overrides in place breaks off. -/
inductive Breaks (environment : Environment) : FileState → LoadFailure → Prop where
  /-- it is a directory -/
  | directory : Breaks environment .directory .directory
  /-- it may not be read -/
  | denied : Breaks environment .denied .denied
  /-- the reader of documents stops at it for an unusual reason -/
  | refused (name : Text) : Breaks environment (.refused (.other name)) (.refused (.other name))
  /-- it has no sections -/
  | noSections {v : Value} : HasNoSections environment v →
    Breaks environment (.document v) .noSections

/-- Why there are no settings in what is found. -/
inductive FailsAs (environment : Environment) : FileState → LoadFailure → Prop where
  /-- it breaks -/
  | breaks {state : FileState} {why : LoadFailure} : Breaks environment state why →
    FailsAs environment state why
  /-- it is not UTF-8 -/
  | undecodable (message : Text) : FailsAs environment (.undecodable message) (.undecodable message)
  /-- it is no document -/
  | malformed (reason : Text) : FailsAs environment (.malformed reason) (.malformed reason)
  /-- there is no such value as one in it -/
  | refused (message : Text) :
    FailsAs environment (.refused (.value message)) (.refused (.value message))
  /-- the settings in it are refused -/
  | invalid {state : FileState} {data : Value} {issues : List Issue} :
    Check.settings data = .invalid issues → FailsAs environment state (.invalid issues)

theorem failsAs_of_ofChecked {state : FileState} {data : Value}
    (h : ofChecked (Check.settings data) = .error why) : FailsAs environment state why := by
  cases hchecked : Check.settings data with
  | valid settings =>
    rw [hchecked] at h
    cases h
  | invalid issues =>
    rw [hchecked] at h
    cases h
    exact .invalid hchecked

theorem failsAs_of_ofFile {state : FileState} (h : ofFile environment state = .error why) :
    FailsAs environment state why := by
  have hnull : ∀ {state}, ofDocument environment .null = .error why →
      FailsAs environment state why := by
    intro state hnull
    obtain ⟨data, hdata⟩ := exists_ofDocument_eq
      fun h : HasNoSections environment .null => Bool.false_ne_true h.isTruthy
    exact failsAs_of_ofChecked (hdata.symm.trans hnull)
  cases state with
  | missing => exact hnull h
  | blocked => exact hnull h
  | directory =>
    cases h
    exact .breaks .directory
  | denied =>
    cases h
    exact .breaks .denied
  | undecodable message =>
    cases h
    exact .undecodable message
  | malformed reason =>
    cases h
    exact .malformed reason
  | refused why =>
    cases h
    cases why with
    | value message => exact .refused message
    | other name => exact .breaks (.refused name)
  | document v =>
    by_cases hsections : HasNoSections environment v
    · obtain rfl := Except.error.inj ((ofDocument_of_hasNoSections hsections).symm.trans h)
      exact .breaks (.noSections hsections)
    · obtain ⟨data, hdata⟩ := exists_ofDocument_eq hsections
      exact failsAs_of_ofChecked (hdata.symm.trans h)

/-- **Why loading fails**: nothing is found where a path leads, or what is found fails. -/
theorem load_eq_error (h : load files environment path = .error why) :
    (path ≠ [] ∧ (files (.working path)).isThere = false ∧ why = .missing path) ∨
      FailsAs environment (found files path) why := by
  by_cases hpath : path = []
  · exact .inr (failsAs_of_ofFile ((load_of_isThere (.inl hpath)).symm.trans h))
  · cases hthere : (files (.working path)).isThere with
    | false =>
      exact .inl ⟨hpath, rfl, Except.error.inj (h.symm.trans (load_of_not_isThere hpath hthere))⟩
    | true => exact .inr (failsAs_of_ofFile ((load_of_isThere (.inr hthere)).symm.trans h))

theorem load_eq_missing_iff {p : Text} : load files environment path = .error (.missing p) ↔
    p = path ∧ path ≠ [] ∧ (files (.working path)).isThere = false := by
  constructor
  · intro h
    rcases load_eq_error h with ⟨hpath, hthere, hwhy⟩ | hfails
    · cases hwhy
      exact ⟨rfl, hpath, hthere⟩
    · generalize found files path = state at hfails
      cases hfails with
      | breaks hbreaks => cases hbreaks
  · rintro ⟨rfl, hpath, hthere⟩
    exact load_of_not_isThere hpath hthere

theorem ofFile_of_breaks {state : FileState} (h : Breaks environment state why) :
    ofFile environment state = .error why := by
  cases h with
  | directory => rfl
  | denied => rfl
  | refused => rfl
  | noSections h => exact ofDocument_of_hasNoSections h

theorem isThere_of_breaks {state : FileState} (h : Breaks environment state why) :
    state.isThere = true := by
  cases h <;> rfl

/-- Is the failure one that loading settings is known to end with? -/
def LoadFailure.isKnown : LoadFailure → Bool
  | .missing _ | .undecodable _ | .malformed _ | .refused (.value _) | .invalid _ => true
  | .directory | .denied | .refused (.other _) | .noSections => false

/-- **When loading breaks off**: exactly if what is found breaks. -/
theorem load_breaks_iff :
    load files environment path = .error why ∧ why.isKnown = false ↔
      Breaks environment (found files path) why := by
  constructor
  · rintro ⟨h, hknown⟩
    rcases load_eq_error h with ⟨-, -, rfl⟩ | hfails
    · cases hknown
    · generalize found files path = state at hfails ⊢
      cases hfails with
      | breaks hbreaks => exact hbreaks
      | undecodable => cases hknown
      | malformed => cases hknown
      | refused => cases hknown
      | invalid => cases hknown
  · intro h
    have hload : load files environment path = ofFile environment (found files path) := by
      refine load_of_isThere ?_
      by_cases hpath : path = []
      · exact .inl hpath
      · exact .inr ((isThere_found hpath).symm.trans (isThere_of_breaks h))
    refine ⟨hload.trans (ofFile_of_breaks h), ?_⟩
    generalize found files path = state at h
    cases h <;> rfl

end Settings

end ProfileFilter
