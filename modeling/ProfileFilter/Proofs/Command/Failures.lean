import ProfileFilter.Proofs.Secrecy
import ProfileFilter.Proofs.Settings.Failures
import ProfileFilter.Proofs.Terminal.Escaping
import ProfileFilter.Proofs.Value.Tellable

/-!
# Commands that fail

A command that fails tells why, ends with exit code one and does nothing else. The message is shown
as a whole, unless a terminal takes a word in it for the code of a picture; if it holds a lone
surrogate, no terminal takes it.

This is how a command ends that has no settings, with four exceptions: a settings file interrupts it
that is a directory, may not be read, has no sections for the overrides, or stops the reader of
documents for an unusual reason.

Main statement: `run_without_settings`.
-/

namespace ProfileFilter

open Markup (expandTabs hasCode isEncodable_shown isPrefix_shown isSolid literal Shows)

/-! ## Messages -/

/-- The outcome of a command that fails with a message: nothing is done but to tell it. -/
structure Outcome.FailsWith (outcome : Outcome) (message : Text) : Prop where
  /-- the exit code -/
  exitCode : outcome.exitCode = 1
  /-- no requests are made -/
  requests : outcome.requests = []
  /-- nothing else is shown -/
  displays : outcome.displays = []
  /-- no service is started -/
  serving : outcome.serving = none
  /-- a message that can be told is; it is shown as a whole if it holds no code for a picture -/
  told : message.isEncodable = true → outcome.interruption = none ∧
    (hasCode message = false →
      ∃ shown, outcome.stdout = shown ++ "\n" ∧ message.filter isSolid <+: shown.filter isSolid)
  /-- no terminal takes another one -/
  untold : message.isEncodable = false →
    outcome.interruption = some .unencodable ∧ outcome.stdout = []

namespace Outcome

variable {line message : Text}

/-- A line that shows a message is printed if the message can be told. -/
theorem printed_eq (h : Shows line message) : ∃ extra : Text, printed 1 [line] =
    if message.isEncodable
    then { exitCode := 1, stdout := expandTabs 0 (literal 0 message ++ extra) ++ "\n" }
    else interrupted .unencodable := by
  obtain ⟨extra, hextra, hplain⟩ := h
  refine ⟨extra, ?_⟩
  rw [printed, print, hplain]
  simp only [isEncodable_shown hextra]
  rfl

theorem failsWith_printed (h : Shows line message) : (printed 1 [line]).FailsWith message := by
  obtain ⟨extra, hprinted⟩ := printed_eq h
  rw [hprinted]
  cases hencodable : message.isEncodable with
  | true =>
    exact ⟨rfl, rfl, rfl, rfl, fun _ => ⟨rfl, fun _ => ⟨_, rfl, isPrefix_shown message extra⟩⟩,
      fun h => absurd (hencodable.symm.trans h) (by decide)⟩
  | false =>
    exact ⟨rfl, rfl, rfl, rfl, fun h => absurd (hencodable.symm.trans h) (by decide),
      fun _ => ⟨rfl, rfl⟩⟩

end Outcome

/-! ## Settings -/

namespace Settings.LoadFailure

/-- What is told of a failure, or what it interrupts a command with; `report` says how issues are
reported. -/
def told (report : List Issue → Text) : LoadFailure → Except Interruption Text
  | .missing path => .ok ("Config file not found: " ++ path)
  | .undecodable message => .ok ("Invalid configuration: " ++ message)
  | .malformed reason => .ok ("Invalid configuration: " ++ reason)
  | .refused (.value message) => .ok ("Invalid configuration: " ++ message)
  | .invalid issues => .ok ("Invalid configuration: " ++ report issues)
  | .directory => .error .directory
  | .denied => .error .denied
  | .refused (.other name) => .error (.refused (.other name))
  | .noSections => .error .noSections

/-- The text that a failure is told with, if it is told. -/
def text (report : List Issue → Text) : LoadFailure → Text
  | .missing path => path
  | .undecodable message => message
  | .malformed reason => reason
  | .refused (.value message) => message
  | .invalid issues => report issues
  | _ => []

end Settings.LoadFailure

/-! ## Reports of issues -/

theorem Utf8.isPrefix_takeBytes (n : Nat) (t : Text) : takeBytes n t <+: t := by
  induction t generalizing n with
  | nil => exact List.prefix_refl []
  | cons c rest ih =>
    simp only [takeBytes]
    split_ifs
    · exact List.cons_prefix_cons.mpr ⟨rfl, ih _⟩
    · exact List.nil_prefix

theorem Utf8.isEncodable_abridged {t : Text} (h : t.isEncodable = true) :
    (abridged t).isEncodable = true := by
  have hfront : (takeBytes 25 t).isEncodable = true :=
    Text.isEncodable_of_subset (isPrefix_takeBytes 25 t).subset h
  have hback : (takeBytes 24 t.reverse).isEncodable = true := by
    refine Text.isEncodable_of_subset (isPrefix_takeBytes 24 t.reverse).subset ?_
    rwa [Text.isEncodable_reverse]
  rw [abridged]
  split_ifs
  · exact h
  · simp only [Text.isEncodable_append, Text.isEncodable_reverse, Text.isEncodable_ofString,
      hfront, hback, Bool.and_self]

theorem Settings.isEncodable_shown_of_mem_paths : ∀ path ∈ paths, ∀ step ∈ path,
    step.shown.isEncodable = true := by
  decide

namespace Issue

variable (issue : Issue)

/-- What is wrong is said in fixed words, and what was given is quoted. -/
theorem isEncodable_problemLine : issue.problemLine.isEncodable = true := by
  simp only [problemLine, Text.isEncodable_append, Text.isEncodable_ofString,
    Utf8.isEncodable_abridged issue.input.isEncodable_literal, Bool.and_self]

/-- Where an issue lies is said with the names of settings. -/
theorem all_isEncodable_placeLines (h : issue.path ∈ Settings.paths) :
    issue.placeLines.all Text.isEncodable = true := by
  have hdot : ("." : Text).isEncodable = true := Text.isEncodable_ofString _
  rw [placeLines]
  split_ifs
  · rfl
  · simp only [List.all_cons, List.all_nil, Bool.and_true, Text.isEncodable_join hdot,
      List.all_map, List.all_eq_true, Function.comp_apply]
    exact Settings.isEncodable_shown_of_mem_paths issue.path h

end Issue

/-- **A report of issues with settings can always be told.** -/
theorem Settings.isEncodable_report {issues : List Issue}
    (h : ∀ issue ∈ issues, issue.path ∈ paths) : (report issues).isEncodable = true := by
  have htitle : ∀ title : Text, title = " validation error" ∨ title = " validation errors" →
      title.isEncodable = true := by
    rintro title (rfl | rfl) <;> exact Text.isEncodable_ofString _
  rw [report, Text.isEncodable_join (Text.isEncodable_ofString _), List.all_cons,
    List.all_flatMap, Bool.and_eq_true, List.all_eq_true]
  constructor
  · simp only [Text.isEncodable_append, Text.isEncodable_ofNat, Text.isEncodable_ofString,
      Bool.true_and, Bool.and_true]
    apply htitle
    split_ifs
    · exact .inl rfl
    · exact .inr rfl
  · intro issue hissue
    rw [List.all_append, issue.all_isEncodable_placeLines (h issue hissue), List.all_cons,
      issue.isEncodable_problemLine]
    rfl

namespace Command

open Settings (LoadFailure)

section Told

variable (report : List Issue → Text) {why : LoadFailure}

/-- What comes of a failure: a path that leads nowhere is told, or what is invalid is told, or the
command is interrupted. -/
theorem withoutSettings_cases (why : LoadFailure) :
    (∃ path, why = .missing path) ∨
    (why.isKnown = true ∧ why.told report = .ok ("Invalid configuration: " ++ why.text report) ∧
      withoutSettings report why = withoutSettings.invalid (why.text report)) ∨
    (why.isKnown = false ∧ ∃ reason, why.told report = .error reason ∧
      withoutSettings report why = .interrupted reason) := by
  cases why with
  | missing path => exact .inl ⟨path, rfl⟩
  | directory => exact .inr (.inr ⟨rfl, _, rfl, rfl⟩)
  | denied => exact .inr (.inr ⟨rfl, _, rfl, rfl⟩)
  | noSections => exact .inr (.inr ⟨rfl, _, rfl, rfl⟩)
  | refused why =>
    cases why with
    | value message => exact .inr (.inl ⟨rfl, rfl, rfl⟩)
    | other name => exact .inr (.inr ⟨rfl, _, rfl, rfl⟩)
  | _ => exact .inr (.inl ⟨rfl, rfl, rfl⟩)

/-- A failure that is known is told with a label, and only its text may be such that it cannot be
told. -/
theorem failsWith_withoutSettings (h : why.isKnown = true) : ∃ message,
    why.told report = .ok message ∧ (withoutSettings report why).FailsWith message ∧
      message.isEncodable = (why.text report).isEncodable := by
  have hlabel : ∀ (label : String) (t : Text),
      (Text.ofString label ++ t).isEncodable = t.isEncodable := by
    intro label t
    rw [Text.isEncodable_append, Text.isEncodable_ofString, Bool.true_and]
  obtain ⟨path, rfl⟩ | ⟨-, htold, houtcome⟩ | ⟨hunknown, -⟩ := withoutSettings_cases report why
  · exact ⟨_, rfl, Outcome.failsWith_printed (Markup.shows_red _), hlabel _ path⟩
  · rw [houtcome]
    exact ⟨_, htold, Outcome.failsWith_printed (Markup.shows_labelled _), hlabel _ _⟩
  · rw [h] at hunknown
    cases hunknown

theorem withoutSettings_eq_interrupted (h : why.isKnown = false) : ∃ reason,
    why.told report = .error reason ∧ withoutSettings report why = .interrupted reason := by
  obtain ⟨path, rfl⟩ | ⟨hknown, -⟩ | ⟨-, hinterrupted⟩ := withoutSettings_cases report why
  · cases h
  · rw [h] at hknown
    cases hknown
  · exact hinterrupted

end Told

/-- The issues that loading ends with lie at the root, at a section or at a field of one. -/
theorem path_mem_of_load_eq_invalid {files : Files} {environment : Environment} {path : Text}
    {issues : List Issue} (h : Settings.load files environment path = .error (.invalid issues)) :
    ∀ issue ∈ issues, issue.path ∈ Settings.paths := by
  obtain ⟨-, -, hwhy⟩ | hfails := Settings.load_eq_error h
  · cases hwhy
  · generalize Settings.found files path = state at hfails
    cases hfails with
    | breaks hbreaks => cases hbreaks
    | invalid hchecked => exact Settings.path_mem_paths hchecked

/-- Where a command looks for settings, if it uses any; an empty path leaves the place open. -/
def settingsPath? (config : Option Text) : Command → Option Text
  | .attributes .. | .test .. | .serve .. | .configShow _ => some (config.getD [])
  | .configValidate own => some (orElse own (config.getD []))
  | .operators .. | .compile .. | .help => none

theorem run_of_load_eq_error {world : World} {config : Option Text} {command : Command}
    {path : Text} {why : LoadFailure} (hpath : command.settingsPath? config = some path)
    (hload : Settings.load world.files world.environment path = .error why) :
    run world config command = withoutSettings world.report why := by
  have hsettings : ∀ own (go : Settings → Outcome), orElse own (config.getD []) = path →
      withSettings world config own go = withoutSettings world.report why := by
    intro own go hown
    rw [withSettings_eq, hown, hload]
  cases command with
  | configValidate own => exact hsettings own _ (Option.some.inj hpath)
  | attributes => exact hsettings none _ (Option.some.inj hpath)
  | test => exact hsettings none _ (Option.some.inj hpath)
  | serve => exact hsettings none _ (Option.some.inj hpath)
  | configShow => exact hsettings none _ (Option.some.inj hpath)
  | operators => cases hpath
  | compile => cases hpath
  | help => cases hpath

/-- **Commands without settings.**

* Loading settings ends with settings, or with a failure that commands know: a path that leads
  nowhere, a file that is not UTF-8 or no document, a value that there is not, or issues. There is an
  exception exactly if what is found breaks: a directory, a file that may not be read, a file that
  the reader of documents stops at for another reason, or a document other than a mapping where
  there are overrides to put in.
* A command that uses settings and has none fails with a message if it knows the failure, and is
  interrupted otherwise. The message can be told if the path can, or what is said about the document
  or its issues.
* A report that quotes what was given, and names keys of settings only, can always be told. -/
theorem run_without_settings (world : World) (path : Text) :
    (∀ p, Settings.load world.files world.environment path = .error (.missing p) ↔
      p = path ∧ path ≠ [] ∧ (world.files (.working path)).isThere = false) ∧
    (∀ why, Settings.load world.files world.environment path = .error why ∧
        why.isKnown = false ↔
      Settings.Breaks world.environment (Settings.found world.files path) why) ∧
    ∀ config command, settingsPath? config command = some path → ∀ why,
      Settings.load world.files world.environment path = .error why →
        (why.isKnown = true → ∃ message, why.told world.report = .ok message ∧
          (run world config command).FailsWith message ∧
          message.isEncodable = (why.text world.report).isEncodable) ∧
        (why.isKnown = false → ∃ reason, why.told world.report = .error reason ∧
          run world config command = .interrupted reason) ∧
        ∀ issues, why = .invalid issues → (Settings.report issues).isEncodable = true := by
  refine ⟨fun p => Settings.load_eq_missing_iff, fun why => Settings.load_breaks_iff, ?_⟩
  intro config command hpath why hload
  rw [run_of_load_eq_error hpath hload]
  refine ⟨failsWith_withoutSettings world.report, withoutSettings_eq_interrupted world.report, ?_⟩
  rintro issues rfl
  exact Settings.isEncodable_report (path_mem_of_load_eq_invalid hload)

/-- A world in which settings are found, a service gives no answer, and nothing else is there. -/
def worldOf (settings : FileState) (environment : Environment) : World where
  files place := if place = .working "people-filter.yaml" then settings else .missing
  environment := environment
  service _ _ := .answer 200 []

/-- A port that is no number, and a path that leads nowhere. -/
theorem run_without_settings_port :
    let world := worldOf
      (.document (.mapping [(.text "server", .mapping [(.text "port", .text "x")])])) []
    (run world none (.configValidate none)).FailsWith ("Invalid configuration: " ++
      ("1 validation error for FilterBuilderConfig\nserver.port\n" ++
        ("  Input should be a valid integer, unable to parse string as an integer " ++
          "[type=int_parsing, input_value='x', input_type=str]"))) ∧
    (run world none (.configValidate none)).interruption = none ∧
    (run world (some "no.yaml") (.configShow true)).FailsWith "Config file not found: no.yaml" ∧
    (run world (some "no.yaml") (.configShow true)).interruption = none := by
  intro world
  have hport : Settings.load world.files world.environment [] =
      .error (.invalid [⟨.intParsing, .text "x", [.key "server", .key "port"]⟩]) := by rfl
  have hreport : Settings.report [⟨.intParsing, .text "x", [.key "server", .key "port"]⟩] =
      "1 validation error for FilterBuilderConfig\nserver.port\n" ++
        ("  Input should be a valid integer, unable to parse string as an integer " ++
          "[type=int_parsing, input_value='x', input_type=str]") := by
    decide +kernel
  obtain ⟨hmissing, -, -⟩ := run_without_settings world "no.yaml"
  have hno : Settings.load world.files world.environment "no.yaml" = .error (.missing "no.yaml") :=
    (hmissing _).mpr ⟨rfl, by decide, by rfl⟩
  obtain ⟨-, -, hrun⟩ := run_without_settings world []
  obtain ⟨-, -, hrun'⟩ := run_without_settings world "no.yaml"
  obtain ⟨hknown, -, hencodable⟩ := hrun none (.configValidate none) rfl _ hport
  obtain ⟨message, hmessage, hvalidate, htold⟩ := hknown rfl
  obtain rfl := Except.ok.inj hmessage
  have hinterruption := (hvalidate.told (htold.trans (hencodable _ rfl))).1
  rw [← hreport]
  obtain ⟨message', hmessage', hshow, htold'⟩ :=
    (hrun' (some "no.yaml") (.configShow true) rfl _ hno).1 rfl
  obtain rfl : "Config file not found: no.yaml" = message' := Except.ok.inj hmessage'
  exact ⟨hvalidate, hinterruption, hshow,
    (hshow.told (htold'.trans (by decide))).1⟩

/-- With a variable that overrides the port and a file that holds a list, no command says what is
wrong. -/
theorem run_without_sections :
    let world := worldOf (.document (.list [.int 1])) [("PEOPLEFILTER_SERVER_PORT", "1")]
    Settings.load world.files world.environment [] = .error .noSections ∧
    (run world none (.configShow false)).interruption = some .noSections ∧
    (run world none (.configShow false)).stdout = [] := by
  exact ⟨rfl, rfl, rfl⟩

end Command

end ProfileFilter
