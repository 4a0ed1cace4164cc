import ProfileFilter.Proofs.Command.Failures
import ProfileFilter.Proofs.Terminal.Formats

/-!
# Texts that commands show

Four commands show texts from files, settings and the service: what is told of a compiled filter, of
attributes, of a result and of settings, or why a command failed. In all of them these texts are
escaped, so no styles are taken from them (`tells_run`). The command that checks settings prints the
base URL and the masked key as they are; that makes no difference exactly if neither holds a tag or
ends with a single backslash (`validLines_eq_iff`).

Main statement: `run_escapes`.
-/

namespace ProfileFilter

open Markup (Each endsOpen escape hasTag tells_escape tells_label tells_word)

/-- What an outcome shows tells texts. -/
inductive Outcome.Tells : Outcome → List Text → Prop where
  /-- nothing is shown -/
  | interrupted (why : Interruption) (requests : List Request) :
    Tells (.interrupted why requests) []
  /-- a line is printed -/
  | line {requests : List Request} {line : Text} {ts : List Text} : Markup.Tells line ts →
    Tells (.print { exitCode := 1, requests } [line]) ts
  /-- an output is shown -/
  | output {exitCode : Nat} {requests : List Request} {output : Output} {ts : List Text} :
    output.Tells ts → Tells (.shown exitCode requests (.ok output)) ts

/-- A result has no code but that of a fault. -/
theorem Connection.hasFaultCode_execute {connection : Connection} {service : Service}
    {started finished : Binary64} {encoded : Text} {result : QueryResult}
    (h : (connection.execute service started finished encoded).outcome = .ok result) :
    Format.HasFaultCode result := by
  unfold execute at h
  split at h
  · cases h
  · next request _ =>
    cases hreply : service request 0 with
    | failure f =>
      rw [hreply, QueryResult.ofReply] at h
      split_ifs at h
      obtain rfl := Except.ok.inj h
      exact fun code hcode => ⟨.network, (Option.mem_some_iff.mp hcode).symm⟩
    | answer status bytes =>
      rw [hreply] at h
      obtain rfl := Except.ok.inj h
      intro code hcode
      simp only [QueryResult.ofAnswer] at hcode
      split_ifs at hcode
      · cases hcode
      · exact ⟨ErrorBody.faultOfStatus status, (Option.mem_some_iff.mp hcode).symm⟩

namespace Command

/-- Does the command show what it comes to? -/
def showsResult : Command → Bool
  | .compile .. | .attributes .. | .test .. | .configShow _ => true
  | .operators .. | .serve .. | .configValidate _ | .help => false

/-- What a command has to tell. -/
inductive HasToTell (world : World) (config : Option Text) : Command → List Text → Prop where
  /-- nothing: it is interrupted, or shows JSON -/
  | nothing (command : Command) : HasToTell world config command []
  /-- why there are no settings; a label may stand before it -/
  | unsettled {command : Command} {path label t : Text} {why : Settings.LoadFailure} :
    Settings.load world.files world.environment path = .error why →
    why.told world.report = .ok (label ++ t) →
    label ∈ (["", "Invalid configuration: "] : List Text) → HasToTell world config command [t]
  /-- a report -/
  | report {command : Command} {report : Report} {t : Text} : report.formatted? true = some t →
    HasToTell world config command [t]
  /-- a compiled filter -/
  | compiled {file : Text} {known baseUrl : Option Text} {filter : FilterSet}
    {attributes : List Attribute} {compiled : CompiledFilter} :
    loadFilter world.files file = .ok filter →
    optionalAttributes world.files known = .ok attributes →
    compileFilter attributes filter = .ok compiled →
    HasToTell world config (.compile file known baseUrl false)
      (Format.compiledTexts compiled (Preview.requestPath compiled.encoded)
        (Preview.curl compiled.encoded baseUrl none))
  /-- attributes and warnings -/
  | loaded {baseUrl apiKey : Option Text} {connection : Connection} {limit : Int}
    {load : Directory.Load} : (Directory.load connection world.service limit).outcome = .ok load →
    HasToTell world config (.attributes baseUrl apiKey false)
      (load.attributes.flatMap Format.attributeTexts ++ load.warnings)
  /-- the result of a filter -/
  | result {file known baseUrl apiKey : Option Text} {filter : FilterSet}
    {attributes : List Attribute} {compiled : CompiledFilter} {connection : Connection}
    {result : QueryResult} :
    optionalFilter world.files file = .ok filter →
    optionalAttributes world.files known = .ok attributes →
    compileFilter attributes filter = .ok compiled →
    (connection.execute world.service .zero (Binary64.zero.add world.seconds)
      compiled.encoded).outcome = .ok result →
    HasToTell world config (.test file known baseUrl apiKey false)
      (Format.queryTexts result (Preview.requestPath compiled.encoded)
        (if result.success then summarizeResults result.body else none))
  /-- settings -/
  | settings {settings : Settings} :
    Settings.load world.files world.environment (config.getD []) = .ok settings →
    HasToTell world config (.configShow false) (Format.settingsTexts settings)

variable {world : World} {config own : Option Text} {command : Command}

/-- The outcome tells what the command has to tell. -/
def IsTold (world : World) (config : Option Text) (command : Command) (outcome : Outcome) : Prop :=
  ∃ ts, HasToTell world config command ts ∧ outcome.Tells ts

theorem isTold_interrupted (why : Interruption) (requests : List Request) :
    IsTold world config command (.interrupted why requests) :=
  ⟨[], .nothing command, .interrupted why requests⟩

theorem isTold_failed (report : Report) (requests : List Request) :
    IsTold world config command (.failed report requests) := by
  rw [Outcome.failed]
  cases hformatted : report.formatted? true with
  | none => exact isTold_interrupted .markup requests
  | some t =>
    exact ⟨[t], .report hformatted, .line ((tells_escape t).styled (by decide) (by decide))⟩

theorem isTold_withoutSettings {path : Text} {why : Settings.LoadFailure}
    (hload : Settings.load world.files world.environment path = .error why) :
    IsTold world config command (withoutSettings world.report why) := by
  obtain ⟨missing, rfl⟩ | ⟨-, htold, houtcome⟩ | ⟨-, reason, -, houtcome⟩ :=
    withoutSettings_cases world.report why
  · have hmissing : (Settings.LoadFailure.missing missing).told world.report =
        .ok (("" : Text) ++ ("Config file not found: " ++ missing)) := rfl
    exact ⟨_, .unsettled hload hmissing (by decide),
      .line ((tells_escape _).styled (by decide) (by decide))⟩
  · rw [houtcome]
    exact ⟨_, .unsettled hload htold (by decide), .line (tells_label (by decide) (by decide) _)⟩
  · rw [houtcome]
    exact isTold_interrupted reason []

theorem isTold_withSettings {go : Settings → Outcome}
    (h : ∀ settings, Settings.load world.files world.environment (orElse own (config.getD [])) =
      .ok settings → IsTold world config command (go settings)) :
    IsTold world config command (withSettings world config own go) := by
  rw [withSettings_eq]
  split
  · next settings hload => exact h settings hload
  · next failure hload => exact isTold_withoutSettings hload

theorem isTold_stopped (requests : List Request) (why : Stop) :
    IsTold world config command (stopped requests why) := by
  cases why with
  | report report => exact isTold_failed report requests
  | _ => exact isTold_interrupted _ requests

theorem isTold_withCredentials {settings : ConnectionSettings} {go : Unit → Outcome}
    (h : Credentials.require settings.baseUrl settings.apiKey = .ok () →
      IsTold world config command (go ())) :
    IsTold world config command (withCredentials settings go) := by
  rw [withCredentials]
  split
  · exact isTold_stopped [] _
  · next hrequire => exact h hrequire

theorem isTold_withRun {α : Type} {settings : ConnectionSettings} {run : Connection → Run α}
    {go : List Request → α → Outcome}
    (h : ∀ connection a, (run connection).outcome = .ok a →
      IsTold world config command (go (run connection).requests a)) :
    IsTold world config command (withRun settings run go) := by
  rw [withRun]
  split
  · exact isTold_stopped [] _
  · next connection _ =>
    dsimp only
    split
    · exact isTold_stopped _ _
    · next a ha => exact h connection a ha

theorem isTold_withoutFile (failure : FileFailure) :
    IsTold world config command (withoutFile failure) := by
  cases failure with
  | undecodable => exact isTold_interrupted .undecodable []
  | refused why => exact isTold_interrupted (.refused why) []
  | report report => exact isTold_failed report []

theorem isTold_withFilter {file known : Option Text}
    {go : FilterSet → List Attribute → Outcome}
    (h : ∀ filter attributes, optionalFilter world.files file = .ok filter →
      optionalAttributes world.files known = .ok attributes →
      IsTold world config command (go filter attributes)) :
    IsTold world config command (withFilter world file known go) := by
  rw [withFilter_eq]
  split
  · exact isTold_withoutFile _
  · next filter hfilter =>
    split
    · exact isTold_withoutFile _
    · next attributes hattributes => exact h filter attributes hfilter hattributes

/-- An output that tells what the command has to tell is shown, if there is one. -/
theorem isTold_shown {exitCode : Nat} {requests : List Request}
    {shown : Except Json.Unprintable Output}
    (h : ∀ output, shown = .ok output → ∃ ts, HasToTell world config command ts ∧ output.Tells ts) :
    IsTold world config command (.shown exitCode requests shown) := by
  cases hshown : shown with
  | error why => exact isTold_interrupted (.unprintable why) requests
  | ok output =>
    obtain ⟨ts, hts, houtput⟩ := h output hshown
    exact ⟨ts, hts, .output houtput⟩

/-- **Four commands escape what they show.** -/
theorem isTold_run (h : command.showsResult = true) :
    IsTold world config command (run world config command) := by
  cases command with
  | compile file known baseUrl asJson =>
    rw [run, runCompile]
    apply isTold_withFilter
    intro filter attributes hfilter hattributes
    cases hcompiled : compileFilter attributes filter with
    | error why => exact isTold_interrupted (.unprintable why) []
    | ok compiled =>
      apply isTold_shown
      intro output houtput
      refine ⟨_, ?_, Format.tells_compiled houtput⟩
      cases asJson with
      | true => exact .nothing _
      | false => exact .compiled hfilter hattributes hcompiled
  | attributes baseUrl apiKey asJson =>
    rw [run]
    apply isTold_withSettings
    intro settings _
    rw [runAttributes]
    apply isTold_withCredentials
    intro _
    apply isTold_withRun
    intro connection load hload
    apply isTold_shown
    intro output houtput
    refine ⟨_, ?_, Format.tells_attributes houtput⟩
    cases asJson with
    | true => exact .nothing _
    | false => exact .loaded hload
  | test file known baseUrl apiKey asJson =>
    rw [run]
    apply isTold_withSettings
    intro settings _
    rw [runTest]
    apply isTold_withCredentials
    intro _
    apply isTold_withFilter
    intro filter attributes hfilter hattributes
    cases hcompiled : compileFilter attributes filter with
    | error why => exact isTold_interrupted (.unprintable why) []
    | ok compiled =>
      apply isTold_withRun
      intro connection result hresult
      apply isTold_shown
      intro output houtput
      refine ⟨_, ?_, Format.tells_query (Connection.hasFaultCode_execute hresult) houtput⟩
      cases asJson with
      | true => exact .nothing _
      | false => exact .result hfilter hattributes hcompiled hresult
  | configShow asJson =>
    rw [run]
    apply isTold_withSettings
    intro settings hload
    apply isTold_shown
    intro output houtput
    refine ⟨_, ?_, Format.tells_settings houtput⟩
    cases asJson with
    | true => exact .nothing _
    | false => exact .settings hload
  | operators => cases h
  | serve => cases h
  | configValidate => cases h
  | help => cases h

/-! ## Valid settings -/

/-- The lines about valid settings. -/
def validLines (url key : Text) : List Text :=
  [Format.styled "green" "Config is valid.", "  Base URL: " ++ url, "  API key: " ++ key]

theorem tells_validLines (url key : Text) :
    Each Markup.Tells (validLines (escape url) (escape key)) [url, key] := by
  have hlines := Each.cons (tells_word (m := Format.styled "green" "Config is valid.") (by decide))
    (.cons ((tells_word (m := "  Base URL: ") (by decide)).append (tells_escape url))
    (.cons ((tells_word (m := "  API key: ") (by decide)).append (tells_escape key)) .nil))
  exact hlines

/-- The base URL and the key are printed as they are. That is as well as escaping them exactly if
they hold no tags and do not end with a single backslash. -/
theorem validLines_eq_iff (url key : Text) :
    validLines url key = validLines (escape url) (escape key) ↔
      (hasTag url = false ∧ endsOpen url = false) ∧ hasTag key = false ∧ endsOpen key = false := by
  rw [← Markup.escape_eq_self_iff, ← Markup.escape_eq_self_iff]
  simp only [validLines, List.cons.injEq, List.append_cancel_left_eq, true_and, and_true]
  exact and_congr eq_comm eq_comm

theorem run_configValidate (world : World) (config own : Option Text) :
    IsTold world config (.configValidate own) (run world config (.configValidate own)) ∨
      ∃ settings, Settings.load world.files world.environment (orElse own (config.getD [])) =
          .ok settings ∧
        run world config (.configValidate own) = .printed 0
          (validLines settings.connection.baseUrl settings.connection.maskedKey) := by
  rw [run, withSettings_eq]
  split
  · next settings hload =>
    rw [runValidate, withCredentials]
    split
    · exact .inl (isTold_stopped [] _)
    · exact .inr ⟨settings, hload, rfl⟩
  · next failure hload => exact .inl (isTold_withoutSettings hload)

/-- **Texts from outside are escaped, but for those of valid settings.**

* No style is taken from an escaped text, whichever are open before it; what follows it must not
  close a bracket. All of the text is shown but what no terminal keeps, if no word in it stands
  between colons: a terminal may show a picture for such a word, escaped or not.
* Whatever the commands show that compile and run filters, load attributes and show settings, or
  that tells why they fail, is made of fixed words, numbers, and the texts they have to tell, each
  escaped.
* So is what the command that checks settings tells of a failure. The base URL and the masked key of
  valid settings are printed as they are, which is as well as escaped exactly if neither holds a tag
  or ends with a single backslash. -/
theorem run_escapes (world : World) (config : Option Text) :
    (∀ t, ∃ n, ∀ styles tail, Markup.closes tail = false →
      (Markup.plainFrom? styles 0 0 (escape t ++ tail)).isSome =
        (Markup.plainFrom? styles n 0 tail).isSome ∧
      (Markup.hasCode (t ++ tail) = false →
        Markup.plainFrom? styles 0 0 (escape t ++ tail) =
          (Markup.plainFrom? styles n 0 tail).map (Markup.literal 0 t ++ ·) ∧
        (Markup.literal 0 t).filter Markup.isSolid = t.filter Markup.isSolid)) ∧
    (∀ command, command.showsResult = true →
      IsTold world config command (run world config command)) ∧
    (∀ own, IsTold world config (.configValidate own) (run world config (.configValidate own)) ∨
      ∃ settings, Settings.load world.files world.environment (orElse own (config.getD [])) =
          .ok settings ∧
        run world config (.configValidate own) = .printed 0
          (validLines settings.connection.baseUrl settings.connection.maskedKey)) ∧
    ∀ url key, Each Markup.Tells (validLines (escape url) (escape key)) [url, key] ∧
      (validLines url key = validLines (escape url) (escape key) ↔
        (hasTag url = false ∧ endsOpen url = false) ∧
          hasTag key = false ∧ endsOpen key = false) := by
  refine ⟨fun t => ?_, fun command h => isTold_run h, run_configValidate world config,
    fun url key => ⟨tells_validLines url key, validLines_eq_iff url key⟩⟩
  obtain ⟨n, hn⟩ := Markup.exists_plainFrom?_escape t
  refine ⟨n, fun styles tail htail => ⟨?_, fun _ => ⟨hn styles tail htail, ?_⟩⟩⟩
  · rw [hn styles tail htail, Option.isSome_map]
  · exact Markup.filter_literal 0 t

/-- Settings that consist of a base URL and a key. -/
def validWorld (url : Text) : World :=
  worldOf .missing [("PEOPLEFILTER_CONNECTION_BASE_URL", url),
    ("PEOPLEFILTER_CONNECTION_API_KEY", "secret")]

theorem run_escapes_plain :
    let world := validWorld "https://api.example.com"
    IsTold world none (.configShow false) (run world none (.configShow false)) ∧
      validLines "https://api.example.com" "***cret" =
        validLines (escape "https://api.example.com") (escape "***cret") ∧
      ∃ n, Markup.plainFrom? ["bold"] 0 0 (escape "[a]" ++ "!") =
        (Markup.plainFrom? ["bold"] n 0 "!").map (("[a]" : Text) ++ ·) := by
  intro world
  obtain ⟨hescape, hrun, -, hvalid⟩ := run_escapes world none
  obtain ⟨n, hn⟩ := hescape "[a]"
  exact ⟨hrun _ rfl, (hvalid _ _).2.mpr (by decide +kernel), n,
    ((hn ["bold"] "!" rfl).2 (by decide)).1⟩

/-- The address in brackets is taken for a tag and not shown. -/
theorem run_validate_bracketed :
    let world := validWorld "https://[fe80::1]"
    (run world none (.configValidate none)).stdout =
        "Config is valid.\n  Base URL: https://\n  API key: ***cret\n" ∧
      run world none (.configValidate none) =
        .printed 0 (validLines "https://[fe80::1]" "***cret") ∧
      (Outcome.printed 0 (validLines (escape "https://[fe80::1]") (escape "***cret"))).stdout =
        "Config is valid.\n  Base URL: https://[fe80::1]\n  API key: ***cret\n" := by
  intro world
  have hload : Settings.load world.files world.environment [] =
      .ok { connection := { baseUrl := "https://[fe80::1]", apiKey := "secret" } } := by rfl
  have hrequire : (Credentials.require "https://[fe80::1]" "secret").toOption.map id =
      some () := by decide +kernel
  obtain ⟨⟨⟩, hok, -⟩ := exists_of_map_toOption hrequire
  have hrun : run world none (.configValidate none) =
      .printed 0 (validLines "https://[fe80::1]" "***cret") := by
    rw [run, withSettings_of_load hload, runValidate, withCredentials, hok]
    rfl
  refine ⟨?_, hrun, ?_⟩
  · rw [hrun]
    decide +kernel
  · decide +kernel

end Command

end ProfileFilter
