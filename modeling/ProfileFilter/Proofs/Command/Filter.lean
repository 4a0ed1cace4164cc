import ProfileFilter.Proofs.Api.Compile
import ProfileFilter.Proofs.Command.Shown
import ProfileFilter.Proofs.Json.Indented
import ProfileFilter.Proofs.Validate.Source

/-!
# Commands that take a filter

A command that finds a filter set and a list of attributes in its files goes on with what a
check makes of them. The command that compiles a filter prints the path of the request; the one
that runs it requests that path and prints it, next to what came of it.

Main statements: `run_compile`, `run_test`.
-/

namespace ProfileFilter

/-- A record that files the path of a request. -/
def Value.TellsPath (v : Value) (path : Text) : Prop :=
  ∃ entries, v = .mapping entries ∧ Value.get "request_path" entries = .text path

/-- The output tells the path of a request: it is the text of a record that files it, or a panel
with a line that ends in it. -/
def Output.TellsPath (output : Output) (path : Text) : Prop :=
  (∃ v : Value, v.TellsPath path ∧ Json.indented v = .ok output.text) ∨
    ∃ lines title style, output.displays = [.panel (Format.stack lines) title style] ∧
      Format.bold "Request:" ++ "  GET " ++ Markup.escape path ∈ lines

/-- The outcome is that of an output which tells the path, if there is an output at all. -/
def Outcome.ShowsPath (outcome : Outcome) (exitCode : Nat) (requests : List Request)
    (path : Text) : Prop :=
  ∃ shown, outcome = .shown exitCode requests shown ∧
    ∀ output, shown = .ok output → output.TellsPath path

/-! ## Records and panels -/

namespace Format

theorem tellsPath_compiledRecord (compiled : CompiledFilter) (path curl : Text) :
    (compiledRecord compiled path curl).TellsPath path :=
  ⟨_, rfl, rfl⟩

theorem tellsPath_queryRecord (result : QueryResult) (path : Text) (summary : Option Text) :
    (queryRecord result path summary).TellsPath path :=
  ⟨_, rfl, rfl⟩

theorem tellsPath_json {v : Value} {path : Text} (h : v.TellsPath path) {output : Output}
    (houtput : json v = .ok output) : output.TellsPath path := by
  cases htext : Json.indented v with
  | error why =>
    rw [json, htext] at houtput
    cases houtput
  | ok text =>
    rw [json, htext] at houtput
    cases houtput
    exact .inl ⟨v, h, htext⟩

/-- A query result tells the path, as a record and as a panel. -/
theorem tellsPath_query {asJson : Bool} {result : QueryResult} {path : Text}
    {summary : Option Text} {output : Output} (h : query asJson result path summary = .ok output) :
    output.TellsPath path := by
  cases asJson with
  | true => exact tellsPath_json (tellsPath_queryRecord result path summary) h
  | false =>
    obtain ⟨display, hdisplay, houtput⟩ := bind_eq_ok.mp h
    obtain ⟨body, -, hpanel⟩ := bind_eq_ok.mp hdisplay
    cases hpanel
    cases houtput
    refine .inr ⟨_, _, _, rfl, ?_⟩
    exact List.mem_append_left _ (List.mem_append_left _ (List.mem_append_left _
      List.mem_cons_self))

end Format

/-! ## Files -/

/-- Attributes are read from a list one by one, as the check for lists does. -/
theorem toOption_checkAttributes (path : Text) (items : List Value) :
    (checkAttributes path items).toOption =
      items.mapM fun item => (Check.profileAttribute .document item).value? := by
  induction items with
  | nil => rfl
  | cons item rest ih =>
    rw [checkAttributes, List.mapM_cons, ← ih]
    cases Check.profileAttribute .document item with
    | invalid issues => rfl
    | valid a => cases checkAttributes path rest <;> rfl

theorem checkAttributes_of_list {items : List Value} {attributes : List Attribute}
    (h : Check.list (Check.profileAttribute .document) (.list items) = .valid attributes)
    (path : Text) : checkAttributes path items = .ok attributes := by
  have hlist := Validated.value?_eq_some.mpr h
  rw [Check.value?_list, ← toOption_checkAttributes path] at hlist
  cases hread : checkAttributes path items with
  | error failure =>
    rw [hread] at hlist
    cases hlist
  | ok found =>
    rw [hread] at hlist
    exact congrArg Except.ok (Option.some.inj hlist)

namespace Command

/-- The files of a command: an object and a list. -/
structure Finds (world : World) (file known : Text) (document : Entries) (items : List Value) :
    Prop where
  /-- the filter is an object -/
  filter : world.files (.working file) = .document (.mapping document)
  /-- the attributes are a list -/
  attributes : world.files (.working known) = .document (.list items)

/-- The settings and credentials of a command open a connection. -/
def Connects (world : World) (config baseUrl apiKey : Option Text) (connection : Connection) :
    Prop :=
  ∃ settings, Settings.load world.files world.environment (config.getD []) = .ok settings ∧
    let used := settings.connection.override baseUrl apiKey
    Credentials.require used.baseUrl used.apiKey = .ok () ∧
      (Client.ofCredentials used.baseUrl used.apiKey).connect = .ok connection

section Filters

variable {world : World} {config : Option Text} {file known : Text} {document : Entries}
  {items : List Value} {filter : FilterSet} {attributes : List Attribute}
  {compiled : CompiledFilter}

/-- A command goes on with the filter and the attributes in its files. -/
theorem withFilter_of_finds (hfinds : Finds world file known document items)
    (hfilter : Check.filterSet .document (.mapping document) = .valid filter)
    (hattributes : Check.list (Check.profileAttribute .document) (.list items) = .valid attributes)
    (go : FilterSet → List Attribute → Outcome) :
    withFilter world (some file) (some known) go = go filter attributes := by
  have hload : loadFilter world.files file = .ok filter := by
    rw [loadFilter, readDocument, hfinds.filter]
    show filterSetOf file (.mapping document) = _
    rw [filterSetOf, hfilter]
  have hknown : optionalAttributes world.files (some known) = .ok attributes := by
    rw [optionalAttributes, ProfileFilter.loadAttributes, readDocument, hfinds.attributes]
    exact checkAttributes_of_list hattributes known
  simp only [withFilter, hload, hknown]

variable (hfinds : Finds world file known document items)
  (hfilter : Check.filterSet .document (.mapping document) = .valid filter)
  (hattributes : Check.list (Check.profileAttribute .document) (.list items) = .valid attributes)
  (hcompiled : compileFilter attributes filter = .ok compiled)

include hfinds hfilter hattributes hcompiled in
/-- **Compiling prints the path of the request.** -/
theorem run_compile (baseUrl : Option Text) :
    (run world config (.compile file (some known) baseUrl true)).ShowsPath 0 []
      (Preview.requestPath compiled.encoded) := by
  refine ⟨Format.compiled true compiled (Preview.requestPath compiled.encoded)
    (Preview.curl compiled.encoded baseUrl none), ?_, fun output houtput =>
      Format.tellsPath_json (Format.tellsPath_compiledRecord _ _ _) houtput⟩
  rw [run, runCompile, withFilter_of_finds hfinds hfilter hattributes]
  simp only [hcompiled]

include hfinds hfilter hattributes hcompiled in
/-- Nothing interrupts compiling if the base URL for the preview can be encoded and the count of
conditions be written. -/
theorem run_compile_interruption {baseUrl : Option Text}
    (hbase : baseUrl.all Text.isEncodable = true)
    (hcount : Value.isWritableInt compiled.conditionCount = true) :
    (run world config (.compile file (some known) baseUrl true)).interruption = none := by
  obtain ⟨hraw, hencoded, hexplanation⟩ := CompiledFilter.isEncodable_of_compileFilter hcompiled
  have hpath := Preview.isEncodable_requestPath hencoded
  have hcurl := Preview.isEncodable_curl hencoded hbase
  have hjson : (Format.compiledRecord compiled (Preview.requestPath compiled.encoded)
      (Preview.curl compiled.encoded baseUrl none)).isJson = true := by
    simp [Format.compiledRecord, Value.isJson_record, Value.isJson, hcount]
  have henc : (Format.compiledRecord compiled (Preview.requestPath compiled.encoded)
      (Preview.curl compiled.encoded baseUrl none)).isEncodable = true := by
    simp [Format.compiledRecord, Value.isEncodable_record, hraw, hencoded, hexplanation, hpath,
      hcurl]
  obtain ⟨s, hs⟩ := Json.exists_indentedAt hjson 0
  have hsenc := (Json.isEncodable_indentedAt hjson hs).trans henc
  rw [run, runCompile, withFilter_of_finds hfinds hfilter hattributes]
  simp only [hcompiled, Format.compiled, if_true, Format.json, Json.indented, hs]
  show (Outcome.shown 0 [] (.ok (Output.ofText s))).interruption = none
  rw [Outcome.shown_ofText, if_pos hsenc]

include hfinds hfilter hattributes hcompiled in
/-- **Running a filter requests the path and prints it.** The request is made whatever comes of
it, and unless it breaks off for a reason of its own the result is shown with the path. -/
theorem run_test {baseUrl apiKey : Option Text} {connection : Connection} {request : Request}
    (hconnects : Connects world config baseUrl apiKey connection)
    (hrequest : connection.requestTo (Preview.requestPath compiled.encoded) = .ok request)
    (asJson : Bool) :
    (run world config (.test (some file) (some known) baseUrl apiKey asJson)).requests =
        [request] ∧
      ∀ result, QueryResult.ofReply (elapsedMs .zero (Binary64.zero.add world.seconds))
          (world.service request 0) = .ok result →
        (run world config (.test (some file) (some known) baseUrl apiKey asJson)).ShowsPath
          (if result.success then 0 else 1) [request] (Preview.requestPath compiled.encoded) := by
  obtain ⟨settings, hsettings, hrequire, hconnect⟩ := hconnects
  have hexecute : connection.execute world.service .zero (Binary64.zero.add world.seconds)
      compiled.encoded = ⟨[request], QueryResult.ofReply
        (elapsedMs .zero (Binary64.zero.add world.seconds)) (world.service request 0)⟩ := by
    rw [Connection.execute, hrequest]
  have hrun : run world config (.test (some file) (some known) baseUrl apiKey asJson) =
      match QueryResult.ofReply (elapsedMs .zero (Binary64.zero.add world.seconds))
          (world.service request 0) with
      | .error why => stopped [request] why
      | .ok result => .shown (if result.success then 0 else 1) [request]
          (Format.query asJson result (Preview.requestPath compiled.encoded)
            (if result.success then summarizeResults result.body else none)) := by
    unfold run withSettings
    simp only [hsettings, runTest, withCredentials, hrequire]
    rw [withFilter_of_finds hfinds hfilter hattributes]
    simp only [hcompiled, withRun, hconnect, hexecute]
    cases QueryResult.ofReply _ (world.service request 0) <;> rfl
  rw [hrun]
  constructor
  · cases hreply : world.service request 0 with
    | answer status body => exact Outcome.shown_requests _ _ _
    | failure f =>
      rw [QueryResult.ofReply]
      split_ifs
      · exact Outcome.shown_requests _ _ _
      · rfl
  · intro result hresult
    rw [hresult]
    exact ⟨_, rfl, fun output houtput => Format.tellsPath_query houtput⟩

end Filters

end Command

end ProfileFilter
