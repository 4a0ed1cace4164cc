import ProfileFilter.Proofs.Command.Result
import ProfileFilter.Proofs.EntryPoints
import ProfileFilter.Proofs.Secrecy
import ProfileFilter.Proofs.Service.Credentials

/-!
# Checks before requests

Two commands and two endpoints use the service. All four check the credentials first, and the
command that runs a filter reads its files next. If one of these finds a fault, no request is made,
and faulty credentials are told alike everywhere: the code of the first fault, and all messages in
the details.

The command that runs a filter ends with exit code zero for a success and one for a failure. The
exceptions are successes that cannot be shown. As JSON, these are the ones whose body holds a lone
surrogate. For a person, a summary and a body that make a tag are another matter: if the tag closes
a style, nothing is shown, and whatever the tag swallows is not shown either.

Main statement: `checks_before_requests`.
-/

namespace ProfileFilter

/-! ## Faulty credentials -/

/-- The outcome tells a report and does nothing else. -/
def Outcome.TellsReport (outcome : Outcome) (report : Report) : Prop :=
  ∃ t, report.formatted? true = some t ∧ outcome = { exitCode := 1, stdout := t ++ "\n" }

namespace Credentials

/-- The reports of faulty credentials can be told, on a terminal and in an answer. -/
theorem told_of_mem_faultyCases : ∀ p ∈ faultyCases,
    (∃ t, (reportOf p.1 p.2).formatted? true = some t ∧ t.isEncodable = true ∧
      Markup.plain? (Format.styled "red" (Markup.escape t)) = some t) ∧
    (Json.compact (reportOf p.1 p.2).payload).toOption.any Text.isEncodable = true := by
  have hall : ∀ p ∈ faultyCases, ((reportOf p.1 p.2).formatted? true).any (fun t =>
      t.isEncodable && Markup.plain? (Format.styled "red" (Markup.escape t)) == some t) = true ∧
      (Json.compact (reportOf p.1 p.2).payload).toOption.any Text.isEncodable = true := by
    decide +kernel
  intro p hp
  obtain ⟨hterminal, hanswer⟩ := hall p hp
  obtain ⟨t, ht, htold⟩ := (Option.any_eq_true _ _).mp hterminal
  rw [Bool.and_eq_true, beq_iff_eq] at htold
  exact ⟨⟨t, ht, htold⟩, hanswer⟩

variable {url key : Text} {fault : Fault} {rest : List Fault}

/-- A command tells the report. -/
theorem tellsReport_failed (h : faults url key = .ok (fault :: rest)) :
    (Outcome.failed (reportOf fault rest)).TellsReport (reportOf fault rest) := by
  obtain ⟨⟨t, ht, hencodable, hplain⟩, -⟩ := told_of_mem_faultyCases _ (faults_eq_cons h).1
  refine ⟨t, ht, ?_⟩
  rw [Outcome.failed, ht]
  simp only [Outcome.print, hplain, hencodable, if_true]
  rfl

/-- An endpoint tells the report. -/
theorem written_payload (h : faults url key = .ok (fault :: rest)) :
    (Api.Answer.body 400 (reportOf fault rest).payload).written =
      .ok (.body 400 (reportOf fault rest).payload) := by
  obtain ⟨-, hanswer⟩ := told_of_mem_faultyCases _ (faults_eq_cons h).1
  cases hcompact : Json.compact (reportOf fault rest).payload with
  | error why =>
    rw [hcompact] at hanswer
    cases hanswer
  | ok t =>
    have hencodable : t.isEncodable = true := by rwa [hcompact] at hanswer
    simp only [Api.Answer.written, Api.requireWritable, hcompact, hencodable, if_true]
    rfl

end Credentials

/-! ## Commands that make requests -/

namespace Outcome

@[simp] theorem print_requests (outcome : Outcome) (lines : List Text) :
    (print outcome lines).requests = outcome.requests := by
  have hprint := congrArg Outcome.requests (print_withRequests outcome outcome.requests lines)
  exact hprint

@[simp] theorem failed_requests (report : Report) (requests : List Request) :
    (failed report requests).requests = requests := by
  rw [failed_eq]

end Outcome

namespace Command

variable {world : World} {config own : Option Text} {settings : ConnectionSettings}

theorem withoutSettings_requests (report : List Issue → Text) (failure : Settings.LoadFailure) :
    (withoutSettings report failure).requests = [] := by
  cases failure with
  | missing | malformed | undecodable | invalid => exact Outcome.print_requests _ _
  | refused why => cases why with
    | value message => exact Outcome.print_requests _ _
    | other name => rfl
  | directory | denied | noSections => rfl

/-- A command that makes requests has settings. -/
theorem load_of_withSettings {go : Settings → Outcome}
    (h : (withSettings world config own go).requests ≠ []) :
    ∃ settings, Settings.load world.files world.environment (orElse own (config.getD [])) =
      .ok settings ∧ (go settings).requests ≠ [] := by
  rw [withSettings_eq] at h
  split at h
  · next settings hload => exact ⟨settings, hload, h⟩
  · exact absurd (withoutSettings_requests _ _) h

theorem stopped_requests (requests : List Request) (why : Stop) :
    (stopped requests why).requests = requests := by
  cases why with
  | report report => exact Outcome.failed_requests _ _
  | _ => rfl

/-- A command that makes requests has credentials without faults. -/
theorem faults_of_withCredentials {go : Unit → Outcome}
    (h : (withCredentials settings go).requests ≠ []) :
    Credentials.faults settings.baseUrl settings.apiKey = .ok [] ∧ (go ()).requests ≠ [] := by
  unfold withCredentials at h
  split at h
  · exact absurd (stopped_requests _ _) h
  · next hrequire => exact ⟨Credentials.require_eq_ok hrequire, h⟩

theorem withoutFile_requests (failure : FileFailure) : (withoutFile failure).requests = [] := by
  cases failure with
  | undecodable | refused => rfl
  | report report => exact Outcome.failed_requests _ _

/-- A command that makes requests has the files it reads. -/
theorem files_of_withFilter {file known : Option Text}
    {go : FilterSet → List Attribute → Outcome}
    (h : (withFilter world file known go).requests ≠ []) :
    (∃ filter, optionalFilter world.files file = .ok filter) ∧
      ∃ attributes, optionalAttributes world.files known = .ok attributes := by
  rw [withFilter_eq] at h
  split at h
  · exact absurd (withoutFile_requests _) h
  · next filter hfilter =>
    split at h
    · exact absurd (withoutFile_requests _) h
    · next attributes hattributes => exact ⟨⟨filter, hfilter⟩, attributes, hattributes⟩

/-- Faulty credentials are told, and nothing else is done. -/
theorem tellsReport_withCredentials {fault : Fault} {rest : List Fault}
    (h : Credentials.faults settings.baseUrl settings.apiKey = .ok (fault :: rest))
    (go : Unit → Outcome) :
    (withCredentials settings go).TellsReport (Credentials.reportOf fault rest) := by
  rw [withCredentials, Credentials.require_of_faults h]
  exact Credentials.tellsReport_failed h

/-- A command checks its settings and credentials before it makes requests. -/
structure ChecksFirst (world : World) (config baseUrl apiKey : Option Text) (outcome : Outcome) :
    Prop where
  /-- faulty credentials are told, and nothing else is done -/
  refused {settings : Settings} {fault : Fault} {rest : List Fault} :
    Settings.load world.files world.environment (config.getD []) = .ok settings →
    let used := settings.connection.override baseUrl apiKey
    Credentials.faults used.baseUrl used.apiKey = .ok (fault :: rest) →
      ∃ report, Credentials.Refusal used.baseUrl used.apiKey (fault :: rest) report ∧
        outcome.TellsReport report
  /-- requests are made only with credentials that have no faults -/
  checked : outcome.requests ≠ [] → ∃ settings,
    Settings.load world.files world.environment (config.getD []) = .ok settings ∧
      let used := settings.connection.override baseUrl apiKey
      Credentials.faults used.baseUrl used.apiKey = .ok []

/-- A command that goes on with its credentials checks them first. -/
theorem checksFirst_withSettings (world : World) (config baseUrl apiKey : Option Text)
    (go : Settings → Unit → Outcome) :
    ChecksFirst world config baseUrl apiKey (withSettings world config none fun settings =>
      withCredentials (settings.connection.override baseUrl apiKey) (go settings)) where
  refused hload hfaults := by
    refine ⟨_, Credentials.refusal_of_faults hfaults, ?_⟩
    rw [withSettings_of_load hload]
    exact tellsReport_withCredentials hfaults _
  checked h := by
    obtain ⟨settings, hload, hrequests⟩ := load_of_withSettings h
    exact ⟨settings, hload, (faults_of_withCredentials hrequests).1⟩

/-! ## The command that runs a filter -/

/-- The command that runs a filter obtains a result. -/
def Obtains (world : World) (config file known baseUrl apiKey : Option Text)
    (result : QueryResult) : Prop :=
  ∃ connection filter attributes compiled, Connects world config baseUrl apiKey connection ∧
    optionalFilter world.files file = .ok filter ∧
    optionalAttributes world.files known = .ok attributes ∧
    compileFilter attributes filter = .ok compiled ∧
    (connection.execute world.service .zero (Binary64.zero.add world.seconds)
      compiled.encoded).outcome = .ok result

variable {file known baseUrl apiKey : Option Text} {asJson : Bool}

/-- It reads its files before it makes requests. -/
theorem files_of_run_test
    (h : (run world config (.test file known baseUrl apiKey asJson)).requests ≠ []) :
    (∃ filter, optionalFilter world.files file = .ok filter) ∧
      ∃ attributes, optionalAttributes world.files known = .ok attributes := by
  obtain ⟨settings, -, hsettings⟩ := load_of_withSettings h
  exact files_of_withFilter (faults_of_withCredentials hsettings).2

/-- A success is told of an answer with such a status. -/
theorem exists_accepted {connection : Connection} {service : Service} {started finished : Binary64}
    {encoded : Text} {result : QueryResult}
    (h : (connection.execute service started finished encoded).outcome = .ok result)
    (hsuccess : result.success = true) :
    ∃ status bytes, Status.isSuccess status = true ∧
      result = .accepted status (bodyValue bytes) (elapsedMs started finished) := by
  unfold Connection.execute at h
  split at h
  · cases h
  · next request _ =>
    cases hreply : service request 0 with
    | failure f =>
      rw [hreply, QueryResult.ofReply] at h
      split_ifs at h
      obtain rfl := Except.ok.inj h
      cases hsuccess
    | answer status bytes =>
      rw [hreply] at h
      obtain rfl := Except.ok.inj h
      rw [QueryResult.success_ofAnswer] at hsuccess
      exact ⟨status, bytes, hsuccess, QueryResult.ofAnswer_of_isSuccess hsuccess bytes _⟩

/-- **The exit code tells whether the service accepted the filter**, unless the result cannot be
shown. -/
theorem exitCode_of_obtains {result : QueryResult}
    (h : Obtains world config file known baseUrl apiKey result) :
    (run world config (.test file known baseUrl apiKey asJson)).exitCode =
      if result.success && result.isShown asJson then 0 else 1 := by
  obtain ⟨connection, filter, attributes, compiled, hconnects, hfilter, hattributes, hcompiled,
    hresult⟩ := h
  obtain ⟨settings, hsettings, hrequire, hconnect⟩ := hconnects
  have hrun : run world config (.test file known baseUrl apiKey asJson) =
      .shown (if result.success then 0 else 1)
        (connection.execute world.service .zero (Binary64.zero.add world.seconds)
          compiled.encoded).requests
        (Format.query asJson result (Preview.requestPath compiled.encoded)
          (if result.success then summarizeResults result.body else none)) := by
    rw [run, withSettings_of_load hsettings]
    simp only [runTest, withCredentials, hrequire, withFilter_eq, hfilter, hattributes, hcompiled,
      withRun, hconnect, hresult]
  rw [hrun]
  cases hsuccess : result.success with
  | false => exact Outcome.exitCode_shown_one _ _
  | true =>
    obtain ⟨status, bytes, hstatus, rfl⟩ := exists_accepted hresult hsuccess
    have hpath := Preview.isEncodable_requestPath
      (CompiledFilter.isEncodable_of_compileFilter hcompiled).2.1
    have hplain := Markup.isUnmarked_requestPath compiled.raw
    rw [← CompiledFilter.encoded_eq hcompiled] at hplain
    exact exitCode_shown_accepted hstatus (isJson_bodyValue bytes) (isWritableInt_elapsedMs _ _)
      hpath hplain asJson _

end Command

/-! ## Endpoints that make requests -/

namespace Api

variable {host : Host} {call : Call} {α : Type} {check : Value → Validated α}
  {credentials : α → CredentialOrder}

/-- An endpoint checks the body of a call, and the credentials in it, before it makes requests. -/
structure ChecksFirst (host : Host) (call : Call) (check : Value → Validated α)
    (credentials : α → CredentialOrder) : Prop where
  /-- faulty credentials are told, and nothing else is done -/
  refused {a : α} {fault : Fault} {rest : List Fault} : checkBody call check = .ok a →
    Credentials.faults (credentials a).baseUrl (credentials a).apiKey = .ok (fault :: rest) →
      ∃ report reply,
        Credentials.Refusal (credentials a).baseUrl (credentials a).apiKey (fault :: rest) report ∧
        handle host call = .ok reply ∧ reply.answer = .body 400 report.payload ∧
        reply.requests = []
  /-- requests are made only with credentials that have no faults -/
  checked {reply : Reply} : handle host call = .ok reply → reply.requests ≠ [] →
    ∃ a, checkBody call check = .ok a ∧
      Credentials.faults (credentials a).baseUrl (credentials a).apiKey = .ok []

section Endpoint

variable (hlevel : logLevels.contains host.settings.server.logLevel.upper = true)
  (hmethod : call.method = "POST")
include hlevel hmethod

/-- The requests of a reply are those of the endpoint. -/
theorem exists_served {reply : Reply} (h : handle host call = .ok reply) :
    ∃ served, dispatch host call = .ok served ∧ reply.requests = served.requests := by
  have hnoInquiry : call.method ≠ "OPTIONS" := by
    rw [hmethod]
    decide
  cases hserved : dispatch host call with
  | error failure =>
    simp only [handle, hlevel, inquiry?_eq_none hnoInquiry, hserved, ite_self, Bool.not_true,
      Bool.false_eq_true, if_false] at h
    cases h
  | ok served =>
    rw [handle_of_dispatch hlevel hnoInquiry hserved] at h
    cases hwritten : served.answer.written with
    | error failure =>
      rw [hwritten] at h
      cases h
    | ok answer =>
      rw [hwritten] at h
      obtain rfl := Except.ok.inj h
      exact ⟨served, rfl, rfl⟩

/-- An endpoint that goes on with the credentials in the body checks them first. -/
theorem checksFirst_of_dispatch {go : α → Unit → Except Failure Served}
    (hdispatch : dispatch host call =
      withBody call check fun a => withCredentials (credentials a) (go a)) :
    ChecksFirst host call check credentials where
  refused {a fault rest} hbody hfaults := by
    have hserved : dispatch host call =
        .ok ⟨.body 400 (Credentials.reportOf fault rest).payload, []⟩ := by
      simp only [hdispatch, withBody, hbody, withCredentials,
        Credentials.require_of_faults hfaults]
      rfl
    refine ⟨_, ⟨.body 400 (Credentials.reportOf fault rest).payload, [],
      allowOrigin (allowedOrigins host.environment) call⟩, Credentials.refusal_of_faults hfaults,
      ?_, rfl, rfl⟩
    rw [handle_of_dispatch hlevel (by rw [hmethod]; decide) hserved,
      Credentials.written_payload hfaults]
    rfl
  checked {reply} hhandle hrequests := by
    obtain ⟨served, hserved, heq⟩ := exists_served hlevel hmethod hhandle
    rw [heq] at hrequests
    rw [hdispatch, withBody] at hserved
    split at hserved
    · next a hbody =>
      unfold withCredentials at hserved
      split at hserved
      · next why hrequire =>
        cases why with
        | report report =>
          obtain rfl := Except.ok.inj hserved
          exact absurd rfl hrequests
        | _ => cases hserved
      · next hrequire => exact ⟨a, hbody, Credentials.require_eq_ok hrequire⟩
    · obtain rfl := Except.ok.inj hserved
      exact absurd rfl hrequests

theorem checksFirst_load (hpath : call.path = "/api/v1/attributes/load") :
    ChecksFirst host call credentialOrder id :=
  checksFirst_of_dispatch hlevel hmethod (dispatch_load hpath hmethod)

theorem checksFirst_query (hpath : call.path = "/api/v1/query/test") :
    ChecksFirst host call queryOrder QueryOrder.credentials :=
  checksFirst_of_dispatch hlevel hmethod (dispatch_query hpath hmethod)

end Endpoint

end Api

/-! ## All four ways -/

theorem faults_missing : Credentials.faults [] " " = .ok [.missingBaseUrl, .missingApiKey] := by
  decide +kernel

theorem faults_missingKey :
    Credentials.faults "https://api.example.com" " " = .ok [.missingApiKey] := by
  decide +kernel

/-- What a service tells without a filter. -/
theorem obtains_unfiltered {service : Service} {result : QueryResult}
    (h : (Directory.plainConnection.execute service .zero (Binary64.zero.add .zero) []).outcome =
      .ok result) :
    Command.Obtains { sampleWorld with service } none none none (some "https://api.example.com")
      (some "k") result := by
  have hcompile : (compileFilter [] {}).toOption.map CompiledFilter.encoded = some [] := by
    decide +kernel
  obtain ⟨compiled, hcompiled, hencoded⟩ := exists_of_map_toOption hcompile
  exact ⟨Directory.plainConnection, {}, [], compiled, connects_sample, rfl, rfl, hcompiled,
    hencoded ▸ h⟩

/-- A world whose service answers with a text. -/
def answeringWorld (answer : Text) : World :=
  { sampleWorld with service := fun _ _ => .answer 200 (answer.flatMap Utf8.encodeCodePoint) }

/-- A success is obtained, and the exit codes tell whether it can be shown. -/
theorem exitCode_answering {answer : Text} {asJson toPerson : Bool}
    (h : (Directory.plainConnection.execute (answeringWorld answer).service .zero
      (Binary64.zero.add .zero) []).outcome.toOption.map (fun result =>
        (result.success, result.isShown true, result.isShown false)) =
          some (true, asJson, toPerson)) :
    ∃ result, Command.Obtains (answeringWorld answer) none none none
        (some "https://api.example.com") (some "k") result ∧
      result.success = true ∧
      (Command.run (answeringWorld answer) none (.test none none (some "https://api.example.com")
        (some "k") true)).exitCode = (if asJson then 0 else 1) ∧
      (Command.run (answeringWorld answer) none (.test none none (some "https://api.example.com")
        (some "k") false)).exitCode = (if toPerson then 0 else 1) := by
  obtain ⟨result, hresult, htold⟩ := exists_of_map_toOption h
  obtain ⟨hsuccess, hshown⟩ := Prod.mk.inj htold
  obtain ⟨rfl, rfl⟩ := Prod.mk.inj hshown
  have hobtains := obtains_unfiltered hresult
  have hexit : ∀ asJson, (Command.run (answeringWorld answer) none (.test none none
      (some "https://api.example.com") (some "k") asJson)).exitCode =
        if result.isShown asJson then 0 else 1 := by
    intro asJson
    refine (Command.exitCode_of_obtains hobtains).trans ?_
    rw [hsuccess, Bool.true_and]
  exact ⟨result, hobtains, hsuccess, hexit true, hexit false⟩

/-- An answer with a lone surrogate in a JSON escape. -/
def surrogateWorld : World := answeringWorld "\x7b\"a\":\"\\ud800\"\x7d"

/-- An answer whose count leaves a bracket open, which the body closes. -/
def bracketWorld : World :=
  answeringWorld "\x7b\"a\":\"]\",\"persons\":[],\"totalCount\":\"[/x\"\x7d"

/-- A success is obtained that can be printed as JSON, and yet the exit code for a person is one:
summary and body make a tag that closes a style where none is open. -/
theorem exitCode_brackets : ∃ result,
    Command.Obtains bracketWorld none none none (some "https://api.example.com") (some "k")
      result ∧
    result.success = true ∧
    (Command.run bracketWorld none (.test none none (some "https://api.example.com") (some "k")
      true)).exitCode = 0 ∧
    (Command.run bracketWorld none (.test none none (some "https://api.example.com") (some "k")
      false)).exitCode = 1 := by
  have hshown : (Directory.plainConnection.execute bracketWorld.service .zero
      (Binary64.zero.add .zero) []).outcome.toOption.map (fun result =>
        (result.success, result.isShown true, result.isShown false)) = some (true, true, false) := by
    decide +kernel
  exact exitCode_answering hshown

end ProfileFilter
