import ProfileFilter.Proofs.Command.Filter

/-!
# Calls that take a filter

A call whose body holds a filter set and a list of attributes is read like the files of a
command. The endpoint that compiles a filter answers with the path of the request, the endpoint
that runs it requests that path and answers with it.

Main statements: `handle_compile_order`, `handle_test_order`.
-/

namespace ProfileFilter

namespace Api

/-- A call that is no inquiry is answered by the endpoint of its path, if its answer can be
written. -/
theorem handle_of_dispatch {host : Host} {call : Call} {served : Served}
    (hlevel : logLevels.contains host.settings.server.logLevel.upper = true)
    (hmethod : call.method ≠ "OPTIONS") (hserved : dispatch host call = .ok served) :
    handle host call = served.answer.written.map fun answer => {
      answer
      requests := served.requests
      allowOrigin := allowOrigin (allowedOrigins host.environment) call } := by
  have hinquiry : inquiry? (allowedOrigins host.environment) call = none := inquiry?_eq_none hmethod
  simp only [handle, hlevel, hinquiry, hserved, ite_self, Bool.not_true, Bool.false_eq_true,
    if_false]
  show (served.answer.written >>= fun answer => pure _) = _
  cases served.answer.written <;> rfl

/-- The call is answered with a record that files the path, if the record can be written. -/
def AnswersPath (host : Host) (call : Call) (requests : List Request) (path : Text) : Prop :=
  ∃ record : Value, record.TellsPath path ∧
    handle host call = (Answer.body 200 record).written.map fun answer => {
      answer, requests, allowOrigin := allowOrigin (allowedOrigins host.environment) call }

/-- The body of a call: an object with a filter and attributes. -/
structure Orders (call : Call) (entries document : Entries) (items : List Value) : Prop where
  /-- the body is an object -/
  content : call.content = .json (.mapping entries)
  /-- the filter is an object -/
  filter : Value.lookup? "filter" entries = some (.mapping document)
  /-- the attributes are a list -/
  attributes : Value.lookup? "attributes" entries = some (.list items)

/-! ## Reading the body -/

/-- A field that is there is checked. -/
theorem optional_of_lookup? {α : Type} {key : Text} {entries : Entries} {v : Value} {default a : α}
    {check : Value → Validated α} (hlookup : Value.lookup? key entries = some v)
    (hcheck : check v = .valid a) : Check.optional [key] default check entries = .valid a := by
  have hfind : Check.findField? [key] entries = some (key, v) := by
    simp only [Check.findField?, List.findSome?_cons, hlookup, Option.map_some]
  rw [Check.optional, hfind]
  exact Validated.under_eq_valid.mpr hcheck

/-- A body that is an object is checked. -/
theorem checkBody_of_content {α : Type} {call : Call} {entries : Entries}
    {check : Value → Validated α} {a : α} (hcontent : call.content = .json (.mapping entries))
    (hcheck : check (.mapping entries) = .valid a) : checkBody call check = .ok a := by
  simp only [checkBody, hcontent, Validated.under_eq_valid.mpr hcheck]

/-- A body of JSON holds the value that is parsed from it. -/
theorem content_of_parseBytes {call : Call} {v : Value} (hbody : call.body.isEmpty = false)
    (hheaders : call.headers = []) (hparse : Json.parseBytes? call.body = some v) :
    call.content = .json v := by
  have hheader : call.header? "content-type" = none := by
    rw [Call.header?, hheaders]
    rfl
  obtain ⟨t, hdecode, hread⟩ := Option.bind_eq_some_iff.mp hparse
  have hread : Json.parse t = .ok v := by
    cases hresult : Json.parse t with
    | error failure =>
      rw [hresult] at hread
      cases hread
    | ok found =>
      rw [hresult] at hread
      exact congrArg Except.ok (Option.some.inj hread)
  rw [Call.content, hbody, if_neg Bool.false_ne_true, hheader]
  simp only [readJson, hdecode, hread]

section Orders

variable {host : Host} {call : Call} {entries document : Entries} {items : List Value}
  {filter : FilterSet} {attributes : List Attribute} {compiled : CompiledFilter}
  (horders : Orders call entries document items)
  (hfilter : Check.filterSet .document (.mapping document) = .valid filter)
  (hattributes : Check.list (Check.profileAttribute .document) (.list items) = .valid attributes)
  (hcompiled : compileFilter attributes filter = .ok compiled)
  (hlevel : logLevels.contains host.settings.server.logLevel.upper = true)
  (hmethod : call.method = "POST")

include horders hattributes in
theorem optional_attributes :
    Check.optional ["attributes"] none knownAttributes entries = .valid (some attributes) := by
  refine optional_of_lookup? horders.attributes ?_
  have hlist := (Check.agree_profileAttribute .document .body).list.valid_iff.mp hattributes
  exact Validated.map_eq_valid.mpr ⟨attributes, hlist, rfl⟩

include horders hfilter hattributes hcompiled hmethod in
/-- The endpoint that compiles answers with the compiled filter. -/
theorem dispatch_compile_order {baseUrl : Option Text}
    (hpath : call.path = "/api/v1/filters/compile")
    (hbase : Check.optional ["base_url"] none (Check.nullable Check.text) entries =
      .valid baseUrl) :
    dispatch host call = .ok { answer := .body 200 (compiledRecord compiled baseUrl) } := by
  have hbody := (Check.agree_filterSet .document .body).valid_iff.mp hfilter
  have horder : compileOrder (.mapping entries) = .valid ⟨filter, some attributes, baseUrl⟩ :=
    Validated.seq_eq_valid.mpr ⟨_, _, Validated.seq_eq_valid.mpr ⟨_, _,
      Validated.map_eq_valid.mpr ⟨_, optional_of_lookup? horders.filter hbody, rfl⟩,
      optional_attributes horders hattributes, rfl⟩, hbase, rfl⟩
  rw [dispatch_compile host hmethod hpath, compileFilters, withBody,
    checkBody_of_content horders.content horder]
  simp only [compile, Option.getD_some, hcompiled]
  rfl

include horders hfilter hattributes hcompiled hlevel hmethod in
/-- **Compiling answers with the path of the request**, which can be written if the base URL for
the preview can be encoded and the count of conditions be written. -/
theorem handle_compile_order {baseUrl : Option Text}
    (hpath : call.path = "/api/v1/filters/compile")
    (hbase : Check.optional ["base_url"] none (Check.nullable Check.text) entries =
      .valid baseUrl) :
    AnswersPath host call [] (Preview.requestPath compiled.encoded) ∧
      (baseUrl.all Text.isEncodable = true →
        Value.isWritableInt compiled.conditionCount = true →
        ∃ reply, handle host call = .ok reply) := by
  have hserved : dispatch host call = _ :=
    dispatch_compile_order horders hfilter hattributes hcompiled hmethod hpath hbase
  have hhandle := handle_of_dispatch hlevel (by rw [hmethod]; decide) hserved
  refine ⟨⟨_, ⟨_, rfl, rfl⟩, hhandle⟩, fun hencodable hcount => ?_⟩
  rw [hhandle, written_compiledRecord hcompiled hencodable, if_pos hcount]
  exact ⟨_, rfl⟩

theorem dispatch_query (hpath : call.path = "/api/v1/query/test") (hmethod : call.method = "POST") :
    dispatch host call = testQuery host.service host.seconds call := by
  have hendpoint : endpointAt? "/api/v1/query/test" =
      some ⟨"POST", fun host call => testQuery host.service host.seconds call⟩ := rfl
  rw [dispatch, hpath, hendpoint, hmethod]
  rfl

/-- The credentials in the body of a call open a connection. -/
def Connects (entries : Entries) (connection : Connection) : Prop :=
  ∃ baseUrl apiKey, Check.optional ["base_url"] [] Check.text entries = .valid baseUrl ∧
    Check.optional ["api_key"] [] Check.text entries = .valid apiKey ∧
      Credentials.require baseUrl apiKey = .ok () ∧
        (Client.ofCredentials baseUrl apiKey).connect = .ok connection

include horders hfilter hattributes hcompiled hlevel hmethod in
/-- **Running a filter requests the path and answers with it**, unless the request breaks off for
a reason of its own. -/
theorem handle_test_order {connection : Connection} {request : Request} {result : QueryResult}
    (hpath : call.path = "/api/v1/query/test")
    (hencoded : Check.optional ["encoded_filter"] none (Check.nullable Check.text) entries =
      .valid none)
    (hconnects : Connects entries connection)
    (hrequest : connection.requestTo (Preview.requestPath compiled.encoded) = .ok request)
    (hresult : QueryResult.ofReply (elapsedMs .zero (Binary64.zero.add host.seconds))
      (host.service request 0) = .ok result) :
    AnswersPath host call [request] (Preview.requestPath compiled.encoded) := by
  obtain ⟨baseUrl, apiKey, hbase, hkey, hrequire, hconnect⟩ := hconnects
  have hbody := (Check.agree_filterSet .document .body).valid_iff.mp hfilter
  have hoptional : Check.nullable (Check.filterSet .body) (.mapping document) =
      .valid (some filter) :=
    Validated.map_eq_valid.mpr ⟨filter, hbody, rfl⟩
  have horder : queryOrder (.mapping entries) =
      .valid ⟨⟨baseUrl, apiKey⟩, some filter, none, some attributes⟩ := by
    have hcredentials : (CredentialOrder.mk
        <$> Check.optional ["base_url"] [] Check.text entries
        <*> Check.optional ["api_key"] [] Check.text entries) = .valid ⟨baseUrl, apiKey⟩ :=
      Validated.seq_eq_valid.mpr ⟨_, _, Validated.map_eq_valid.mpr ⟨_, hbase, rfl⟩, hkey, rfl⟩
    exact Validated.seq_eq_valid.mpr ⟨_, _, Validated.seq_eq_valid.mpr ⟨_, _,
      Validated.seq_eq_valid.mpr ⟨_, _, Validated.map_eq_valid.mpr ⟨_, hcredentials, rfl⟩,
        optional_of_lookup? horders.filter hoptional, rfl⟩, hencoded, rfl⟩,
      optional_attributes horders hattributes, rfl⟩
  have hexecute : connection.execute host.service .zero (Binary64.zero.add host.seconds)
      compiled.encoded = ⟨[request], .ok result⟩ := by
    rw [Connection.execute, hrequest, ← hresult]
  have hserved : dispatch host call =
      .ok ⟨.body 200 (resultRecord compiled.encoded result), [request]⟩ := by
    have hfilterText : QueryOrder.encodedFilter
        ⟨⟨baseUrl, apiKey⟩, some filter, none, some attributes⟩ = .ok compiled.encoded := by
      simp only [QueryOrder.encodedFilter, compile, Option.getD_some, hcompiled]
      rfl
    have hrun : withRun ⟨baseUrl, apiKey⟩ (fun connection =>
          connection.execute host.service .zero (Binary64.zero.add host.seconds) compiled.encoded)
        (resultRecord compiled.encoded) =
          .ok ⟨.body 200 (resultRecord compiled.encoded result), [request]⟩ := by
      simp only [withRun, hconnect, hexecute]
    rw [dispatch_query hpath hmethod, testQuery, withBody,
      checkBody_of_content horders.content horder]
    simp only [withCredentials, hrequire, hfilterText]
    exact hrun
  exact ⟨_, Format.tellsPath_queryRecord _ _ _,
    handle_of_dispatch hlevel (by rw [hmethod]; decide) hserved⟩

end Orders

end Api

end ProfileFilter
