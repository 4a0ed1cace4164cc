import ProfileFilter.Api.Interface
import ProfileFilter.Proofs.Compile.Dropping
import ProfileFilter.Proofs.Validate.Grant

/-!
# Answers to orders to compile

No text of a compiled filter holds a lone surrogate, whatever is in the conditions. So the
endpoint that compiles filters always has an answer that can be written: a body that is read
from JSON has no keys that could stop the compilation, the previews are made of the encoded
filter, and only a count of conditions with more digits than may be written would be left.

Main statement: `compileFilter_isEncodable`.
-/

namespace ProfileFilter

open Json

/-! ## Previews -/

namespace Preview

theorem isEncodable_requestPath {encoded : Text} (h : encoded.isEncodable = true) :
    (requestPath encoded).isEncodable = true := by
  simp only [requestPath, personsPath]
  split_ifs <;> simp [h]

theorem isEncodable_sampleRequest {encoded : Text} (h : encoded.isEncodable = true) :
    (sampleRequest encoded).isEncodable = true := by
  simp [sampleRequest, placeholderApiKey, isEncodable_requestPath h]

theorem isEncodable_orPlaceholder {placeholder : Text} {t : Option Text}
    (hplaceholder : placeholder.isEncodable = true) (h : t.all Text.isEncodable = true) :
    (orPlaceholder placeholder t).isEncodable = true := by
  unfold orPlaceholder
  split
  · exact h
  · exact hplaceholder

theorem isEncodable_curl {encoded : Text} {baseUrl : Option Text}
    (h : encoded.isEncodable = true) (hbase : baseUrl.all Text.isEncodable = true) :
    (curl encoded baseUrl none).isEncodable = true := by
  have hurl : (url encoded baseUrl).isEncodable = true := by
    have hstart : (orPlaceholder placeholderBaseUrl baseUrl).isEncodable = true :=
      isEncodable_orPlaceholder (Text.isEncodable_ofString _) hbase
    rw [url, Text.isEncodable_append, isEncodable_requestPath h,
      Text.isEncodable_dropTrailing hstart]
    rfl
  have hkey : (orPlaceholder placeholderApiKey none).isEncodable = true :=
    Text.isEncodable_ofString _
  simp [curl, hurl, hkey]

end Preview

namespace Api

/-! ## The answer -/

variable {compiled : CompiledFilter} {baseUrl : Option Text}

/-- The body of an answer has an encodable text if the count in it can be written. -/
theorem exists_compact_compiledRecord {attributes : List Attribute} {filter : FilterSet}
    (h : compileFilter attributes filter = .ok compiled)
    (hbase : baseUrl.all Text.isEncodable = true)
    (hcount : Value.isWritableInt compiled.conditionCount = true) :
    ∃ s, compact (compiledRecord compiled baseUrl) = .ok s ∧ s.isEncodable = true := by
  obtain ⟨hraw, hencoded, hexplanation⟩ := CompiledFilter.isEncodable_of_compileFilter h
  have htext : ∀ t : Text, t.isEncodable = true →
      ∃ s, compact (.text t) = .ok s ∧ s.isEncodable = true := fun t ht =>
    ⟨string t, rfl, by rw [isEncodable_string, ht]⟩
  have hint : ∃ s, compact (.int compiled.conditionCount) = .ok s ∧ s.isEncodable = true :=
    ⟨_, if_pos hcount, Text.isEncodable_ofInt _⟩
  refine exists_compact_record ?_
  simp only [List.forall_mem_cons]
  refine ⟨⟨Text.isEncodable_ofString _, htext _ hraw⟩, ⟨Text.isEncodable_ofString _, htext _ hencoded⟩,
    ⟨Text.isEncodable_ofString _, htext _ hexplanation⟩, ⟨Text.isEncodable_ofString _, hint⟩,
    ⟨Text.isEncodable_ofString _, htext _ (Preview.isEncodable_requestPath hencoded)⟩,
    ⟨Text.isEncodable_ofString _, htext _ (Preview.isEncodable_sampleRequest hencoded)⟩,
    ⟨Text.isEncodable_ofString _, htext _ (Preview.isEncodable_curl hencoded hbase)⟩, ?_⟩
  exact fun field hfield => absurd hfield List.not_mem_nil

/-- A count with too many digits is the first thing in the body that cannot be written. -/
theorem compact_compiledRecord_of_count
    (hcount : Value.isWritableInt compiled.conditionCount = false) :
    compact (compiledRecord compiled baseUrl) = .error .number := by
  have hint : integerToken compiled.conditionCount = .error .number := if_neg (by simp [hcount])
  -- the three fields before the count are texts, which are always written
  simp only [compact, compiledRecord, Value.record, List.map_cons, compactWith, compactEntries,
    keyText, scalar, hint]
  rfl

/-- The answer can be written exactly if the count in it can. -/
theorem written_compiledRecord {attributes : List Attribute} {filter : FilterSet}
    (h : compileFilter attributes filter = .ok compiled)
    (hbase : baseUrl.all Text.isEncodable = true) :
    (Answer.body 200 (compiledRecord compiled baseUrl)).written =
      if Value.isWritableInt compiled.conditionCount then
        .ok (.body 200 (compiledRecord compiled baseUrl))
      else .error .number := by
  simp only [Answer.written, requireWritable]
  split_ifs with hcount
  · obtain ⟨s, hs, henc⟩ := exists_compact_compiledRecord h hbase hcount
    simp only [hs, henc]
    rfl
  · rw [compact_compiledRecord_of_count (Bool.not_eq_true _ ▸ hcount)]
    rfl

/-! ## The order -/

theorem passesDown_hasJsonKeys : Value.PassesDown fun v => v.hasJsonKeys = true where
  null := rfl
  list := Value.haveJsonKeys_iff.mp
  tuple := Value.haveJsonKeys_iff.mp
  mapping h e he := (Value.entriesHaveJsonKeys_iff.mp h e he).2

theorem hasJsonKeys_of_readJson {body : List UInt8} {v : Value} (h : readJson body = .json v) :
    v.hasJsonKeys = true := by
  unfold readJson at h
  split at h
  · cases h
  · split at h
    · next hparse =>
      cases h
      exact hasJsonKeys_of_parse hparse
    · split at h <;> cases h

theorem hasJsonKeys_of_content {call : Call} {v : Value} (h : call.content = .json v) :
    v.hasJsonKeys = true := by
  unfold Call.content at h
  split_ifs at h
  split at h
  · exact hasJsonKeys_of_readJson h
  · split_ifs at h
    exact hasJsonKeys_of_readJson h

/-- A checked body was read from JSON. -/
theorem exists_content_of_checkBody {α : Type} {call : Call} {check : Value → Validated α} {a : α}
    (h : checkBody call check = .ok a) : ∃ v, call.content = .json v ∧ check v = .valid a := by
  simp only [checkBody] at h
  split at h
  · cases h
  · cases h
  · next v _ hcontent =>
    split at h
    · next b hvalid =>
      cases h
      exact ⟨v, hcontent, Validated.under_eq_valid.mp hvalid⟩
    · cases h
  · cases h
  · cases h
  · cases h

/-- **An order that was read is compiled.** -/
theorem exists_compileFilter_of_checkBody {call : Call} {order : CompileOrder}
    (h : checkBody call compileOrder = .ok order) :
    ∃ compiled, compileFilter (order.attributes.getD []) order.filter = .ok compiled := by
  obtain ⟨v, hcontent, hvalid⟩ := exists_content_of_checkBody h
  have hvalues : ∀ c ∈ order.filter.conditions, c.ValuesHave fun v => v.hasJsonKeys = true := by
    have hgrants : Check.Grants compileOrder (fun v => v.hasJsonKeys = true) fun order =>
        ∀ c ∈ order.filter.conditions, c.ValuesHave fun v => v.hasJsonKeys = true := by
      refine Check.Grants.record passesDown_hasJsonKeys fun entries order hentries hvalid => ?_
      obtain ⟨_, _, hupToAttributes, -, rfl⟩ := Validated.seq_eq_valid.mp hvalid
      obtain ⟨_, _, hupToFilter, -, rfl⟩ := Validated.seq_eq_valid.mp hupToAttributes
      obtain ⟨filter, hfilter, rfl⟩ := Validated.map_eq_valid.mp hupToFilter
      exact (Check.grants_filterSet .body passesDown_hasJsonKeys).optional hentries
        (fun _ hc => absurd hc List.not_mem_nil) hfilter
    exact hgrants v order (hasJsonKeys_of_content hcontent) hvalid
  exact exists_compileFilter_eq_ok hvalues

/-! ## The call -/

/-- Only inquiries about other calls are answered before an endpoint is asked. -/
theorem inquiry?_eq_none {origins : List Text} {call : Call} (h : call.method ≠ "OPTIONS") :
    inquiry? origins call = none := by
  unfold inquiry?
  cases call.header? "origin" with
  | none => rfl
  | some origin =>
    cases call.header? "access-control-request-method" with
    | none => rfl
    | some method =>
      have hmethod : (call.method != ("OPTIONS" : Text)) = true := bne_iff_ne.mpr h
      simp only [Option.bind_eq_bind, Option.bind_some, hmethod, if_true]

theorem endpointAt?_compile : endpointAt? "/api/v1/filters/compile" =
    some ⟨"POST", fun _ call => compileFilters call⟩ := rfl

theorem dispatch_compile (host : Host) {call : Call} (hmethod : call.method = "POST")
    (hpath : call.path = "/api/v1/filters/compile") :
    dispatch host call = compileFilters call := by
  rw [dispatch, hpath, endpointAt?_compile, hmethod]
  rfl

/-- A call to compile a filter is answered by the endpoint, whatever the origin. -/
theorem handle_compile {host : Host} {call : Call}
    (hlevel : logLevels.contains host.settings.server.logLevel.upper = true)
    (hmethod : call.method = "POST") (hpath : call.path = "/api/v1/filters/compile") :
    handle host call = (do
      let served ← compileFilters call
      let answer ← served.answer.written
      return {
        answer
        requests := served.requests
        allowOrigin := allowOrigin (allowedOrigins host.environment) call }) := by
  have hinquiry : inquiry? (allowedOrigins host.environment) call = none :=
    inquiry?_eq_none (by rw [hmethod]; decide)
  simp only [handle, hlevel, hinquiry, dispatch_compile host hmethod hpath, ite_self]
  rfl

/-- **Lone surrogates never reach the output.** None is in a text of a compiled filter, whatever
fields, operators and values the conditions have, so with a base URL that can be encoded the
body of the answer has an encodable text. A call to compile a filter is answered with that body
if its order was read at all; only a count with more digits than may be written could fail. -/
theorem compileFilter_isEncodable :
    (∀ (attributes : List Attribute) (filter : FilterSet) (compiled : CompiledFilter),
      compileFilter attributes filter = .ok compiled →
        (compiled.raw.isEncodable = true ∧ compiled.encoded.isEncodable = true ∧
          compiled.explanation.isEncodable = true) ∧
        ∀ baseUrl : Option Text, baseUrl.all Text.isEncodable = true →
          Value.isWritableInt compiled.conditionCount = true →
          ∃ body, compact (compiledRecord compiled baseUrl) = .ok body ∧
            body.isEncodable = true) ∧
      ∀ (host : Host) (call : Call) (order : CompileOrder),
        logLevels.contains host.settings.server.logLevel.upper = true →
        call.method = "POST" → call.path = "/api/v1/filters/compile" →
        checkBody call compileOrder = .ok order → order.baseUrl.all Text.isEncodable = true →
        ∃ compiled, compileFilter (order.attributes.getD []) order.filter = .ok compiled ∧
          handle host call =
            if Value.isWritableInt compiled.conditionCount then
              .ok {
                answer := .body 200 (compiledRecord compiled order.baseUrl)
                allowOrigin := allowOrigin (allowedOrigins host.environment) call }
            else .error .number := by
  refine ⟨fun attributes filter compiled h => ?_, ?_⟩
  · exact ⟨CompiledFilter.isEncodable_of_compileFilter h,
      fun baseUrl => exists_compact_compiledRecord h⟩
  · intro host call order hlevel hmethod hpath horder hbase
    obtain ⟨compiled, hcompiled⟩ := exists_compileFilter_of_checkBody horder
    refine ⟨compiled, hcompiled, ?_⟩
    have hserved : compileFilters call =
        .ok { answer := .body 200 (compiledRecord compiled order.baseUrl) } := by
      simp only [compileFilters, withBody, horder, compile, hcompiled]
      rfl
    rw [handle_compile hlevel hmethod hpath, hserved]
    show (do
      let answer ← (Answer.body 200 (compiledRecord compiled order.baseUrl)).written
      return _) = _
    rw [written_compiledRecord hcompiled hbase]
    split_ifs <;> rfl

/-- A filter with a lone surrogate in a field, in an operator, in a value and in the value of an
item, and one condition without any. -/
def surrogateOrder : Value :=
  .record [("filter", .record [("conditions", .list [
    .record [("field", .text [0xD800]), ("operator", .text "eq"), ("value", .text "ok")],
    .record [("field", .text "a"), ("operator", .text [0xDBFF]), ("value", .int 1)],
    .record [("field", .text "a"), ("operator", .text "eq"), ("value", .text [0xDC00])],
    .record [("field", .text "a"), ("listConditions",
      .list [.record [("field", .text "q"), ("operator", .text "in"), ("value", .text [0xDFFF])]])],
    .record [("field", .text "b"), ("operator", .text "eq"), ("value", .text "ok")]])])]

/-- The call to compile it, the surrogates encoded like any other code point. -/
def surrogateCall : Call where
  method := "POST"
  path := "/api/v1/filters/compile"
  body := ((compact surrogateOrder).toOption.getD []).flatMap Utf8.encodeCodePoint

/-- A host with the default settings, whose service has nothing to say. -/
def quietHost : Host where
  settings := {}
  environment := []
  service _ _ := .answer 404 []

theorem compileFilter_isEncodable_surrogates :
    ∃ compiled, compiled.conditionCount = 1 ∧ compiled.explanation.isEncodable = true ∧
      handle quietHost surrogateCall = .ok { answer := .body 200 (compiledRecord compiled none) } := by
  have hread : (checkBody surrogateCall compileOrder).toOption.map (fun order =>
      (order.baseUrl, (compileFilter (order.attributes.getD []) order.filter).toOption.map
        CompiledFilter.conditionCount)) = some (none, some 1) := by
    decide +kernel
  obtain ⟨order, horder, hbaseAndCount⟩ := exists_of_map_toOption hread
  obtain ⟨hbase, hcount⟩ := Prod.mk.inj hbaseAndCount
  have hlevel : logLevels.contains quietHost.settings.server.logLevel.upper = true := by decide
  obtain ⟨htexts, hanswers⟩ := compileFilter_isEncodable
  obtain ⟨compiled, hcompiled, hanswer⟩ :=
    hanswers quietHost surrogateCall order hlevel rfl rfl horder (by rw [hbase]; rfl)
  rw [hcompiled] at hcount
  have hone : compiled.conditionCount = 1 := Option.some.inj hcount
  refine ⟨compiled, hone, (htexts _ _ _ hcompiled).1.2.2, ?_⟩
  rw [hanswer, hbase, hone]
  rfl

end Api

end ProfileFilter
