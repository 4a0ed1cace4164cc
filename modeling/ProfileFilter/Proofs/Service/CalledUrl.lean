import ProfileFilter.Proofs.Service.BaseUrl
import ProfileFilter.Proofs.Service.Credentials
import ProfileFilter.Proofs.Service.Session

/-!
# The URL a command calls

A command that runs a request is shown for a base URL as it was entered, and names the URL it calls
between its first two quotes (`quoted?`). It only loses the slashes at the end of the base URL, and
a client loses the blanks around it as well. So the command calls what the client calls exactly if
there are no blanks around the base URL, and no quote in it that ends the URL too early; there is
none in the path of a search.

Main statement: `curl_calls`.
-/

namespace ProfileFilter

namespace Preview

/-- The text between the first two quotes. -/
def quoted? (command : Text) : Option Text := do
  let opened ← (Text.cut '"' command).2
  let (called, closed) := Text.cut '"' opened
  closed.map fun _ => called

theorem quoted?_eq_some_iff {command called : Text} :
    quoted? command = some called ↔
      ∃ before after : Text,
        command = before ++ ('"' : CodePoint) :: (called ++ ('"' : CodePoint) :: after) ∧
          ('"' : CodePoint) ∉ before ∧ ('"' : CodePoint) ∉ called := by
  constructor
  · intro h
    obtain ⟨opened, hopened, hrest⟩ := Option.bind_eq_some_iff.mp h
    obtain ⟨after, hclosed, hcalled⟩ := Option.map_eq_some_iff.mp hrest
    obtain ⟨hcommand, hbefore⟩ := Text.cut_eq_some_iff.mp (Prod.ext rfl hopened)
    obtain ⟨hinside, hquote⟩ := Text.cut_eq_some_iff.mp (Prod.ext hcalled hclosed)
    exact ⟨_, after, hinside ▸ hcommand, hbefore, hquote⟩
  · rintro ⟨before, after, rfl, hbefore, hcalled⟩
    rw [quoted?, Text.cut_append_cons hbefore, Option.bind_eq_bind, Option.bind_some,
      Text.cut_append_cons hcalled]
    rfl

variable {raw url : Text} {baseUrl apiKey : Option Text}

/-- A command calls its URL if there is no quote in it. -/
theorem quoted?_curl {encoded : Text} (h : ('"' : CodePoint) ∉ Preview.url encoded baseUrl) :
    quoted? (curl encoded baseUrl apiKey) = some (Preview.url encoded baseUrl) := by
  refine quoted?_eq_some_iff.mpr ⟨"curl -X GET ", " \\\n  -H \"Authorization: App " ++
    orPlaceholder placeholderApiKey apiKey ++ "\"", ?_, by decide, h⟩
  have hopening : ("curl -X GET \"" : Text) = "curl -X GET " ++ [('"' : CodePoint)] := rfl
  have hclosing : ("\" \\\n  -H \"Authorization: App " : Text) =
      ('"' : CodePoint) :: (" \\\n  -H \"Authorization: App " : Text) := rfl
  rw [curl, hopening, hclosing]
  simp only [List.append_assoc, List.cons_append, List.nil_append]

theorem quote_notMem_requestPath (raw : Text) :
    ('"' : CodePoint) ∉ requestPath (Percent.encode raw) :=
  notMem_requestPath (by decide) (by decide) (by decide) (by decide) raw

theorem url_some {encoded : Text} (h : url ≠ []) :
    Preview.url encoded (some url) = Text.dropTrailing '/' url ++ requestPath encoded := by
  cases url with
  | nil => exact absurd rfl h
  | cons c rest => rfl

/-- **A command calls what a client calls** exactly if nothing is around the base URL that only the
client drops, and no quote is in it. -/
theorem quoted?_curl_eq_iff (h : url ≠ []) :
    quoted? (curl (Percent.encode raw) (some url) apiKey) =
        some (Credentials.normalBaseUrl url ++ requestPath (Percent.encode raw)) ↔
      url.trim = url ∧ ('"' : CodePoint) ∉ url := by
  have hpath := quote_notMem_requestPath raw
  have hshown : ('"' : CodePoint) ∉ url →
      quoted? (curl (Percent.encode raw) (some url) apiKey) =
        some (Text.dropTrailing '/' url ++ requestPath (Percent.encode raw)) := by
    intro hquote
    have hurl : ('"' : CodePoint) ∉ Preview.url (Percent.encode raw) (some url) := by
      rw [url_some h, List.mem_append, not_or]
      exact ⟨fun hmem => hquote (Text.mem_of_mem_dropTrailing hmem), hpath⟩
    rw [quoted?_curl hurl, url_some h]
  constructor
  · intro heq
    -- what a command calls holds no quote, and the client keeps every quote of the base URL
    obtain ⟨_, _, -, -, hcalled⟩ := quoted?_eq_some_iff.mp heq
    rw [List.mem_append, not_or] at hcalled
    have hquote : ('"' : CodePoint) ∉ url := fun hmem =>
      hcalled.1 (Credentials.mem_normalBaseUrl_of_mem hmem (by decide) (by decide))
    rw [hshown hquote] at heq
    have hsame := List.append_cancel_right (Option.some.inj heq)
    exact ⟨Credentials.dropTrailing_eq_normalBaseUrl_iff.mp hsame, hquote⟩
  · rintro ⟨htrim, hquote⟩
    rw [hshown hquote, Credentials.dropTrailing_eq_normalBaseUrl_iff.mpr htrim]

/-- The query of a search is sent as it is. -/
theorem sentQuery_requestPath (raw : Text) :
    Url.sentQuery (requestPath (Percent.encode raw)) none = some (query (Percent.encode raw)) := by
  have hnumber : ('#' : CodePoint) ∉ requestPath (Percent.encode raw) :=
    notMem_requestPath (by decide) (by decide) (by decide) (by decide) raw
  have hliteral := Url.isLiteral_of_mem_query (Percent.isSpelling_encode raw)
  rw [Url.sentQuery, Url.queryOf, Text.cut_of_notMem hnumber, cut_requestPath, Option.map_some,
    Url.escapePart_of_forall hliteral]

/-- **What the preview of a filter calls, and what a client requests.** For an accepted base URL the
command calls the base URL of the client, followed by the path of the search, exactly if there are
no blanks around the base URL and no quote is in it. Running the filter requests this path, and if
the base URL has neither a query nor a fragment, this leads behind the base URL, with the query as
it is. -/
theorem curl_calls {attributes : List Attribute} {filter : FilterSet} {compiled : CompiledFilter}
    {url key : Text} (hcompiled : compileFilter attributes filter = .ok compiled)
    (haccepted : Credentials.faults url key = .ok []) (apiKey : Option Text) :
    (quoted? (curl compiled.encoded (some url) apiKey) =
        some ((Client.ofCredentials url key).baseUrl ++ requestPath compiled.encoded) ↔
      url.trim = url ∧ ('"' : CodePoint) ∉ url) ∧
    ∀ connection, (Client.ofCredentials url key).connect = .ok connection →
      ∀ service started finished,
        ∀ request ∈ (connection.execute service started finished compiled.encoded).requests,
          connection.requestTo (requestPath compiled.encoded) = .ok request ∧
            ∀ base, Url.parse (Client.ofCredentials url key).baseUrl = .ok base →
              base.query = none → base.fragment = none →
                base.Follows (requestPath compiled.encoded) (some (query compiled.encoded))
                  request.url := by
  obtain ⟨⟨hblank, -⟩, -⟩ := Credentials.faults_eq_nil_iff.mp haccepted
  have hurl : url ≠ [] := fun hnil => hblank (by rw [hnil]; rfl)
  rw [CompiledFilter.encoded_eq hcompiled]
  refine ⟨quoted?_curl_eq_iff hurl, fun connection hconnect service started finished request hmem =>
    ?_⟩
  have hrequest := Connection.eq_ok_of_mem_execute hmem
  refine ⟨hrequest, fun base hparse hquery hfragment => ?_⟩
  obtain ⟨_, hread, hroot, -⟩ := Client.exists_asBase_of_connect hconnect
  obtain rfl := Except.ok.inj (hread.symm.trans hparse)
  have hbase : Url.IsBase _ := Url.isBase_of_parse hparse hquery hfragment
  rw [← sentQuery_requestPath]
  exact Connection.follows_of_requestTo hbase hroot (Url.hasOneSlash_requestPath _) hrequest

/-- A filter with one condition. -/
def cityFilter : FilterSet :=
  { conditions := [{ field := "city", operator := some "eq", value := .text "Zagreb" }] }

/-- The filter, encoded. -/
def cityEncoded : Text := "%7B%22city%22%3A%22Zagreb%22%7D"

theorem exists_cityFilter :
    ∃ compiled, compileFilter [] cityFilter = .ok compiled ∧ compiled.encoded = cityEncoded := by
  have hencoded : (compileFilter [] cityFilter).toOption.map CompiledFilter.encoded =
      some cityEncoded := by
    decide +kernel
  exact exists_of_map_toOption hencoded

/-- Slashes at the end of the base URL are dropped by both. -/
theorem curl_calls_slashed :
    ∃ compiled request,
      compileFilter [] cityFilter = .ok compiled ∧
        quoted? (curl compiled.encoded (some "https://api.example.com//") none) =
          some ("https://api.example.com" ++ requestPath compiled.encoded) ∧
        (Directory.plainConnection.execute Session.acceptingService .zero .zero
          compiled.encoded).requests = [request] ∧
        Directory.plainConnection.base.Follows (requestPath compiled.encoded)
          (some (query compiled.encoded)) request.url := by
  obtain ⟨compiled, hcompiled, hencoded⟩ := exists_cityFilter
  have haccepted : Credentials.faults "https://api.example.com//" "k" = .ok [] := by
    decide +kernel
  have hconnect : (Client.ofCredentials "https://api.example.com//" "k").connect =
      .ok Directory.plainConnection := by
    decide +kernel
  have hparse : Url.parse (Client.ofCredentials "https://api.example.com//" "k").baseUrl =
      .ok Directory.plainConnection.base := by
    decide +kernel
  have hbaseUrl : (Client.ofCredentials "https://api.example.com//" "k").baseUrl =
      "https://api.example.com" := by
    decide +kernel
  have hrequested : ((Directory.plainConnection.execute Session.acceptingService .zero .zero
      compiled.encoded).requests).length = 1 := by
    rw [hencoded]
    decide +kernel
  obtain ⟨request, hrequest⟩ := List.length_eq_one_iff.mp hrequested
  obtain ⟨hcalls, hrequests⟩ := curl_calls hcompiled haccepted none
  obtain ⟨-, hfollows⟩ := hrequests _ hconnect Session.acceptingService .zero .zero request
    (by rw [hrequest]; exact List.mem_singleton_self request)
  rw [hbaseUrl] at hcalls
  exact ⟨compiled, request, hcompiled, hcalls.mpr (by decide), hrequest,
    hfollows _ hparse rfl rfl⟩

/-- A blank before the base URL is accepted, and only the client drops it. -/
theorem curl_calls_blank :
    Credentials.faults " https://api.example.com" "k" = .ok [] ∧
      (Client.ofCredentials " https://api.example.com" "k").baseUrl = "https://api.example.com" ∧
      ∃ compiled, compileFilter [] cityFilter = .ok compiled ∧
        quoted? (curl compiled.encoded (some " https://api.example.com") none) =
          some (" https://api.example.com" ++ requestPath compiled.encoded) ∧
        quoted? (curl compiled.encoded (some " https://api.example.com") none) ≠
          some ((Client.ofCredentials " https://api.example.com" "k").baseUrl ++
            requestPath compiled.encoded) := by
  obtain ⟨compiled, hcompiled, hencoded⟩ := exists_cityFilter
  refine ⟨by decide +kernel, by decide +kernel, compiled, hcompiled, ?_⟩
  rw [hencoded]
  exact ⟨by decide +kernel, by decide +kernel⟩

end Preview

end ProfileFilter
