import ProfileFilter.Value.Shown

/-!
# Request previews

The request a filter leads to, in three forms: path and query, an example of the request,
and a command that runs it. And a one-line summary of a listing of persons.
-/

namespace ProfileFilter

namespace Preview

/-- The path under which persons are searched. -/
def personsPath : Text := "/people/2/persons"

/-- What stands for an unknown base URL. -/
def placeholderBaseUrl : Text := "https://your-base-url.api.infobip.com"

/-- What stands for an unknown API key. -/
def placeholderApiKey : Text := "YOUR_API_KEY"

/-- Path and query of the search with an encoded filter; an empty one is left out. -/
def requestPath (encoded : Text) : Text :=
  let filter : Text := if encoded.isEmpty then [] else "&filter=" ++ encoded
  personsPath ++ "?includeTotalCount=true" ++ filter

/-- The request in two lines, with a placeholder for the key. -/
def sampleRequest (encoded : Text) : Text :=
  "GET " ++ requestPath encoded ++ "\nAuthorization: App " ++ placeholderApiKey

/-- The text if it is not empty, else the placeholder. -/
def orPlaceholder (placeholder : Text) : Option Text → Text
  | some (c :: rest) => c :: rest
  | _ => placeholder

/-- The URL a command calls. -/
def url (encoded : Text) (baseUrl : Option Text) : Text :=
  Text.dropTrailing ('/') (orPlaceholder placeholderBaseUrl baseUrl) ++ requestPath encoded

/-- A command that runs the request. -/
def curl (encoded : Text) (baseUrl apiKey : Option Text) : Text :=
  "curl -X GET \"" ++ url encoded baseUrl ++ "\" \\\n  -H \"Authorization: App " ++
    orPlaceholder placeholderApiKey apiKey ++ "\""

end Preview

/-- The integer that a count is; truth values count as zero and one. -/
def countOf? : Value → Option Int
  | .int n => some n
  | .bool b => some (if b then 1 else 0)
  | _ => none

/-- One line about a listing of persons; nothing for any other body. -/
def summarizeResults (body : Value) : Option Text :=
  match body with
  | .mapping entries =>
    match Value.get "persons" entries with
    | .list persons =>
      let count := Text.ofNat persons.length
      match Value.get "totalCount" entries with
      | .null => some ("Found " ++ count ++ " profile(s)")
      | total =>
        let isPage := (countOf? total).any fun n => (persons.length : Int) < n
        let page : Text := if isPage then " (showing " ++ count ++ " on this page)" else []
        some ("Found " ++ total.shown ++ " matching profile(s)" ++ page)
    | _ => none
  | _ => none

end ProfileFilter
