import ProfileFilter.Proofs.Service.QueryResult
import ProfileFilter.Proofs.Terminal.Escaping
import ProfileFilter.Proofs.Text.Trimming
import ProfileFilter.Settings.Load

/-!
# What formats tell

Markup *tells* texts (`Markup.Tells`) if it is made of them, each escaped, of words that are fixed
(`Markup.ownWords`), and of numbers. So whatever comes from elsewhere and is no number has to be
escaped. Every format tells a list of texts that is given here next to it: field names and filters
with their separators replaced, keys masked, and everything else as it is.

Main statements: `tells_compiled`, `tells_attributes`, `tells_query`, `tells_settings`.
-/

namespace ProfileFilter

namespace Markup

open Format (bold styled)

/-! ## Markup made of texts -/

/-- The labels of lines. -/
def labels : List Text :=
  (["Conditions:", "Meaning:", "Raw:", "Encoded:", "Request:", "curl:", "Status:", "Time:",
    "Result:", "Action:", "Connection:", "Server:"] : List Text).map bold ++
  [styled "bold red" "Error:", styled "yellow" "Warning:", styled "green" "Config is valid.",
    styled "red" "Invalid configuration:"] ++
  Fault.all.map fun fault =>
    styled "bold red" ("Error" ++ (" (" ++ Text.ofString fault.code ++ ")") ++ ":")

/-- What stands between texts and around them, titles and headers. -/
def fillers : List Text :=
  ["", " ", "  ", "   ", "     ", "\n", ": ", "GET ", "  GET ", " ms", "yes", "[red]", "[/red]",
    "[green]", "[/green]", "Filter", "Compiled Filter", "Test Query", "Attributes (", ")", "Name",
    "Type", "Custom", "Details", "  Base URL: ", "  API key: ",
    styled "dim" "No complete conditions; the request runs without a filter."]

/-- The words that are written as markup; the types of attributes and the names of the settings are
among them. -/
def ownWords : List Text :=
  fillers ++ labels ++ AttributeType.all.map (fun t => styled (Format.typeStyle t) t.name) ++
    Settings.sections.flatMap Prod.snd

/-- Markup that tells texts, in order: own words, numbers, and the texts as they are escaped. -/
inductive Tells : Text → List Text → Prop where
  /-- nothing is told -/
  | nil : Tells [] []
  /-- own words come first -/
  | word {m rest : Text} {ts : List Text} : m ∈ ownWords → Tells rest ts → Tells (m ++ rest) ts
  /-- a number comes first -/
  | number (n : Int) {rest : Text} {ts : List Text} :
    Tells rest ts → Tells (Text.ofInt n ++ rest) ts
  /-- a text comes first -/
  | text (t : Text) {rest : Text} {ts : List Text} :
    Tells rest ts → Tells (escape t ++ rest) (t :: ts)

variable {m n t : Text} {ts us : List Text}

theorem Tells.append (h : Tells m ts) (h' : Tells n us) : Tells (m ++ n) (ts ++ us) := by
  induction h with
  | nil => exact h'
  | word hword _ ih =>
    rw [List.append_assoc]
    exact .word hword ih
  | number k _ ih =>
    rw [List.append_assoc]
    exact .number k ih
  | text t _ ih =>
    rw [List.append_assoc]
    exact .text t ih

theorem tells_word (h : m ∈ ownWords) : Tells m [] := by
  have hword := Tells.word h .nil
  rwa [List.append_nil] at hword

theorem tells_ofInt (n : Int) : Tells (Text.ofInt n) [] := by
  have hnumber := Tells.number n .nil
  rwa [List.append_nil] at hnumber

theorem tells_ofNat (n : Nat) : Tells (Text.ofNat n) [] :=
  tells_ofInt n

theorem tells_escape (t : Text) : Tells (escape t) [t] := by
  have htext := Tells.text t .nil
  rwa [List.append_nil] at htext

/-- A label before a text. -/
theorem tells_label (hlabel : m ∈ ownWords) (hgap : n ∈ ownWords) (t : Text) :
    Tells (m ++ n ++ escape t) [t] :=
  ((tells_word hlabel).append (tells_word hgap)).append (tells_escape t)

/-- Texts in a style. -/
theorem Tells.styled {style : Text} (hopen : "[" ++ style ++ "]" ∈ ownWords)
    (hclose : "[/" ++ style ++ "]" ∈ ownWords) (h : Tells m ts) :
    Tells (Format.styled style m) ts := by
  have hstyled : Format.styled style m = "[" ++ style ++ "]" ++ (m ++ ("[/" ++ style ++ "]")) := by
    simp only [Format.styled, List.append_assoc]
  have htold := h.append (tells_word hclose)
  rw [List.append_nil] at htold
  rw [hstyled]
  exact .word hopen htold

/-! ## Lines, cells and displays -/

/-- Each of several things tells its texts. -/
inductive Each {α : Type} (tells : α → List Text → Prop) : List α → List Text → Prop where
  /-- nothing is told -/
  | nil : Each tells [] []
  /-- one thing after the other -/
  | cons {a : α} {as : List α} {ts us : List Text} : tells a ts → Each tells as us →
    Each tells (a :: as) (ts ++ us)

namespace Each

variable {α β : Type} {tells : α → List Text → Prop} {as bs : List α}

theorem append (h : Each tells as ts) (h' : Each tells bs us) :
    Each tells (as ++ bs) (ts ++ us) := by
  induction h with
  | nil => exact h'
  | cons ha _ ih =>
    rw [List.append_assoc]
    exact .cons ha ih

theorem singleton {a : α} (h : tells a ts) : Each tells [a] ts := by
  have hone := Each.cons h .nil
  rwa [List.append_nil] at hone

theorem flatMap {f : β → List α} {texts : β → List Text} {bs : List β}
    (h : ∀ b ∈ bs, Each tells (f b) (texts b)) : Each tells (bs.flatMap f) (bs.flatMap texts) := by
  induction bs with
  | nil => exact .nil
  | cons b rest ih =>
    obtain ⟨hb, hrest⟩ := List.forall_mem_cons.mp h
    exact hb.append (ih hrest)

theorem map {f : β → α} {texts : β → List Text} {bs : List β}
    (h : ∀ b ∈ bs, tells (f b) (texts b)) : Each tells (bs.map f) (bs.flatMap texts) := by
  rw [← List.flatMap_singleton' (bs.map f), List.flatMap_map]
  exact flatMap fun b hb => singleton (h b hb)

/-- Lines that tell texts tell them one below the other. -/
theorem stack {lines : List Text} (h : Each Tells lines ts) : Tells (Format.stack lines) ts := by
  induction h with
  | nil => exact .nil
  | @cons line rest ts us hline hrest ih =>
    cases rest with
    | nil =>
      cases hrest
      rw [List.append_nil]
      exact hline
    | cons next rest =>
      show Tells (line ++ "\n" ++ Format.stack (next :: rest)) (ts ++ us)
      rw [List.append_assoc]
      exact hline.append (.word (by decide) ih)

end Each

end Markup

open Markup (Each escape ownWords tells_escape tells_label tells_ofInt tells_ofNat tells_word)

/-- A display tells texts. Blanks at the end of lines may be left out. -/
inductive Display.Tells : Display → List Text → Prop where
  /-- lines -/
  | lines {m blanks : Text} {ts : List Text} : blanks.AllBlank → Markup.Tells (m ++ blanks) ts →
    Tells (.lines m) ts
  /-- a panel; its title tells nothing -/
  | panel {m title style : Text} {ts : List Text} : Markup.Tells title [] → Markup.Tells m ts →
    Tells (.panel m title style) ts
  /-- a table; its title and headers tell nothing -/
  | table {title : Text} {columns : List Column} {rows : List (List Text)} {ts : List Text} :
    Markup.Tells title [] → (∀ column ∈ columns, Markup.Tells column.header []) →
    Each Markup.Tells rows.flatten ts → Tells (.table title columns rows) ts

/-- The displays of an output tell texts. -/
def Output.Tells (output : Output) (ts : List Text) : Prop := Each Display.Tells output.displays ts

namespace Format

/-! ## The formats -/

/-- What is told of a compiled filter. -/
def compiledTexts (compiled : CompiledFilter) (requestPath curl : Text) : List Text :=
  if compiled.isEmpty then []
  else [displayFieldName compiled.explanation, compiled.raw.replace listSeparator "\\u0001",
    compiled.encoded, requestPath, curl]

theorem tells_compiledPanel (compiled : CompiledFilter) (requestPath curl : Text) :
    (compiledPanel compiled requestPath curl).Tells (compiledTexts compiled requestPath curl) := by
  rw [compiledPanel, compiledTexts]
  split_ifs
  · exact .panel (tells_word (by decide)) (tells_word (by decide))
  · have hcount := ((tells_word (m := bold "Conditions:") (by decide)).append
      (tells_word (m := "  ") (by decide))).append (tells_ofNat compiled.conditionCount)
    have hmeaning := tells_label (m := bold "Meaning:") (n := "     ") (by decide) (by decide)
      (displayFieldName compiled.explanation)
    have hlines := Each.cons hcount (.cons hmeaning (.cons .nil
      (.cons (tells_word (m := bold "Raw:") (by decide))
      (.cons (tells_escape (compiled.raw.replace listSeparator "\\u0001")) (.cons .nil
      (.cons (tells_word (m := bold "Encoded:") (by decide))
      (.cons (tells_escape compiled.encoded) (.cons .nil
      (.cons (tells_word (m := bold "Request:") (by decide))
      (.cons ((tells_word (m := "GET ") (by decide)).append (tells_escape requestPath)) (.cons .nil
      (.cons (tells_word (m := bold "curl:") (by decide))
      (.cons (tells_escape curl) .nil)))))))))))))
    exact .panel (tells_word (by decide)) hlines.stack

theorem displays_of_json {v : Value} {output : Output} (h : json v = .ok output) :
    output.displays = [] := by
  cases hindented : Json.indented v with
  | error why =>
    rw [json, hindented] at h
    cases h
  | ok t =>
    rw [json, hindented] at h
    cases h
    rfl

/-- JSON is no markup. -/
theorem tells_json {v : Value} {output : Output} (h : json v = .ok output) : output.Tells [] := by
  rw [Output.Tells, displays_of_json h]
  exact .nil

theorem tells_compiled {asJson : Bool} {compiled : CompiledFilter} {requestPath curl : Text}
    {output : Output} (h : Format.compiled asJson compiled requestPath curl = .ok output) :
    output.Tells (if asJson then [] else compiledTexts compiled requestPath curl) := by
  cases asJson with
  | true => exact tells_json h
  | false =>
    obtain rfl := Except.ok.inj h
    exact .singleton (tells_compiledPanel compiled requestPath curl)

/-- What is told of an attribute. -/
def attributeTexts (a : Attribute) : List Text := [displayFieldName a.name, attributeDetails a]

theorem tells_attributeRow (a : Attribute) :
    Each Markup.Tells (attributeRow a) (attributeTexts a) := by
  have htype : Markup.Tells (styled (typeStyle a.type) a.type.name) [] := by
    have hall : a.type ∈ AttributeType.all := by
      cases a.type <;> decide
    refine tells_word (List.mem_append_left _ (List.mem_append_right _ ?_))
    exact List.mem_map.mpr ⟨a.type, hall, rfl⟩
  have hcustom : Markup.Tells (if a.isCustom then "yes" else "") [] := by
    split_ifs <;> exact tells_word (by decide)
  have hcells := Each.cons (tells_escape (displayFieldName a.name)) (.cons htype (.cons hcustom
    (.cons (tells_escape (attributeDetails a)) .nil)))
  exact hcells

theorem tells_attributeTable (attributes : List Attribute) :
    (attributeTable attributes).Tells (attributes.flatMap attributeTexts) := by
  have htitle := ((tells_word (m := "Attributes (") (by decide)).append
    (tells_ofNat attributes.length)).append (tells_word (m := ")") (by decide))
  refine .table htitle ?_ ?_
  · simp only [List.forall_mem_cons]
    exact ⟨tells_word (by decide), tells_word (by decide), tells_word (by decide),
      tells_word (by decide), List.forall_mem_nil _⟩
  · rw [← List.flatMap_def]
    exact .flatMap fun a _ => tells_attributeRow a

theorem tells_warningLine (warning : Text) : (warningLine warning).Tells [warning] := by
  have hline := tells_label (m := styled "yellow" "Warning:") (n := " ") (by decide) (by decide)
    warning
  refine .lines (List.forall_mem_nil _) ?_
  rw [List.append_nil]
  exact hline

theorem tells_attributes {asJson : Bool} {load : Directory.Load} {output : Output}
    (h : Format.attributes asJson load = .ok output) :
    output.Tells (if asJson then []
      else load.attributes.flatMap attributeTexts ++ load.warnings) := by
  cases asJson with
  | true => exact tells_json h
  | false =>
    obtain rfl := Except.ok.inj h
    have hwarnings : Each Display.Tells (load.warnings.map warningLine)
        (load.warnings.flatMap fun warning => [warning]) :=
      .map fun warning _ => tells_warningLine warning
    rw [List.flatMap_singleton'] at hwarnings
    exact .cons (tells_attributeTable load.attributes) hwarnings

/-- What is told of a body: a text as it is, anything else as JSON. -/
def bodyTexts : Value → List Text
  | .null => []
  | .text t => [t]
  | body => (Json.indented body).toOption.toList

/-- What is told of an error, and what to do about it. -/
def errorTexts (result : QueryResult) : List Text :=
  (filled result.error).flatMap fun error => error :: filled result.remediation

/-- What is told of a query result. -/
def queryTexts (result : QueryResult) (requestPath : Text) (summary : Option Text) : List Text :=
  [requestPath, result.statusText] ++ filled summary ++ errorTexts result ++ bodyTexts result.body

theorem tells_bodyLines {body : Value} {lines : List Text} (h : bodyLines body = .ok lines) :
    Each Markup.Tells lines (bodyTexts body) := by
  have hlines : ∀ {t : Text}, Each Markup.Tells [[], escape t] [t] := fun {t} =>
    Each.cons .nil (.cons (tells_escape t) .nil)
  have hjson : ∀ {body : Value}, (do return [[], escape (← Json.indented body)]) =
      (.ok lines : Except Json.Unprintable (List Text)) →
      Each Markup.Tells lines (Json.indented body).toOption.toList := by
    intro body h
    cases hindented : Json.indented body with
    | error why =>
      rw [hindented] at h
      cases h
    | ok t =>
      rw [hindented] at h
      obtain rfl := Except.ok.inj h
      exact hlines
  cases body with
  | null =>
    cases h
    exact .nil
  | text t =>
    cases h
    exact hlines
  | _ => exact hjson h

/-- The code of a fault is told with the error. -/
theorem tells_errorLabel (fault : Fault) :
    Markup.Tells (styled "bold red" ("Error" ++ (" (" ++ Text.ofString fault.code ++ ")") ++ ":"))
      [] := by
  have hall : fault ∈ Fault.all := by
    cases fault <;> decide
  have hlabel : styled "bold red" ("Error" ++ (" (" ++ Text.ofString fault.code ++ ")") ++ ":") ∈
      Markup.labels := List.mem_append_right _ (List.mem_map.mpr ⟨fault, hall, rfl⟩)
  exact tells_word
    (List.mem_append_left _ (List.mem_append_left _ (List.mem_append_right _ hlabel)))

/-- The result is told no code but that of a fault. -/
def HasFaultCode (result : QueryResult) : Prop :=
  ∀ code ∈ result.errorCode, ∃ fault : Fault, code = fault.code

theorem tells_errorLines {result : QueryResult} (hcode : HasFaultCode result) :
    Each Markup.Tells (errorLines result) (errorTexts result) := by
  refine .flatMap fun error _ => ?_
  let code : Text := (filled result.errorCode).flatMap fun (code : Text) => " (" ++ code ++ ")"
  have hlabel : Markup.Tells (styled "bold red" ("Error" ++ code ++ ":")) [] := by
    simp only [code]
    cases hfound : result.errorCode with
    | none => exact tells_word (by decide)
    | some code =>
      obtain ⟨fault, rfl⟩ := hcode code hfound
      have hfilled : filled (some (Text.ofString fault.code)) = [Text.ofString fault.code] := by
        cases fault <;> rfl
      rw [hfilled, List.flatMap_singleton]
      exact tells_errorLabel fault
  have haction : Each Markup.Tells ((filled result.remediation).map fun action =>
      bold "Action:" ++ "   " ++ escape action) (filled result.remediation) := by
    have htold : Each Markup.Tells
        ((filled result.remediation).map fun action => bold "Action:" ++ "   " ++ escape action)
        ((filled result.remediation).flatMap fun action => [action]) :=
      .map fun action _ => tells_label (by decide) (by decide) action
    rwa [List.flatMap_singleton'] at htold
  have hlines := Each.cons .nil (.cons ((hlabel.append (tells_word (m := " ") (by decide))).append
    (tells_escape error)) haction)
  exact hlines

theorem tells_queryPanel {result : QueryResult} {requestPath : Text} {summary : Option Text}
    {display : Display} (hcode : HasFaultCode result)
    (h : queryPanel result requestPath summary = .ok display) :
    display.Tells (queryTexts result requestPath summary) := by
  cases hbody : bodyLines result.body with
  | error why =>
    rw [queryPanel, hbody] at h
    cases h
  | ok body =>
    rw [queryPanel, hbody] at h
    obtain rfl := Except.ok.inj h
    have hrequest := tells_label (m := bold "Request:") (n := "  GET ") (by decide) (by decide)
      requestPath
    have hinside := ((tells_ofInt result.status).append (tells_word (m := " ") (by decide))).append
      (tells_escape result.statusText)
    have hstyled : Markup.Tells (styled (if result.success then "green" else "red")
        (Text.ofInt result.status ++ " " ++ escape result.statusText)) [result.statusText] := by
      split_ifs
      · exact .styled (by decide) (by decide) hinside
      · exact .styled (by decide) (by decide) hinside
    have hstatus := ((tells_word (m := bold "Status:") (by decide)).append
      (tells_word (m := "   ") (by decide))).append hstyled
    have htime := (((tells_word (m := bold "Time:") (by decide)).append
      (tells_word (m := "     ") (by decide))).append (tells_ofInt result.elapsedMs)).append
        (tells_word (m := " ms") (by decide))
    have hsummary : Each Markup.Tells ((filled summary).map fun t =>
        bold "Result:" ++ "   " ++ escape t) ((filled summary).flatMap fun t => [t]) :=
      .map fun t _ => tells_label (by decide) (by decide) t
    rw [List.flatMap_singleton'] at hsummary
    have hlines := (((Each.cons hrequest (.cons hstatus (.cons htime .nil))).append hsummary).append
      (tells_errorLines hcode)).append (tells_bodyLines hbody)
    exact .panel (tells_word (by decide)) hlines.stack

theorem tells_query {asJson : Bool} {result : QueryResult} {requestPath : Text}
    {summary : Option Text} {output : Output} (hcode : HasFaultCode result)
    (h : Format.query asJson result requestPath summary = .ok output) :
    output.Tells (if asJson then [] else queryTexts result requestPath summary) := by
  cases asJson with
  | true => exact tells_json h
  | false =>
    obtain ⟨display, hdisplay, houtput⟩ := bind_eq_ok.mp h
    obtain rfl := Except.ok.inj houtput
    exact .singleton (tells_queryPanel hcode hdisplay)

/-- What is told of settings. -/
def settingsTexts (settings : Settings) : List Text :=
  (settingSections settings).flatMap fun s => s.2.map fun field => field.2.shown

theorem tells_sectionLines {name : Text} {fields : List (Text × Value)}
    (hname : bold (capitalized name ++ ":") ∈ ownWords) (hfields : ∀ f ∈ fields, f.1 ∈ ownWords) :
    Each Markup.Tells (sectionLines name fields) (fields.map fun field => field.2.shown) := by
  have hlines : Each Markup.Tells (fields.map fun field =>
      "  " ++ field.1 ++ ": " ++ escape field.2.shown) (fields.flatMap fun f => [f.2.shown]) :=
    .map fun field hfield => (((tells_word (by decide)).append
      (tells_word (hfields field hfield))).append (tells_word (by decide))).append (tells_escape _)
  have hsection := (Each.cons (tells_word hname) hlines).append (Each.cons .nil .nil)
  rw [← List.map_eq_flatMap, List.append_nil, List.append_nil] at hsection
  exact hsection

theorem tells_settings {asJson : Bool} {settings : Settings} {output : Output}
    (h : Format.settings asJson settings = .ok output) :
    output.Tells (if asJson then [] else settingsTexts settings) := by
  cases asJson with
  | true => exact tells_json h
  | false =>
    obtain rfl := Except.ok.inj h
    have hsections : Each Markup.Tells
        ((settingSections settings).flatMap fun s => sectionLines s.1 s.2)
        (settingsTexts settings) := by
      refine .flatMap ?_
      simp only [settingSections, List.forall_mem_cons]
      refine ⟨tells_sectionLines (by decide) ?_, tells_sectionLines (by decide) ?_,
        List.forall_mem_nil _⟩
      · simp only [List.forall_mem_cons]
        exact ⟨by decide, by decide, by decide, by decide, List.forall_mem_nil _⟩
      · simp only [List.forall_mem_cons]
        exact ⟨by decide, by decide, by decide, List.forall_mem_nil _⟩
    obtain ⟨blanks, hblanks, hlines⟩ := Text.exists_eq_trimEnd_append
      (stack ((settingSections settings).flatMap fun s => sectionLines s.1 s.2))
    refine .singleton (.lines hblanks ?_)
    rw [← hlines]
    exact hsections.stack

end Format

end ProfileFilter
