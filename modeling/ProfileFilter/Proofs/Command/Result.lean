import ProfileFilter.Proofs.Command.Shown
import ProfileFilter.Proofs.Json.Indented
import ProfileFilter.Proofs.Number.Rounding
import ProfileFilter.Proofs.Service.QueryResult
import ProfileFilter.Proofs.Service.RequestPath
import ProfileFilter.Proofs.Validate.Grant
import ProfileFilter.Proofs.Value.Tellable

/-!
# Query results on the command line

A successful result can always be laid out: its body was read from JSON, or is a text, and its
numbers are small. What is shown holds what the body holds, and no terminal takes it if that
includes a lone surrogate. To a person, the summary is shown above the body. They are texts from
outside that stand next to each other, so they may make a tag.

Main statement: `exitCode_shown_accepted`.
-/

namespace ProfileFilter

namespace Value

theorem isEncodable_of_entries {entries : Entries}
    (h : (mapping entries).isEncodable = true) {entry : Value × Value} (hentry : entry ∈ entries) :
    entry.2.isEncodable = true := by
  rw [isEncodable, allPoints] at h
  induction entries with
  | nil => exact absurd hentry List.not_mem_nil
  | cons first rest ih =>
    rw [allPointsIn, Bool.and_eq_true, Bool.and_eq_true] at h
    rcases List.mem_cons.mp hentry with rfl | hentry
    · exact h.1.2
    · exact ih h.2 hentry

theorem isEncodable_get {entries : Entries} (h : (mapping entries).isEncodable = true)
    (key : Text) : (get key entries).isEncodable = true := by
  cases hfound : lookup? key entries with
  | none =>
    rw [get, hfound]
    rfl
  | some v =>
    rw [get, hfound]
    obtain ⟨entry, hentry, rfl⟩ := mem_of_lookup? hfound
    exact isEncodable_of_entries h hentry

/-- What is shown of a value holds no lone surrogate that the value does not hold. -/
theorem isEncodable_shown {v : Value} (h : v.isEncodable = true) : v.shown.isEncodable = true := by
  cases v with
  | text t => exact h
  | date d => exact d.isEncodable_shown
  | dateTime d => exact d.isEncodable_shown
  | _ => exact isEncodable_literal _

end Value

theorem isEncodable_summarizeResults {body : Value} (h : body.isEncodable = true) :
    (summarizeResults body).all Text.isEncodable = true := by
  cases body with
  | mapping entries =>
    have htotal := Value.isEncodable_shown (Value.isEncodable_get h "totalCount")
    simp only [summarizeResults]
    split
    · split
      · simp
      · split_ifs <;> simp [htotal]
    · rfl
  | _ => rfl

/-- A body is read from JSON, or it is a text or nothing. -/
theorem isJson_bodyValue (bytes : List UInt8) : (bodyValue bytes).isJson = true := by
  have hsays := says_bodyValue bytes
  generalize bodyValue bytes = body at hsays
  cases hsays with
  | json hread => exact Json.isReadInvariant_isJson.of_parseBytes? hread
  | text _ _ => rfl
  | nothing _ _ => rfl

/-- An integer of so many bits has fewer decimal digits. -/
theorem Value.isWritableInt_of_bits {n : Int} {k : Nat} (h : n.natAbs ≤ 2 ^ k)
    (hk : k < maxIntegerDigits) : Value.isWritableInt n = true := by
  rw [Value.isWritableInt, decide_eq_true_eq]
  refine Text.length_ofNat_le (by decide) ?_
  calc n.natAbs ≤ 2 ^ k := h
    _ ≤ 10 ^ k := Nat.pow_le_pow_left (by decide) k
    _ < 10 ^ maxIntegerDigits := Nat.pow_lt_pow_right (by decide) hk

/-- Durations can be written. -/
theorem isWritableInt_elapsedMs (started finished : Binary64) :
    Value.isWritableInt (elapsedMs started finished) = true := by
  unfold elapsedMs
  cases h : ((finished.sub started).mul (Binary64.ofInt 1000)).round? with
  | none => rfl
  | some n => exact Value.isWritableInt_of_bits (Binary64.natAbs_le_of_round?_mul h) (by decide)

/-- The result of a filter that was accepted. -/
def QueryResult.accepted (status : Nat) (body : Value) (elapsed : Int) : QueryResult :=
  { success := true, status, statusText := Status.phrase status, body, elapsedMs := elapsed }

theorem QueryResult.ofAnswer_of_isSuccess {status : Nat} (h : Status.isSuccess status = true)
    (bytes : List UInt8) (elapsed : Int) :
    ofAnswer status bytes elapsed = accepted status (bodyValue bytes) elapsed := by
  simp only [ofAnswer, accepted, h, if_true]

namespace Format

theorem isJson_ofOption {α : Type} {wrap : α → Value} (h : ∀ a, (wrap a).isJson = true)
    (o : Option α) : (Value.ofOption wrap o).isJson = true := by
  cases o with
  | none => rfl
  | some a => exact h a

/-- The record of a result can be laid out if its body and its numbers can. -/
theorem isJson_queryRecord (result : QueryResult) (hbody : result.body.isJson = true)
    (hstatus : Value.isWritableInt result.status = true)
    (helapsed : Value.isWritableInt result.elapsedMs = true) (path : Text)
    (summary : Option Text) : (queryRecord result path summary).isJson = true := by
  have htext : ∀ o, (optionalText o).isJson = true := isJson_ofOption fun _ => rfl
  have hkind : ∀ o : Option ErrorKind, (Value.ofOption (fun kind =>
      .text (Text.ofString kind.name)) o).isJson = true := isJson_ofOption fun _ => rfl
  simp [queryRecord, queryFields, Value.isJson_record, Value.isJson, htext, hkind, hbody, hstatus,
    helapsed]

/-- The record of an accepted filter holds what the body holds. -/
theorem isEncodable_queryRecord {path : Text} (hpath : path.isEncodable = true) (status : Nat)
    (body : Value) (elapsed : Int) :
    (queryRecord (.accepted status body elapsed) path (summarizeResults body)).isEncodable =
      body.isEncodable := by
  have hphrase : (Status.phrase status).isEncodable = true := Text.isEncodable_ofString _
  simp only [queryRecord, queryFields, QueryResult.accepted, optionalText, Value.ofOption,
    Value.isEncodable_record]
  cases hbody : body.isEncodable with
  | false => simp [hbody]
  | true =>
    have hsummary := isEncodable_summarizeResults hbody
    cases h : summarizeResults body with
    | none => simp [hbody, hphrase, hpath]
    | some t =>
      have ht : t.isEncodable = true := by rwa [h] at hsummary
      simp [hbody, hphrase, hpath, ht]

/-- A summary says something. -/
theorem filled_summarizeResults (body : Value) :
    filled (summarizeResults body) = (summarizeResults body).toList := by
  have hfound : ∀ t : Text, filled (some ("Found " ++ t)) = ["Found " ++ t] := fun _ => rfl
  cases body with
  | mapping entries =>
    simp only [summarizeResults]
    split
    · split
      · simp only [List.append_assoc]
        exact hfound _
      · simp only [List.append_assoc]
        exact hfound _
    · rfl
  | _ => rfl

end Format

/-! ## Results for a person -/

namespace Markup

open Format (stack styled)

variable {m n t : Text}

/-- The markup holds nothing that bears on what is read behind it. -/
def Passes (m : Text) : Prop :=
  ∀ styles tail, read? styles 0 0 (m ++ tail) = read? styles 0 0 tail

theorem Passes.append (hm : Passes m) (hn : Passes n) : Passes (m ++ n) := by
  intro styles tail
  rw [List.append_assoc, hm, hn]

theorem passes_of_isUnmarked (h : m.all isUnmarked = true) (hencodable : m.isEncodable = true) :
    Passes m := by
  intro styles tail
  rw [read?, plainFrom?_label h]
  refine (read?_map (b := true) (fun s => ?_) _).trans (map_true_and _)
  rw [Text.isEncodable_append, hencodable]

theorem passes_styled {style : Text} (hstyle : style ∈ lineStyles) (h : m.all isUnmarked = true)
    (hencodable : m.isEncodable = true) : Passes (styled style m) := by
  intro styles tail
  rw [read?, plainFrom?_styled hstyle styles tail h]
  refine (read?_map (b := true) (fun s => ?_) _).trans (map_true_and _)
  rw [Text.isEncodable_append, hencodable]

theorem escape_of_isUnmarked (h : t.all isUnmarked = true) : escape t = t := by
  have hmem : ∀ c ∈ t, c ≠ 0x5C ∧ c ≠ '[' := by
    intro c hc
    have hunmarked := List.all_eq_true.mp h c hc
    rw [isUnmarked, Bool.and_eq_true, Bool.and_eq_true, bne_iff_ne, bne_iff_ne] at hunmarked
    exact hunmarked.1
  refine escape_eq_self_iff.mpr ⟨?_, ?_⟩
  · clear h
    induction t with
    | nil => rfl
    | cons c rest ih =>
      obtain ⟨hc, hrest⟩ := List.forall_mem_cons.mp hmem
      rw [hasTag, ih hrest, beq_eq_false_iff_ne.mpr hc.2]
      rfl
  · have hends : Text.endsWith (backslashes 1) t = false := by
      rw [← Bool.not_eq_true, Text.endsWith, List.isSuffixOf_iff_suffix]
      intro hsuffix
      exact (hmem 0x5C (hsuffix.subset List.mem_cons_self)).1 rfl
    rw [endsOpen, hends, Bool.false_and]

/-- The first of several lines bears on none of the others. -/
theorem Passes.read?_stack (h : Passes m) (styles : List Text) (next : Text) (rest : List Text) :
    read? styles 0 0 (stack (m :: next :: rest)) = read? styles 0 0 (stack (next :: rest)) := by
  rw [stack, Text.join_cons_cons, List.append_assoc, h]
  exact read?_lineBreak styles 0 _

theorem isUnmarked_of_isAsciiDigit {c : CodePoint} (h : c.isAsciiDigit = true) :
    isUnmarked c = true := by
  have hrange : 0x30 ≤ c.val ∧ c.val ≤ 0x39 := by
    simpa only [CodePoint.isAsciiDigit, Bool.and_eq_true, decide_eq_true_eq] using h
  have hne : ∀ d : CodePoint, d.val < 0x30 ∨ 0x39 < d.val → c ≠ d := by
    rintro d hd rfl
    omega
  have hdropped : isDropped c = false := by
    simp only [isDropped, Bool.or_eq_false_iff, beq_eq_false_iff_ne]
    omega
  rw [isUnmarked, bne_iff_ne.mpr (hne 0x5C (.inr (by decide))),
    bne_iff_ne.mpr (hne '[' (.inr (by decide))), hdropped]
  rfl

theorem isUnmarked_ofInt (n : Int) : (Text.ofInt n).all isUnmarked = true := by
  have hdigits : ∀ n : Nat, (Text.ofNat n).all isUnmarked = true := fun n =>
    List.all_eq_true.mpr fun c hc => isUnmarked_of_isAsciiDigit (Text.allDigits_ofNat n c hc)
  cases n with
  | ofNat n => exact hdigits n
  | negSucc n => exact hdigits (n + 1)

theorem isUnmarked_phrase {status : Nat} (h : Status.isSuccess status = true) :
    (Status.phrase status).all isUnmarked = true := by
  have hall : ∀ p ∈ Status.phrases.filter fun p => Status.isSuccess p.1,
      (Text.ofString p.2).all isUnmarked = true := by
    decide
  rw [Status.phrase]
  cases hfound : Status.phrases.lookup status with
  | none => rfl
  | some phrase =>
    obtain ⟨before, after, hphrases, -⟩ := List.lookup_eq_some_iff.mp hfound
    exact hall (status, phrase) (List.mem_filter.mpr
      ⟨hphrases ▸ List.mem_append_right _ List.mem_cons_self, h⟩)

/-- The path of a request holds no markup. -/
theorem isUnmarked_requestPath (raw : Text) :
    (Preview.requestPath (Percent.encode raw)).all isUnmarked = true := by
  have hmarks : ∀ d ∈ ([0x5C, '[', 7, 8, 11, 12, 13] : List CodePoint),
      d ∉ Preview.requestPath (Percent.encode raw) := by
    simp only [List.forall_mem_cons]
    refine ⟨?_, ?_, ?_, ?_, ?_, ?_, ?_, List.forall_mem_nil _⟩ <;>
      exact Preview.notMem_requestPath (by decide) (by decide) (by decide) (by decide) raw
  rw [List.all_eq_true]
  intro c hc
  have hne : ∀ d ∈ ([0x5C, '[', 7, 8, 11, 12, 13] : List CodePoint), c ≠ d := by
    rintro d hd rfl
    exact hmarks c hd hc
  simp only [List.forall_mem_cons] at hne
  obtain ⟨hbackslash, hopen, h7, h8, h11, h12, h13, -⟩ := hne
  have hval : ∀ {d : CodePoint}, c ≠ d → c.val ≠ d.val := fun hne heq => hne (Fin.ext heq)
  simp only [isUnmarked, isDropped, Bool.and_eq_true, bne_iff_ne, Bool.not_eq_true',
    Bool.or_eq_false_iff, beq_eq_false_iff_ne]
  exact ⟨⟨hbackslash, hopen⟩, ⟨⟨⟨hval h7, hval h8⟩, hval h11⟩, hval h12⟩, hval h13⟩

theorem read?_escape (styles : List Text) (t : Text) :
    read? styles 0 0 (escape t) = some t.isEncodable := by
  obtain ⟨n, hescape⟩ := exists_escape_eq t
  rw [hescape, read?_escapeTags_backslashes]

end Markup

namespace Format

open Markup (Passes escape_of_isUnmarked isUnmarked_ofInt isUnmarked_phrase passes_of_isUnmarked
  passes_styled read?)

theorem passes_requestLine {path : Text} (hplain : path.all Markup.isUnmarked = true)
    (hpath : path.isEncodable = true) :
    Passes (bold "Request:" ++ "  GET " ++ Markup.escape path) := by
  rw [escape_of_isUnmarked hplain]
  exact ((passes_styled (by decide) (by decide) (by decide)).append
    (passes_of_isUnmarked (by decide) (by decide))).append (passes_of_isUnmarked hplain hpath)

theorem passes_statusLine {status : Nat} (h : Status.isSuccess status = true) :
    Passes (bold "Status:" ++ "   " ++
      styled "green" (Text.ofInt status ++ " " ++ Markup.escape (Status.phrase status))) := by
  rw [escape_of_isUnmarked (isUnmarked_phrase h)]
  refine ((passes_styled (by decide) (by decide) (by decide)).append
    (passes_of_isUnmarked (by decide) (by decide))).append (passes_styled (by decide) ?_ ?_)
  · rw [List.all_append, List.all_append, isUnmarked_ofInt, isUnmarked_phrase h]
    rfl
  · simp [Status.phrase]

theorem passes_timeLine (elapsed : Int) :
    Passes (bold "Time:" ++ "     " ++ Text.ofInt elapsed ++ " ms") :=
  (((passes_styled (by decide) (by decide) (by decide)).append
    (passes_of_isUnmarked (by decide) (by decide))).append
    (passes_of_isUnmarked (isUnmarked_ofInt elapsed) (Text.isEncodable_ofInt elapsed))).append
    (passes_of_isUnmarked (by decide) (by decide))

/-- The lines of a body are a text with an empty line above, and hold what the body holds. There is
no line if there is no body. -/
theorem bodyLines_cases {body : Value} (h : body.isJson = true) :
    (bodyLines body = .ok [] ∧ body.isEncodable = true ∧ summarizeResults body = none) ∨
      ∃ t, bodyLines body = .ok [[], Markup.escape t] ∧ t.isEncodable = body.isEncodable ∧
        (summarizeResults body = none ∨ Json.indented body = .ok t) := by
  obtain ⟨s, hs⟩ := Json.exists_indentedAt h 0
  have hencodable := Json.isEncodable_indentedAt h hs
  have hjson : (do return [[], Markup.escape (← Json.indented body)]) =
      (.ok [[], Markup.escape s] : Except Json.Unprintable (List Text)) := by
    rw [Json.indented, hs]
    rfl
  cases body with
  | null => exact .inl ⟨rfl, rfl, rfl⟩
  | text t => exact .inr ⟨t, rfl, rfl, .inl rfl⟩
  | _ => exact .inr ⟨s, hjson, hencodable, .inr hs⟩

end Format

namespace QueryResult

/-- The tag that summary and body make. -/
def tagAcross? (result : QueryResult) : Option Markup.TagAcross := do
  let summary ← summarizeResults result.body
  let body ← (Json.indented result.body).toOption
  Markup.tagAcross? summary body

/-- Can a result be shown that was accepted? Its body must not hold a lone surrogate. To a person
it is shown below its summary; if the two make a tag, the tag decides. -/
def isShown (asJson : Bool) (result : QueryResult) : Bool :=
  match if asJson then none else result.tagAcross? with
  | some tag => tag.isShown
  | none => result.body.isEncodable

variable {result : QueryResult}

/-- A body without a summary makes no tag. -/
theorem isShown_of_eq_none (h : summarizeResults result.body = none) (asJson : Bool) :
    result.isShown asJson = result.body.isEncodable := by
  rw [isShown, tagAcross?, h]
  cases asJson <;> rfl

/-- With its summary, a body can be shown to a person if the two escaped texts can. -/
theorem isShown_of_eq_some {summary t : Text} (h : summarizeResults result.body = some summary)
    (ht : Json.indented result.body = .ok t) (hencodable : t.isEncodable = result.body.isEncodable) :
    result.isShown false = Markup.areShown summary t := by
  have hsummary : (summary.isEncodable && t.isEncodable) = result.body.isEncodable := by
    rw [hencodable]
    cases hbody : result.body.isEncodable with
    | false => exact Bool.and_false _
    | true =>
      have hall := isEncodable_summarizeResults hbody
      rw [h] at hall
      rw [Bool.and_true]
      exact hall
  have htag : result.tagAcross? = Markup.tagAcross? summary t := by
    rw [tagAcross?, h, ht]
    rfl
  rw [isShown, if_neg Bool.false_ne_true, htag, Markup.areShown, hsummary]
  cases Markup.tagAcross? summary t <;> rfl

end QueryResult

namespace Format

open Markup (Passes passes_of_isUnmarked passes_styled read?)

/-- The lines about a request that was accepted: what was asked, the status, and the time. -/
def acceptedLines (status : Nat) (elapsed : Int) (path : Text) : List Text :=
  [bold "Request:" ++ "  GET " ++ Markup.escape path,
    bold "Status:" ++ "   " ++
      styled "green" (Text.ofInt status ++ " " ++ Markup.escape (Status.phrase status)),
    bold "Time:" ++ "     " ++ Text.ofInt elapsed ++ " ms"]

/-- The panel of an accepted filter: the lines about the request, the summary, and the body. -/
theorem queryPanel_accepted {body : Value} {lines : List Text} (hlines : bodyLines body = .ok lines)
    (status : Nat) (elapsed : Int) (path : Text) :
    queryPanel (.accepted status body elapsed) path (summarizeResults body) =
      .ok (.panel (stack (acceptedLines status elapsed path ++
        (((summarizeResults body).toList.map fun t => bold "Result:" ++ "   " ++ Markup.escape t) ++
          lines))) "Test Query" "green") := by
  have herror : errorLines (.accepted status body elapsed) = [] := rfl
  rw [queryPanel, herror, filled_summarizeResults, List.append_nil, List.append_assoc]
  simp only [QueryResult.accepted, hlines]
  rfl

/-- The lines about the request bear on none of the others. -/
theorem read?_acceptedLines {status : Nat} {path : Text} (hstatus : Status.isSuccess status = true)
    (hpath : path.isEncodable = true) (hplain : path.all Markup.isUnmarked = true) (elapsed : Int)
    (rest : List Text) :
    read? [] 0 0 (stack (acceptedLines status elapsed path ++ rest)) =
      read? [] 0 0 (stack rest) := by
  have hrequest := passes_requestLine hplain hpath
  have hstatus := passes_statusLine hstatus
  have htime := passes_timeLine elapsed
  cases rest with
  | nil =>
    have hend := htime [] []
    rw [List.append_nil] at hend
    exact (hrequest.read?_stack ..).trans ((hstatus.read?_stack ..).trans hend)
  | cons next rest =>
    exact (hrequest.read?_stack ..).trans ((hstatus.read?_stack ..).trans (htime.read?_stack ..))

/-- A summary and a body below it are shown as the two escaped texts are. -/
theorem read?_summaryLines (summary t : Text) :
    (read? [] 0 0 (stack [bold "Result:" ++ "   " ++ Markup.escape summary, [],
      Markup.escape t])).getD false = Markup.areShown summary t := by
  have hlabel : Passes (bold "Result:" ++ "   ") :=
    (passes_styled (by decide) (by decide) (by decide)).append
      (passes_of_isUnmarked (by decide) (by decide))
  have htexts : stack [bold "Result:" ++ "   " ++ Markup.escape summary, [], Markup.escape t] =
      bold "Result:" ++ "   " ++ (Markup.escape summary ++ (0x0A :: 0x0A :: Markup.escape t)) := by
    rw [stack, Text.join_cons_cons, List.append_assoc, List.append_assoc]
    rfl
  rw [htexts, hlabel, Markup.read?_two]

/-- **The panel of an accepted filter can be read** if the result can be shown to a person. -/
theorem exists_queryPanel {status : Nat} {body : Value} {path : Text}
    (hstatus : Status.isSuccess status = true) (hbody : body.isJson = true)
    (hpath : path.isEncodable = true) (hplain : path.all Markup.isUnmarked = true)
    (elapsed : Int) : ∃ markup,
      queryPanel (.accepted status body elapsed) path (summarizeResults body) =
        .ok (.panel markup "Test Query" "green") ∧
      (read? [] 0 0 markup).getD false =
        (QueryResult.accepted status body elapsed).isShown false := by
  rcases bodyLines_cases hbody with ⟨hlines, hencodable, hsummary⟩ | ⟨t, hlines, hencodable, ht⟩
  · refine ⟨_, queryPanel_accepted hlines status elapsed path, ?_⟩
    rw [read?_acceptedLines hstatus hpath hplain, QueryResult.isShown_of_eq_none hsummary, hsummary]
    exact hencodable.symm
  · refine ⟨_, queryPanel_accepted hlines status elapsed path, ?_⟩
    rw [read?_acceptedLines hstatus hpath hplain]
    cases hsummary : summarizeResults body with
    | none =>
      have hbreak := Markup.read?_lineBreak [] 0 (Markup.escape t)
      rw [Markup.read?_escape] at hbreak
      rw [QueryResult.isShown_of_eq_none hsummary]
      exact (congrArg (Option.getD · false) hbreak).trans hencodable
    | some summary =>
      have hindented : Json.indented body = .ok t := by
        rcases ht with ht | ht
        · rw [hsummary] at ht
          cases ht
        · exact ht
      rw [QueryResult.isShown_of_eq_some hsummary hindented hencodable]
      exact read?_summaryLines summary t

end Format

/-- **A success is shown as one** if it can be shown. -/
theorem exitCode_shown_accepted {status : Nat} {body : Value} {elapsed : Int} {path : Text}
    (hstatus : Status.isSuccess status = true) (hbody : body.isJson = true)
    (helapsed : Value.isWritableInt elapsed = true) (hpath : path.isEncodable = true)
    (hplain : path.all Markup.isUnmarked = true)
    (asJson : Bool) (requests : List Request) :
    (Outcome.shown 0 requests (Format.query asJson (.accepted status body elapsed) path
        (summarizeResults body))).exitCode =
      if (QueryResult.accepted status body elapsed).isShown asJson then 0 else 1 := by
  cases asJson with
  | false =>
    obtain ⟨markup, hpanel, hread⟩ := Format.exists_queryPanel hstatus hbody hpath hplain
      elapsed
    have htitle : (Markup.plain? "Test Query").any Text.isEncodable = true := by decide
    rw [Format.query, if_neg Bool.false_ne_true, hpanel, ← hread,
      ← Outcome.isNone_obstacle?_panel htitle markup "green"]
    exact Outcome.exitCode_shown 0 requests _
  | true =>
    have hsmall : Value.isWritableInt (status : Int) = true :=
      Value.isWritableInt_of_bits (k := 9)
        ((QueryResult.isSuccess_iff.mp hstatus).2.trans (by decide)) (by decide)
    have hjson := Format.isJson_queryRecord (.accepted status body elapsed) hbody hsmall helapsed
      path (summarizeResults body)
    obtain ⟨s, hs⟩ := Json.exists_indentedAt hjson 0
    have hencodable : s.isEncodable = body.isEncodable :=
      (Json.isEncodable_indentedAt hjson hs).trans
        (Format.isEncodable_queryRecord hpath status body elapsed)
    simp only [Format.query, if_true, Format.json, Json.indented, hs]
    show (Outcome.shown 0 requests (.ok (Output.ofText s))).exitCode = _
    rw [Outcome.shown_ofText, hencodable]
    show _ = if body.isEncodable = true then 0 else 1
    cases body.isEncodable <;> rfl

end ProfileFilter
