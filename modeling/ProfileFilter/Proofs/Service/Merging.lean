import ProfileFilter.Proofs.Service.Listing

/-!
# Merging the sources

What the directory makes of three sources, each of which either yields attributes or stops.
A stop that can be told becomes a warning, and the attributes of the other sources are put
together in the order of the sources. The first stop that cannot be told is the stop of the
whole (`addAll_eq_error_iff`).

Since the standard fields are never none, nothing is loaded only if they failed, so there is
always a failure to tell.

Main statement: `ofSources_told`.
-/

namespace ProfileFilter

namespace Directory

/-! ## What came of the sources -/

namespace Load

/-- The source yielded attributes, or it failed in a way that can be told: it was refused, or
an exchange with the service failed. -/
def IsTold : Except Stop (List Attribute) → Prop
  | .ok _ => True
  | .error (.fetch _) => True
  | .error (.failure f) => f.kind ≠ .internal
  | .error _ => False

/-- The attributes that sources yielded, in the order of the sources. -/
def yielded (sources : List (Text × Except Stop (List Attribute))) : List Attribute :=
  sources.flatMap fun s => s.2.toOption.getD []

/-- What is told of the sources that failed, in the order of the sources. -/
def failures (sources : List (Text × Except Stop (List Attribute))) : List Text :=
  sources.filterMap fun s =>
    match s.2 with
    | .error (.fetch e) => some (s.1 ++ " attributes: " ++ e.message)
    | .error (.failure f) => some (s.1 ++ " attributes: " ++ f.message)
    | _ => none

theorem isTold_ok (found : List Attribute) : IsTold (.ok found) := trivial

/-- What can be told is what has a warning. -/
theorem isTold_error {why : Stop} :
    IsTold (.error why) ↔ ∃ message, why.warning? = some message := by
  cases why with
  | fetch e => exact ⟨fun _ => ⟨e.message, rfl⟩, fun _ => trivial⟩
  | failure f => simp [IsTold, Stop.warning?]
  | _ => simp [IsTold, Stop.warning?]

section Sources

variable {load : Load} {source message : Text} {why : Stop} {found : List Attribute}
  {rest sources : List (Text × Except Stop (List Attribute))}

@[simp] theorem yielded_ok : yielded ((source, .ok found) :: rest) = found ++ yielded rest := rfl

@[simp] theorem yielded_error : yielded ((source, .error why) :: rest) = yielded rest := rfl

@[simp] theorem failures_ok : failures ((source, .ok found) :: rest) = failures rest := rfl

theorem failures_error (h : why.warning? = some message) :
    failures ((source, .error why) :: rest) =
      (source ++ " attributes: " ++ message) :: failures rest := by
  cases why with
  | fetch e =>
    cases h
    rfl
  | failure f =>
    simp only [Stop.warning?, Option.ite_none_left_eq_some, Option.some.injEq] at h
    rw [← h.2]
    rfl
  | _ => cases h

/-! ## One source after the other -/

theorem addAll_ok : load.addAll ((source, .ok found) :: rest) =
    addAll { load with attributes := load.attributes ++ found } rest := rfl

theorem addAll_error (h : why.warning? = some message) :
    load.addAll ((source, .error why) :: rest) =
      addAll { load with warnings := load.warnings ++ [source ++ " attributes: " ++ message] }
        rest := by
  simp only [addAll, add, h]

theorem addAll_untold (h : why.warning? = none) :
    load.addAll ((source, .error why) :: rest) = .error why := by
  simp only [addAll, add, h]

/-- **Sources that can be told are merged.** -/
theorem addAll_of_told (h : ∀ s ∈ sources, IsTold s.2) : load.addAll sources =
    .ok ⟨load.attributes ++ yielded sources, load.warnings ++ failures sources⟩ := by
  induction sources generalizing load with
  | nil =>
    show Except.ok load = .ok ⟨load.attributes ++ [], load.warnings ++ []⟩
    rw [List.append_nil, List.append_nil]
  | cons s rest ih =>
    obtain ⟨source, outcome⟩ := s
    obtain ⟨htold, hrest⟩ := List.forall_mem_cons.mp h
    cases outcome with
    | ok found => rw [addAll_ok, ih hrest, yielded_ok, failures_ok, List.append_assoc]
    | error why =>
      obtain ⟨message, hmessage⟩ := isTold_error.mp htold
      rw [addAll_error hmessage, ih hrest, yielded_error, failures_error hmessage]
      simp only [List.append_assoc, List.singleton_append]

/-- **The first stop that cannot be told is the stop of the whole.** -/
theorem addAll_eq_error_iff : load.addAll sources = .error why ↔
    ∃ before source after, sources = before ++ (source, .error why) :: after ∧
      (∀ s ∈ before, IsTold s.2) ∧ why.warning? = none := by
  constructor
  · intro h
    induction sources generalizing load with
    | nil => cases h
    | cons s rest ih =>
      obtain ⟨source, outcome⟩ := s
      -- a source that is told goes in front of those before the stop
      have step : ∀ {load' : Load}, IsTold outcome → load'.addAll rest = .error why →
          ∃ before source' after, (source, outcome) :: rest =
            before ++ (source', .error why) :: after ∧ (∀ s ∈ before, IsTold s.2) ∧
              why.warning? = none := by
        intro load' htold hrest
        obtain ⟨before, source', after, rfl, hbefore, hwhy⟩ := ih hrest
        exact ⟨(source, outcome) :: before, source', after, rfl,
          List.forall_mem_cons.mpr ⟨htold, hbefore⟩, hwhy⟩
      cases outcome with
      | ok found => exact step (isTold_ok found) (addAll_ok.symm.trans h)
      | error other =>
        cases hother : other.warning? with
        | some message =>
          exact step (isTold_error.mpr ⟨message, hother⟩) ((addAll_error hother).symm.trans h)
        | none =>
          rw [addAll_untold hother] at h
          cases h
          exact ⟨[], source, rest, rfl, fun s hs => absurd hs List.not_mem_nil, hother⟩
  · rintro ⟨before, source, after, rfl, hbefore, hwhy⟩
    induction before generalizing load with
    | nil => exact addAll_untold hwhy
    | cons s before ih =>
      obtain ⟨source', outcome⟩ := s
      obtain ⟨htold, hrest⟩ := List.forall_mem_cons.mp hbefore
      cases outcome with
      | ok found => exact addAll_ok.trans (ih hrest)
      | error other =>
        obtain ⟨message, hmessage⟩ := isTold_error.mp htold
        exact (addAll_error hmessage).trans (ih hrest)

/-- Only sources that can be told are merged. -/
theorem isTold_of_addAll {merged : Load} (h : load.addAll sources = .ok merged) :
    ∀ s ∈ sources, IsTold s.2 := by
  induction sources generalizing load with
  | nil => exact fun s hs => absurd hs List.not_mem_nil
  | cons s rest ih =>
    obtain ⟨source, outcome⟩ := s
    rw [List.forall_mem_cons]
    cases outcome with
    | ok found => exact ⟨isTold_ok found, ih (addAll_ok.symm.trans h)⟩
    | error why =>
      cases hwhy : why.warning? with
      | some message =>
        exact ⟨isTold_error.mpr ⟨message, hwhy⟩, ih ((addAll_error hwhy).symm.trans h)⟩
      | none =>
        rw [addAll_untold hwhy] at h
        cases h

/-- Sources that can be told load unless they yielded nothing. -/
theorem ofSources_of_told (h : ∀ s ∈ sources, IsTold s.2) : ofSources sources =
    if yielded sources = [] then .error (.report (failed ⟨[], failures sources⟩))
    else .ok ⟨yielded sources, failures sources⟩ := by
  have hadd : addAll {} sources = .ok ⟨yielded sources, failures sources⟩ :=
    addAll_of_told h
  rw [ofSources, hadd]
  cases yielded sources with
  | nil => rfl
  | cons a rest => rfl

/-- A source that failed is told of. -/
theorem failures_ne_nil_iff (h : ∀ s ∈ sources, IsTold s.2) :
    failures sources ≠ [] ↔ ∃ s ∈ sources, ∃ why, s.2 = .error why := by
  induction sources with
  | nil => exact ⟨fun h => absurd rfl h, fun ⟨s, hs, _⟩ => absurd hs List.not_mem_nil⟩
  | cons s rest ih =>
    obtain ⟨source, outcome⟩ := s
    obtain ⟨htold, hrest⟩ := List.forall_mem_cons.mp h
    rw [List.exists_mem_cons_iff]
    cases outcome with
    | ok found =>
      rw [failures_ok, ih hrest]
      refine ⟨Or.inr, Or.rec ?_ id⟩
      rintro ⟨why, hwhy⟩
      cases hwhy
    | error why =>
      obtain ⟨message, hmessage⟩ := isTold_error.mp htold
      rw [failures_error hmessage]
      exact ⟨fun _ => .inl ⟨why, rfl⟩, fun _ => List.cons_ne_nil _ _⟩

/-- What is told of a failure starts with the name of its source. -/
theorem exists_of_mem_failures {told : Text} (h : told ∈ failures sources) :
    ∃ s ∈ sources, ∃ message, told = s.1 ++ " attributes: " ++ message := by
  obtain ⟨s, hs, htold⟩ := List.mem_filterMap.mp h
  split at htold
  · exact ⟨s, hs, _, (Option.some.inj htold).symm⟩
  · exact ⟨s, hs, _, (Option.some.inj htold).symm⟩
  · cases htold

end Sources

/-! ## The standard source and two others -/

section Standard

variable {standard custom lists : Except Stop (List Attribute)}

/-- The standard fields are never none, so nothing is yielded only if they failed. -/
theorem yielded_eq_nil_iff (hfields : ∀ found, standard = .ok found → found = standardAttributes) :
    yielded [("Standard", standard), ("Custom", custom), ("List", lists)] = [] ↔
      (∃ why, standard = .error why) ∧ custom.toOption.getD [] = [] ∧
        lists.toOption.getD [] = [] := by
  have hparts : yielded [("Standard", standard), ("Custom", custom), ("List", lists)] =
      standard.toOption.getD [] ++
        (custom.toOption.getD [] ++ (lists.toOption.getD [] ++ [])) := rfl
  rw [hparts, List.append_nil, List.append_eq_nil_iff, List.append_eq_nil_iff]
  refine and_congr_left' ?_
  cases standard with
  | ok found =>
    rw [hfields found rfl]
    exact ⟨fun h => absurd h (List.cons_ne_nil _ _), fun ⟨why, h⟩ => by cases h⟩
  | error why => exact ⟨fun _ => ⟨why, rfl⟩, fun _ => rfl⟩

/-- What is told of a failure is not what is told of an empty load. -/
theorem notMem_failures : ("No attributes were returned." : Text) ∉
    failures [("Standard", standard), ("Custom", custom), ("List", lists)] := by
  intro hmem
  obtain ⟨s, hs, message, hmessage⟩ := exists_of_mem_failures hmem
  simp only [List.mem_cons, List.not_mem_nil, or_false] at hs
  -- the first letter of what is told is that of the source
  rcases hs with rfl | rfl | rfl <;> exact absurd (List.cons.inj hmessage).1 (by decide)

end Standard

/-! ## What is told of a load -/

/-- The details of a failed load are its warnings, if there are any. -/
theorem failed_details {attributes : List Attribute} {warnings : List Text} (h : warnings ≠ []) :
    (failed ⟨attributes, warnings⟩).details =
      [(.text "errors", .list (warnings.map .text))] := by
  have hreasons : (if warnings.isEmpty then [("No attributes were returned." : Text)]
      else warnings) = warnings :=
    if_neg fun hempty => h (List.isEmpty_iff.mp hempty)
  simp only [failed, hreasons]
  rfl

theorem isPartial_iff {load : Load} : load.isPartial = true ↔ load.warnings ≠ [] := by
  rw [isPartial, Bool.not_eq_true', ne_eq, ← List.isEmpty_iff, Bool.not_eq_true]

theorem warningMessage_eq_none_iff {load : Load} :
    load.warningMessage = none ↔ load.isPartial = false := by
  rw [warningMessage, isPartial, Bool.not_eq_false']
  split
  · next h => exact iff_of_true rfl h
  · next h => exact iff_of_false (Option.some_ne_none _) h

end Load

/-! ## The sources of a directory -/

namespace Listing

/-- How the items of a listing are read. -/
def read : Listing → Entries → Validated Attribute
  | .custom => customAttribute
  | .lists => listAttribute

/-- The source that a listing is. -/
def fetch (connection : Connection) (service : Service) (limit : Int) : Listing →
    Run (List Attribute)
  | .custom => fetchCustom connection service limit
  | .lists => fetchLists connection service limit

theorem fetch_outcome (connection : Connection) (service : Service) (limit : Int)
    (listing : Listing) : (listing.fetch connection service limit).outcome =
      (list connection service limit listing).outcome.bind (attributesOf listing.read) := by
  cases listing <;> rfl

theorem fetch_requests (connection : Connection) (service : Service) (limit : Int)
    (listing : Listing) : (listing.fetch connection service limit).requests =
      (list connection service limit listing).requests := by
  cases listing <;> rfl

end Listing

/-- The three sources with what came of them, in their order. -/
def sources (connection : Connection) (service : Service) (limit : Int) :
    List (Text × Except Stop (List Attribute)) :=
  [("Standard", (fetchStandard connection service).outcome),
    ("Custom", (fetchCustom connection service limit).outcome),
    ("List", (fetchLists connection service limit).outcome)]

theorem load_outcome (connection : Connection) (service : Service) (limit : Int) :
    (load connection service limit).outcome =
      Load.ofSources (sources connection service limit) := by
  unfold load sources
  rfl

/-- The probe yields the standard fields or nothing. -/
theorem eq_standardAttributes_of_fetchStandard {connection : Connection} {service : Service}
    {found : List Attribute} (h : (fetchStandard connection service).outcome = .ok found) :
    found = standardAttributes := by
  unfold fetchStandard at h
  split at h
  · cases h
  · simp only at h
    split at h
    · cases h
    · split_ifs at h
      exact (Except.ok.inj h).symm

/-- A listing ends before a page that is answered with a status that means there is nothing to
list. -/
theorem list_outcome_of_absent {connection : Connection} {service : Service} {limit : Int}
    {listing : Listing} {pages : List (List Entries)} {request : Request} {status : Nat}
    {body : List UInt8} (hpages : AreFull limit (pageAt connection service limit listing) 1 pages)
    (hlength : pages.length < maxPages)
    (hrequest : connection.requestWith listing.path (pageParameters limit (pages.length + 1)) =
      .ok request)
    (hanswer : service request pages.length = .answer status body)
    (hstatus : status ∈ listing.absentStatuses) :
    (list connection service limit listing).outcome = .ok pages.flatten := by
  have hpage : pageAt connection service limit listing (1 + pages.length) = .absent := by
    rw [pageAt, Nat.add_comm, hrequest]
    simp only [Nat.add_sub_cancel, hanswer, Page.ofReply, List.contains_iff_mem.mpr hstatus,
      if_true]
  obtain ⟨rest, hrest⟩ := Nat.exists_eq_add_of_lt hlength
  rw [list_outcome, hrest, Nat.add_assoc, collect_append hpages, collect_absent hpage]
  exact congrArg Except.ok (List.append_nil pages.flatten)

/-- **How the sources are merged.** Take three sources that each yielded attributes or failed in
a way that can be told, the first one with nothing but the standard fields. If it failed and the
others yielded nothing, the load is refused with all failures in the details, of which there is
at least one. Otherwise the attributes are put together in the order of the sources, and the
failures are the warnings. The directory merges its sources so; and a listing that meets an
absent status on any page ends well with the items of the pages before. -/
theorem ofSources_told :
    (∀ standard custom lists : Except Stop (List Attribute),
      (∀ found, standard = .ok found → found = standardAttributes) →
      Load.IsTold standard → Load.IsTold custom → Load.IsTold lists →
      let sources := [(("Standard" : Text), standard), ("Custom", custom), ("List", lists)]
      let isNothing := (∃ why, standard = .error why) ∧ custom.toOption.getD [] = [] ∧
        lists.toOption.getD [] = []
      (isNothing → ∃ report, Load.ofSources sources = .error (.report report) ∧
        report.code = "E-4002" ∧
        report.details = [(.text "errors", .list ((Load.failures sources).map .text))] ∧
        Load.failures sources ≠ [] ∧
        ("No attributes were returned." : Text) ∉ Load.failures sources) ∧
      (¬ isNothing → ∃ load, Load.ofSources sources = .ok load ∧
        load.attributes = Load.yielded sources ∧ load.warnings = Load.failures sources ∧
        (load.isPartial = true ↔ ∃ s ∈ sources, ∃ why, s.2 = .error why) ∧
        (load.warningMessage = none ↔ load.isPartial = false))) ∧
    (∀ (connection : Connection) (service : Service) (limit : Int),
      (load connection service limit).outcome =
        Load.ofSources (sources connection service limit) ∧
      ∀ found, (fetchStandard connection service).outcome = .ok found →
        found = standardAttributes) ∧
    ∀ (connection : Connection) (service : Service) (limit : Int) (listing : Listing)
      (pages : List (List Entries)) (request : Request) (status : Nat) (body : List UInt8),
      AreFull limit (pageAt connection service limit listing) 1 pages → pages.length < 100 →
      connection.requestWith listing.path (pageParameters limit (pages.length + 1)) =
        .ok request →
      service request pages.length = .answer status body →
      (status = 404 ∨ listing = .lists ∧ status = 400) →
      (list connection service limit listing).outcome = .ok pages.flatten ∧
        (listing.fetch connection service limit).outcome =
          attributesOf listing.read pages.flatten := by
  refine ⟨?_, fun connection service limit => ⟨load_outcome connection service limit,
    fun found => eq_standardAttributes_of_fetchStandard⟩, ?_⟩
  · intro standard custom lists hfields hstandard hcustom hlists sources isNothing
    have htold : ∀ s ∈ sources, Load.IsTold s.2 := by
      simp only [sources, List.forall_mem_cons]
      exact ⟨hstandard, hcustom, hlists, fun s hs => absurd hs List.not_mem_nil⟩
    have hyielded : Load.yielded sources = [] ↔ isNothing := Load.yielded_eq_nil_iff hfields
    have hfailed : Load.failures sources ≠ [] ↔ ∃ s ∈ sources, ∃ why, s.2 = .error why :=
      Load.failures_ne_nil_iff htold
    constructor
    · intro hnothing
      have hsome : Load.failures sources ≠ [] :=
        hfailed.mpr ⟨_, List.mem_cons_self, hnothing.1⟩
      refine ⟨Load.failed ⟨[], Load.failures sources⟩, ?_, rfl, Load.failed_details hsome, hsome,
        Load.notMem_failures⟩
      rw [Load.ofSources_of_told htold, if_pos (hyielded.mpr hnothing)]
    · intro hsomething
      refine ⟨⟨Load.yielded sources, Load.failures sources⟩, ?_, rfl, rfl, ?_, ?_⟩
      · rw [Load.ofSources_of_told htold, if_neg fun h => hsomething (hyielded.mp h)]
      · exact Load.isPartial_iff.trans hfailed
      · exact Load.warningMessage_eq_none_iff
  · intro connection service limit listing pages request status body hpages hlength hrequest
      hanswer hstatus
    have habsent : status ∈ listing.absentStatuses := by
      cases listing with
      | custom =>
        rcases hstatus with rfl | ⟨h, -⟩
        · decide
        · cases h
      | lists => rcases hstatus with rfl | ⟨-, rfl⟩ <;> decide
    have houtcome := list_outcome_of_absent hpages hlength hrequest hanswer habsent
    exact ⟨houtcome, by rw [Listing.fetch_outcome, houtcome]; rfl⟩

/-- A service with one custom attribute to a page, of which the second is not there. -/
def oneItemService : Service := fun _ earlier =>
  if earlier = 0 then .answer 200 (spelled (attributesBody [namedItem "a"])) else .answer 404 []

/-- Two failures are told in their order, a source that is left keeps the others from being
lost, and a listing ends at the page that is absent. -/
theorem ofSources_told_instances :
    (∃ report, Load.ofSources [("Standard", .error (.fetch ⟨"Standard", "refused", 500⟩)),
        ("Custom", .ok []), ("List", .error (.failure ⟨.transport, "ReadTimeout", []⟩))] =
          .error (.report report) ∧
      report.details = [(.text "errors", .list [.text "Standard attributes: refused",
        .text "List attributes: "])]) ∧
    (∃ load, Load.ofSources [("Standard", .error (.fetch ⟨"Standard", "refused", 500⟩)),
        ("Custom", .ok [{ name := "a", type := .string }]), ("List", .ok [])] = .ok load ∧
      load.attributes = [{ name := "a", type := .string }] ∧ load.isPartial = true) ∧
    (∃ found, (fetchStandard plainConnection oneItemService).outcome = .ok found ∧
      found = standardAttributes) ∧
    (list plainConnection oneItemService 1 .custom).outcome = .ok [namedItem "a"] := by
  refine ⟨?_, ?_, ?_, ?_⟩
  · obtain ⟨report, hload, -, hdetails, -⟩ := (ofSources_told.1
      (.error (.fetch ⟨"Standard", "refused", 500⟩)) (.ok [])
      (.error (.failure ⟨.transport, "ReadTimeout", []⟩)) (fun found h => by cases h)
      trivial trivial FailureKind.noConfusion).1 ⟨⟨_, rfl⟩, rfl, rfl⟩
    exact ⟨report, hload, hdetails⟩
  · obtain ⟨load, hload, hattributes, -, hpartial, -⟩ := (ofSources_told.1
      (.error (.fetch ⟨"Standard", "refused", 500⟩)) (.ok [{ name := "a", type := .string }])
      (.ok []) (fun found h => by cases h) trivial trivial trivial).2
        fun ⟨_, hcustom, _⟩ => absurd hcustom (List.cons_ne_nil _ _)
    exact ⟨load, hload, hattributes, hpartial.mpr ⟨_, List.mem_cons_self, _, rfl⟩⟩
  · exact ⟨_, rfl, (ofSources_told.2.1 plainConnection oneItemService 1).2 _ rfl⟩
  · obtain ⟨first, hfirst⟩ := Connection.exists_requestWith
      (exists_requestTo_plainConnection .custom) (isEncodable_pageParameters (1 : Nat) 1)
    obtain ⟨second, hsecond⟩ := Connection.exists_requestWith
      (exists_requestTo_plainConnection .custom) (isEncodable_pageParameters (1 : Nat) 2)
    have hpage : pageAt plainConnection oneItemService (1 : Nat) .custom 1 =
        .items [namedItem "a"] :=
      (isBody_attributesBody _).pageAt_eq hfirst rfl (by decide +kernel)
    exact (ofSources_told.2.2 plainConnection oneItemService 1 .custom [[namedItem "a"]] second
      404 [] ⟨hpage, by decide, trivial⟩ (by decide) hsecond rfl (.inl rfl)).1

end Directory

end ProfileFilter
