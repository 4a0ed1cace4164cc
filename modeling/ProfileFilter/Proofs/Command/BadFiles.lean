import ProfileFilter.Proofs.Command.Failures

/-!
# Files that cannot be used

Filter and attribute files that cannot be used are reported under one code, whatever is wrong with
them, with two exceptions: a file that is not UTF-8, and one that the reader of documents stops at
although it is written well. A command ends at the first such file. If there is a report, the
command fails with it; the exceptions interrupt the command.

Main statement: `run_without_files`.
-/

namespace ProfileFilter

open Markup (expandTabs literal)

/-- Joined texts start with the first one. -/
theorem Text.isPrefix_join_cons (sep t : Text) (rest : List Text) : t <+: join sep (t :: rest) := by
  cases rest with
  | nil => exact List.prefix_refl t
  | cons u rest =>
    rw [join_cons_cons, List.append_assoc]
    exact List.prefix_append _ _

namespace FileFailure

/-- The report that a file cannot be used, for a reason; issues are told besides. -/
inductive IsReport (path : Text) : (reason : Text) → Report → Prop where
  /-- the file cannot be read, or holds something else -/
  | plain (reason : Text) : IsReport path reason
    (.ofFault .unreadableFile [(.text "path", .text path), (.text "reason", .text reason)])
  /-- what it holds has issues -/
  | issues (issues : List Issue) :
    IsReport path (Text.ofNat issues.length ++ " validation error(s)")
    (.ofFault .unreadableFile [(.text "path", .text path), (.text "reason", .text
        (Text.ofNat issues.length ++ " validation error(s)"))]
      [(.text "errors", .list (issues.map fun i => .text (Text.ofString i.problem.message)))])

variable {files : Files} {path reason : Text} {report : Report} {failure : FileFailure}

/-- The message names the file and the reason. -/
theorem message_of_isReport (h : IsReport path reason report) :
    report.headline = ("E-1004: " : Text) ++ (("Could not read filter file " : Text) ++
      (path ++ ((": " : Text) ++ (reason ++ [])))) ∧
      report.remediation = Text.ofString Fault.unreadableFile.remediation := by
  cases h with
  | plain reason => exact ⟨rfl, rfl⟩
  | issues issues => exact ⟨rfl, rfl⟩

/-- Messages that are told besides can be told. -/
theorem nested_of_isReport (h : IsReport path reason report) :
    ∃ nested, report.nested? = some nested ∧ ∀ v ∈ nested, v.shown.isEncodable = true := by
  cases h with
  | plain reason => exact ⟨[], rfl, fun v hv => absurd hv List.not_mem_nil⟩
  | issues issues =>
    refine ⟨_, rfl, fun v hv => ?_⟩
    obtain ⟨issue, -, rfl⟩ := List.mem_map.mp (List.mem_of_mem_filter hv)
    exact Text.isEncodable_ofString _

theorem formatted_of_isReport (h : IsReport path reason report) :
    ∃ t, report.formatted? true = some t ∧ ("E-1004: " : Text) <+: t ∧
      t.isEncodable = (path.isEncodable && reason.isEncodable) := by
  obtain ⟨hheadline, hremediation⟩ := message_of_isReport h
  obtain ⟨nested, hnested, htold⟩ := nested_of_isReport h
  have hlines : (nested.map fun v => ("  - " : Text) ++ v.shown).all Text.isEncodable = true := by
    rw [List.all_map, List.all_eq_true]
    intro v hv
    simp only [Function.comp_apply, Text.isEncodable_append, Text.isEncodable_ofString, htold v hv,
      Bool.and_true]
  have hformatted : report.formatted? true = some (Text.join "\n" (report.headline ::
      ((nested.map fun v => ("  - " : Text) ++ v.shown) ++
        [("  Action: " : Text) ++ report.remediation]))) := by
    rw [Report.formatted?, hnested]
    rfl
  refine ⟨_, hformatted, ?_, ?_⟩
  · rw [hheadline]
    exact (List.prefix_append _ _).trans (Text.isPrefix_join_cons _ _ _)
  · rw [Text.isEncodable_join (by decide), List.all_cons, List.all_append, hlines, hheadline]
    simp [hremediation]

/-- What is found is not reported, but interrupts a command. -/
inductive Interrupts : FileState → FileFailure → Prop where
  /-- it is not UTF-8 -/
  | undecodable (message : Text) : Interrupts (.undecodable message) .undecodable
  /-- the reader of documents stops at it -/
  | refused (why : ReaderError) : Interrupts (.refused why) (.refused why)

theorem not_interrupts_report {state : FileState} : ¬ Interrupts state (.report report) := nofun

/-- The file fails: what is found interrupts a command, or it is reported. The reason can be told
unless it quotes what is wrong with a document. -/
inductive IsFailure (files : Files) (path : Text) : FileFailure → Prop where
  /-- the command is interrupted -/
  | interrupts {failure : FileFailure} : Interrupts (files (.working path)) failure →
    IsFailure files path failure
  /-- the failure is reported -/
  | report {reason : Text} {report : Report} :
    (∀ failure, ¬ Interrupts (files (.working path)) failure) → IsReport path reason report →
    ((∀ why, files (.working path) = .malformed why → why.isEncodable = true) →
      reason.isEncodable = true) → IsFailure files path (.report report)

theorem IsFailure.undecodable_iff (h : IsFailure files path failure) :
    failure = .undecodable ↔ ∃ message, files (.working path) = .undecodable message := by
  cases h with
  | interrupts h =>
    generalize files (.working path) = state at h
    cases h with
    | undecodable message => exact ⟨fun _ => ⟨message, rfl⟩, fun _ => rfl⟩
    | refused why => exact ⟨nofun, nofun⟩
  | report hstate =>
    refine ⟨nofun, ?_⟩
    rintro ⟨message, h⟩
    exact absurd (h ▸ .undecodable message) (hstate .undecodable)

theorem IsFailure.refused_iff {why : ReaderError} (h : IsFailure files path failure) :
    failure = .refused why ↔ files (.working path) = .refused why := by
  cases h with
  | interrupts h =>
    generalize files (.working path) = state at h
    cases h with
    | undecodable message => exact ⟨nofun, nofun⟩
    | refused found =>
      rw [FileFailure.refused.injEq, FileState.refused.injEq]
  | report hstate =>
    exact ⟨nofun, fun h => absurd (h ▸ .refused why) (hstate (.refused why))⟩

/-- A document is refused with a report. -/
theorem isFailure_of_document {v : Value} (hstate : files (.working path) = .document v)
    (h : IsReport path reason report) (hreason : reason.isEncodable = true) :
    IsFailure files path (.report report) := by
  refine .report (fun failure hinterrupts => ?_) h fun _ => hreason
  rw [hstate] at hinterrupts
  cases hinterrupts

end FileFailure

namespace Files

open FileFailure

variable {files : Files} {path : Text} {failure : FileFailure}

/-- A file is read as a document, or it fails. -/
theorem readDocument_cases (files : Files) (path : Text) :
    (∃ v, files (.working path) = .document v ∧ readDocument files path = .ok v) ∨
      ∃ failure, readDocument files path = .error failure ∧ IsFailure files path failure := by
  have hplain : ∀ {state : FileState} {reason : Text}, files (.working path) = state →
      (∀ failure, ¬ Interrupts state failure) → reason.isEncodable = true →
      IsFailure files path (.unreadable path reason) :=
    fun hstate hinterrupts hreason => .report (by rwa [hstate]) (.plain _) fun _ => hreason
  rw [readDocument]
  cases hstate : files (.working path) with
  | document v => exact .inl ⟨v, rfl, rfl⟩
  | undecodable message => exact .inr ⟨_, rfl, .interrupts (hstate ▸ .undecodable message)⟩
  | refused why => exact .inr ⟨_, rfl, .interrupts (hstate ▸ .refused why)⟩
  | missing => exact .inr ⟨_, rfl, hplain hstate (by rintro _ ⟨⟩) (Text.isEncodable_ofString _)⟩
  | blocked => exact .inr ⟨_, rfl, hplain hstate (by rintro _ ⟨⟩) (Text.isEncodable_ofString _)⟩
  | directory => exact .inr ⟨_, rfl, hplain hstate (by rintro _ ⟨⟩) (Text.isEncodable_ofString _)⟩
  | denied => exact .inr ⟨_, rfl, hplain hstate (by rintro _ ⟨⟩) (Text.isEncodable_ofString _)⟩
  | malformed why =>
    refine .inr ⟨_, rfl, .report (hstate ▸ by rintro _ ⟨⟩) (.plain _) fun htold => ?_⟩
    simp [htold why hstate]

/-- A filter is read from a file, or the file fails. -/
theorem isFailure_of_loadFilter (h : loadFilter files path = .error failure) :
    IsFailure files path failure := by
  obtain ⟨v, hstate, hread⟩ | ⟨found, hread, hfails⟩ := readDocument_cases files path
  · have hdocument : filterSetOf path v = .error failure := by
      rw [loadFilter, hread] at h
      exact h
    have hrefused : ∀ {reason : Text}, reason.isEncodable = true →
        FileFailure.unreadable path reason = failure → IsFailure files path failure := by
      rintro reason hreason rfl
      exact isFailure_of_document hstate (.plain reason) hreason
    cases v with
    | null => cases hdocument
    | mapping entries =>
      rw [filterSetOf] at hdocument
      split at hdocument
      · cases hdocument
      · next issues _ =>
        obtain rfl := Except.error.inj hdocument
        exact isFailure_of_document hstate (.issues issues) (by simp)
    | _ => exact hrefused (Text.isEncodable_ofString _) (Except.error.inj hdocument)
  · rw [loadFilter, hread] at h
    obtain rfl := Except.error.inj h
    exact hfails

theorem isFailure_of_checkAttributes {v : Value} (hstate : files (.working path) = .document v)
    {items : List Value} (h : checkAttributes path items = .error failure) :
    IsFailure files path failure := by
  induction items with
  | nil => cases h
  | cons item rest ih =>
    rw [checkAttributes] at h
    split at h
    · cases hrest : checkAttributes path rest with
      | ok attributes =>
        rw [hrest] at h
        cases h
      | error found =>
        rw [hrest] at h
        exact ih (hrest.trans h)
    · next issues _ =>
      obtain rfl := Except.error.inj h
      exact isFailure_of_document hstate (.plain _) (by simp)

/-- Attributes are read from a file, or the file fails. -/
theorem isFailure_of_loadAttributes (h : loadAttributes files path = .error failure) :
    IsFailure files path failure := by
  obtain ⟨v, hstate, hread⟩ | ⟨found, hread, hfails⟩ := readDocument_cases files path
  · have hdocument : attributesOf path v = .error failure := by
      rw [loadAttributes, hread] at h
      exact h
    unfold attributesOf at hdocument
    simp only at hdocument
    split at hdocument
    · exact isFailure_of_checkAttributes hstate hdocument
    · obtain rfl := Except.error.inj hdocument
      exact isFailure_of_document hstate (.plain _) (Text.isEncodable_ofString _)
  · rw [loadAttributes, hread] at h
    obtain rfl := Except.error.inj h
    exact hfails

/-! Only a file that is not UTF-8, or that the reader stops at, fails without a report. -/

theorem loadFilter_eq_undecodable_iff : loadFilter files path = .error .undecodable ↔
    ∃ message, files (.working path) = .undecodable message := by
  refine ⟨fun h => (isFailure_of_loadFilter h).undecodable_iff.mp rfl, ?_⟩
  rintro ⟨message, h⟩
  rw [loadFilter, readDocument, h]
  rfl

theorem loadFilter_eq_refused_iff {why : ReaderError} :
    loadFilter files path = .error (.refused why) ↔ files (.working path) = .refused why := by
  refine ⟨fun h => (isFailure_of_loadFilter h).refused_iff.mp rfl, fun h => ?_⟩
  rw [loadFilter, readDocument, h]
  rfl

theorem loadAttributes_eq_undecodable_iff : loadAttributes files path = .error .undecodable ↔
    ∃ message, files (.working path) = .undecodable message := by
  refine ⟨fun h => (isFailure_of_loadAttributes h).undecodable_iff.mp rfl, ?_⟩
  rintro ⟨message, h⟩
  rw [loadAttributes, readDocument, h]
  rfl

theorem loadAttributes_eq_refused_iff {why : ReaderError} :
    loadAttributes files path = .error (.refused why) ↔ files (.working path) = .refused why := by
  refine ⟨fun h => (isFailure_of_loadAttributes h).refused_iff.mp rfl, fun h => ?_⟩
  rw [loadAttributes, readDocument, h]
  rfl

end Files

namespace Command

/-- A command comes to read its files: at once, or with settings and credentials to run a filter. -/
inductive Reads (world : World) (config : Option Text) :
    Command → (file known : Option Text) → Prop where
  /-- a filter is compiled -/
  | compile (file : Text) (known baseUrl : Option Text) (asJson : Bool) :
    Reads world config (.compile file known baseUrl asJson) (some file) known
  /-- a filter is run -/
  | test {settings : Settings} {baseUrl apiKey : Option Text} (file known : Option Text)
    (asJson : Bool) :
    Settings.load world.files world.environment (config.getD []) = .ok settings →
    Credentials.require (settings.connection.override baseUrl apiKey).baseUrl
      (settings.connection.override baseUrl apiKey).apiKey = .ok () →
    Reads world config (.test file known baseUrl apiKey asJson) file known

/-- The file that fails first: the filter, or else the attributes. -/
inductive FileFails (files : Files) :
    (file known : Option Text) → (path : Text) → FileFailure → Prop where
  /-- the filter fails -/
  | filter {path : Text} {known : Option Text} {failure : FileFailure} :
    loadFilter files path = .error failure → FileFails files (some path) known path failure
  /-- the attributes fail -/
  | attributes {file : Option Text} {filter : FilterSet} {path : Text} {failure : FileFailure} :
    optionalFilter files file = .ok filter → loadAttributes files path = .error failure →
    FileFails files file (some path) path failure

open FileFailure (IsFailure IsReport)

variable {world : World} {config file known : Option Text} {command : Command} {path : Text}
  {failure : FileFailure}

theorem FileFails.isFailure {files : Files} (h : FileFails files file known path failure) :
    IsFailure files path failure := by
  cases h with
  | filter h => exact Files.isFailure_of_loadFilter h
  | attributes _ h => exact Files.isFailure_of_loadAttributes h

theorem Reads.exists_run_eq (h : Reads world config command file known) :
    ∃ go, run world config command = withFilter world file known go := by
  cases h with
  | compile file known baseUrl asJson => exact ⟨_, rfl⟩
  | test file known asJson hload hrequire =>
    rw [run, withSettings_of_load hload, runTest, withCredentials, hrequire]
    exact ⟨_, rfl⟩

theorem run_of_fileFails (hreads : Reads world config command file known)
    (h : FileFails world.files file known path failure) :
    run world config command = withoutFile failure := by
  obtain ⟨go, hgo⟩ := hreads.exists_run_eq
  rw [hgo, withFilter_eq]
  cases h with
  | filter h => rw [optionalFilter, h]
  | attributes hfilter h => simp only [hfilter, optionalAttributes, h]

/-- A report is told as a whole, and its code comes first. -/
theorem failsWith_withoutFile {reason : Text} {report : Report} (h : IsReport path reason report) :
    ∃ message, report.formatted? true = some message ∧ ("E-1004: " : Text) <+: message ∧
      message.isEncodable = (path.isEncodable && reason.isEncodable) ∧
      (withoutFile (.report report)).FailsWith message ∧
      (message.isEncodable = true →
        ("E-1004: " : Text) <+: (withoutFile (.report report)).stdout) := by
  obtain ⟨message, hformatted, ⟨rest, rfl⟩, hencodable⟩ := FileFailure.formatted_of_isReport h
  have hprinted : withoutFile (.report report) = Outcome.printed 1
      [Format.styled "red" (Markup.escape ("E-1004: " ++ rest))] := by
    rw [withoutFile, Outcome.failed, hformatted]
    rfl
  obtain ⟨extra, hstdout⟩ := Outcome.printed_eq (Markup.shows_red ("E-1004: " ++ rest))
  refine ⟨_, hformatted, List.prefix_append _ _, hencodable, ?_, fun htold => ?_⟩
  · rw [hprinted]
    exact Outcome.failsWith_printed (Markup.shows_red _)
  · rw [hprinted, hstdout, if_pos htold]
    exact ⟨expandTabs 8 (literal 0 rest ++ extra) ++ "\n", rfl⟩

/-- **Commands without files.**

* A filter or attribute file that cannot be used is reported under one code, unless it is not
  UTF-8 or the reader of documents stops at it for another reason than how it is written.
* A command that comes to read its files ends at the first that cannot be used. Its report is the
  message the command fails with, and the code comes first; it can be told if the path, and what is
  wrong with a document that is none, can. Each of the two exceptions interrupts the command. -/
theorem run_without_files (world : World) :
    (∀ path, (loadFilter world.files path = .error .undecodable ↔
        ∃ message, world.files (.working path) = .undecodable message) ∧
      (loadAttributes world.files path = .error .undecodable ↔
        ∃ message, world.files (.working path) = .undecodable message)) ∧
    (∀ path why, (loadFilter world.files path = .error (.refused why) ↔
        world.files (.working path) = .refused why) ∧
      (loadAttributes world.files path = .error (.refused why) ↔
        world.files (.working path) = .refused why)) ∧
    (∀ path report, loadFilter world.files path = .error (.report report) ∨
        loadAttributes world.files path = .error (.report report) →
      report.code = "E-1004" ∧ ∃ reason, IsReport path reason report) ∧
    ∀ config command file known, Reads world config command file known →
      ∀ path failure, FileFails world.files file known path failure →
        (failure = .undecodable → run world config command = .interrupted .undecodable) ∧
        (∀ why, failure = .refused why →
          run world config command = .interrupted (.refused why)) ∧
        ∀ report, failure = .report report → ∃ message, report.formatted? true = some message ∧
          (run world config command).FailsWith message ∧ ("E-1004: " : Text) <+: message ∧
          (message.isEncodable = true →
            ("E-1004: " : Text) <+: (run world config command).stdout) ∧
          (path.isEncodable = true → (∀ why, world.files (.working path) = .malformed why →
            why.isEncodable = true) → message.isEncodable = true) := by
  refine ⟨fun path => ⟨Files.loadFilter_eq_undecodable_iff,
    Files.loadAttributes_eq_undecodable_iff⟩, fun path why => ⟨Files.loadFilter_eq_refused_iff,
    Files.loadAttributes_eq_refused_iff⟩, fun path report h => ?_, ?_⟩
  · have hfails : IsFailure world.files path (.report report) := by
      rcases h with h | h
      · exact Files.isFailure_of_loadFilter h
      · exact Files.isFailure_of_loadAttributes h
    cases hfails with
    | interrupts h => exact absurd h FileFailure.not_interrupts_report
    | report _ hreport _ =>
      refine ⟨?_, _, hreport⟩
      cases hreport <;> rfl
  · intro config command file known hreads path failure hfails
    rw [run_of_fileFails hreads hfails]
    refine ⟨?_, ?_, ?_⟩
    · rintro rfl
      rfl
    · rintro why rfl
      rfl
    · rintro report rfl
      cases hfails.isFailure with
      | interrupts h => exact absurd h FileFailure.not_interrupts_report
      | report _ hreport hreason =>
        obtain ⟨message, hformatted, hcode, hencodable, hfailsWith, hstdout⟩ :=
          failsWith_withoutFile hreport
        refine ⟨message, hformatted, hfailsWith, hcode, hstdout, fun hpath hwhy => ?_⟩
        rw [hencodable, hpath, hreason hwhy]
        rfl

/-- A world with a filter file that holds a list, and a directory in place of attributes. -/
def fileWorld : World where
  files place :=
    if place = .working "f.yaml" then .document (.list [])
    else if place = .working "a.yaml" then .directory
    else if place = .working "x.yaml" then .undecodable "invalid start byte"
    else .missing
  environment := []
  service _ _ := .answer 200 []

theorem run_without_files_list :
    (∃ message, (run fileWorld none (.compile "f.yaml" none none true)).FailsWith message ∧
      ("E-1004: " : Text) <+: (run fileWorld none (.compile "f.yaml" none none true)).stdout) ∧
    ∃ message, (run fileWorld none (.test none (some "a.yaml") (some "https://api.example.com")
        (some "k") false)).FailsWith message ∧
      ("E-1004: " : Text) <+: (run fileWorld none (.test none (some "a.yaml")
        (some "https://api.example.com") (some "k") false)).stdout := by
  obtain ⟨-, -, -, hrun⟩ := run_without_files fileWorld
  have hfilter : FileFails fileWorld.files (some "f.yaml") none "f.yaml"
      (.unreadable "f.yaml" "expected a mapping with 'conditions' and 'logic'") := .filter (by rfl)
  have hattributes : FileFails fileWorld.files none (some "a.yaml") "a.yaml"
      (.unreadable "a.yaml" "Is a directory") := .attributes rfl (by rfl)
  have hbase : Credentials.normalBaseUrl "https://api.example.com" = "https://api.example.com" := by
    decide +kernel
  have htest : Reads fileWorld none (.test none (some "a.yaml") (some "https://api.example.com")
      (some "k") false) none (some "a.yaml") :=
    .test _ _ _ rfl ((congrArg (Credentials.require · "k") hbase).trans require_sample)
  obtain ⟨message, -, hfails, -, hstdout, htold⟩ :=
    (hrun none _ _ _ (.compile "f.yaml" none none true) _ _ hfilter).2.2 _ rfl
  obtain ⟨message', -, hfails', -, hstdout', htold'⟩ :=
    (hrun none _ _ _ htest _ _ hattributes).2.2 _ rfl
  refine ⟨⟨message, hfails, hstdout (htold (by decide) nofun)⟩, message', hfails',
    hstdout' (htold' (by decide) nofun)⟩

/-- A file that is not UTF-8 interrupts a command, and its code is not told. -/
theorem run_compile_undecodable :
    (run fileWorld none (.compile "x.yaml" none none true)).interruption = some .undecodable ∧
      (run fileWorld none (.compile "x.yaml" none none true)).stdout = [] := by
  exact ⟨rfl, rfl⟩

end Command

end ProfileFilter
