import ProfileFilter.Fault.ErrorBody
import ProfileFilter.Proofs.Text.Digits

/-!
# Error bodies

What is told of a refused request is never empty, whatever the body holds. Every value is shown
as something except the empty text (`Value.shown_eq_nil_iff`), and the empty text counts as
missing: a flat field is only shown if it is truthy.

The exception record has two parts, a text and an identifier, and one is enough for it to be told.
Then the other is shown as well, also if it is missing; so the message shows the parts that the body
has, and no others, only if the body has both or none of them (`ErrorBody.message_tells`).

Main statements: `ErrorBody.message_ne_nil`, `ErrorBody.message_tells`.
-/

namespace ProfileFilter

/-! ## Shown values -/

namespace Text

theorem append_ne_nil_of_right {s t : Text} (h : t ≠ []) : s ++ t ≠ [] := by
  simp [h]

theorem padded_append_ne_nil (width n : Nat) (t : Text) : padded width n ++ t ≠ [] := by
  simp [padded, ofNat_ne_nil]

end Text

/-- However the digits lie around the point, there is a point or an exponent between them. -/
theorem Binary64.layout_ne_nil (digits : Text) (point : Int) : layout digits point ≠ [] := by
  simp only [layout]
  by_cases hexponent : point ≤ -4 || point > 16
  · rw [if_pos hexponent]
    simp [Text.padded, Text.ofNat_ne_nil]
  · rw [if_neg hexponent]
    split_ifs <;> simp [Text.ofString]

theorem Binary64.shown_ne_nil (x : Binary64) : x.shown ≠ [] := by
  cases x with
  | nan => decide
  | infinite negative => cases negative <;> decide
  | finite negative mantissa exponent =>
    simp only [shown]
    by_cases hzero : mantissa == 0
    · rw [if_pos hzero]
      exact Text.append_ne_nil_of_right (by decide)
    · rw [if_neg hzero]
      exact Text.append_ne_nil_of_right (layout_ne_nil _ _)

namespace Value

theorem parenthesized_ne_nil (items : List Text) : parenthesized items ≠ [] := by
  unfold parenthesized
  split <;> exact List.cons_ne_nil _ _

/-- **Only the empty text is shown as nothing.** -/
theorem shown_eq_nil_iff {v : Value} : v.shown = [] ↔ v = .text [] := by
  constructor
  · intro h
    cases v with
    | null => cases h
    | bool b => cases b <;> cases h
    | int n => exact absurd h (Text.ofInt_ne_nil n)
    | float x => exact absurd h x.shown_ne_nil
    | text t => exact congrArg Value.text h
    | date d =>
      simp only [shown, Date.shown, List.append_assoc] at h
      exact absurd h (Text.padded_append_ne_nil _ _ _)
    | dateTime d =>
      simp only [shown, DateTime.shown, DateTime.shownWith, Date.shown, List.append_assoc] at h
      exact absurd h (Text.padded_append_ne_nil _ _ _)
    | list items => cases h
    | tuple items => exact absurd h (parenthesized_ne_nil _)
    | mapping entries => cases h
  · rintro rfl
    rfl

theorem shown_ne_nil_of_isTruthy {v : Value} (h : v.isTruthy = true) : v.shown ≠ [] := by
  intro hnil
  rw [shown_eq_nil_iff] at hnil
  rw [hnil] at h
  cases h

end Value

/-! ## Messages -/

namespace ErrorBody

theorem flatMessage_ne_nil (body : Value) : flatMessage body ≠ [] := by
  unfold flatMessage
  split
  · simp only
    split_ifs with hmessage herror
    · exact Value.shown_ne_nil_of_isTruthy hmessage
    · exact Value.shown_ne_nil_of_isTruthy herror
    · decide
  · decide

/-- **There is always something to tell**, whatever the body holds. -/
theorem message_ne_nil (body : Value) : message body ≠ [] := by
  simp only [message]
  split_ifs
  · simp [Text.ofString]
  · exact flatMessage_ne_nil body

end ErrorBody

/-! ## The parts of a body -/

namespace Value

/-- The value under a path of keys, null where there is none. -/
def atPath : List Text → Value → Value
  | [], v => v
  | key :: rest, .mapping entries => atPath rest (get key entries)
  | _ :: _, _ => .null

/-- Is it absent, null or empty? -/
def isMissing : Value → Bool
  | .null => true
  | .text t => t.isEmpty
  | .list items | .tuple items => items.isEmpty
  | .mapping entries => entries.isEmpty
  | _ => false

theorem isTruthy_of_isMissing {v : Value} (h : v.isMissing = true) : v.isTruthy = false := by
  cases v with
  | null => rfl
  | text t | list items | tuple items | mapping entries =>
    rw [isTruthy, Bool.not_eq_false']
    exact h
  | _ => cases h

/-- What is missing is shown as one of these words. -/
theorem shown_mem_of_isMissing {v : Value} (h : v.isMissing = true) :
    v.shown ∈ (["", "None", "[]", "()", "\x7b\x7d"] : List Text) := by
  cases v with
  | null => decide
  | text t | list items | tuple items | mapping entries =>
    obtain rfl := List.isEmpty_iff.mp h
    decide
  | _ => cases h

end Value

namespace ErrorBody

/-- The text in the exception record. -/
def exceptionText (body : Value) : Value :=
  body.atPath ["requestError", "serviceException", "text"]

/-- The identifier in the exception record. -/
def exceptionId (body : Value) : Value :=
  body.atPath ["requestError", "serviceException", "messageId"]

/-- A flat field. -/
def flatField (key : Text) (body : Value) : Value := body.atPath [key]

theorem exceptionParts_eq (body : Value) :
    exceptionParts body = (exceptionId body, exceptionText body) := by
  unfold exceptionParts exceptionId exceptionText
  cases body with
  | mapping entries =>
    simp only [Value.atPath]
    cases Value.get "requestError" entries with
    | mapping inner =>
      simp only [Value.atPath]
      cases Value.get "serviceException" inner <;> rfl
    | _ => rfl
  | _ => rfl

/-! ## The choice of a message -/

/-- The message of an exception record, with both of its parts. -/
def exceptionMessage (body : Value) : Text :=
  (exceptionText body).shown ++ " (Error code: " ++ (exceptionId body).shown ++ ")"

/-- The message is chosen by priority: the exception record if it has one of its parts, else the
first flat field that there is, else the fallback. -/
inductive Chosen (body : Value) : Text → Prop where
  /-- the exception record -/
  | exception : (exceptionText body).isTruthy = true ∨ (exceptionId body).isTruthy = true →
    Chosen body (exceptionMessage body)
  /-- a flat message -/
  | message : (exceptionText body).isTruthy = false → (exceptionId body).isTruthy = false →
    (flatField "message" body).isTruthy = true → Chosen body (flatField "message" body).shown
  /-- a flat error -/
  | error : (exceptionText body).isTruthy = false → (exceptionId body).isTruthy = false →
    (flatField "message" body).isTruthy = false → (flatField "error" body).isTruthy = true →
    Chosen body (flatField "error" body).shown
  /-- nothing -/
  | fallback : (exceptionText body).isTruthy = false → (exceptionId body).isTruthy = false →
    (flatField "message" body).isTruthy = false → (flatField "error" body).isTruthy = false →
    Chosen body fallback

/-- The fields that the message is to be made of. -/
def sources (body : Value) : List Value :=
  match [exceptionText body, exceptionId body].filter (·.isTruthy) with
  | [] => ([flatField "message" body, flatField "error" body].filter (·.isTruthy)).take 1
  | parts => parts

/-- The message shows the parts of the exception record that the body has, and no others. -/
structure ShowsParts (body : Value) (m : Text) : Prop where
  /-- with only a text it is the text -/
  text_only : (exceptionText body).isTruthy = true → (exceptionId body).isMissing = true →
    m = (exceptionText body).shown
  /-- with only an identifier it names the identifier -/
  id_only : (exceptionId body).isTruthy = true → (exceptionText body).isMissing = true →
    (exceptionId body).shown <:+: m
  /-- the word that a missing part is shown as comes from a field that is there, if at all -/
  missing : ∀ part ∈ [exceptionText body, exceptionId body], part.isMissing = true →
    part.shown ≠ [] → part.shown <:+: m → ∃ field ∈ sources body, part.shown <:+: field.shown

theorem flatMessage_eq (body : Value) : flatMessage body =
    if (flatField "message" body).isTruthy then (flatField "message" body).shown
    else if (flatField "error" body).isTruthy then (flatField "error" body).shown
    else fallback := by
  cases body <;> rfl

theorem message_eq (body : Value) : message body =
    if (exceptionText body).isTruthy || (exceptionId body).isTruthy then exceptionMessage body
    else flatMessage body := by
  rw [message, exceptionParts_eq]
  rfl

theorem chosen_message (body : Value) : Chosen body (message body) := by
  rw [message_eq, flatMessage_eq]
  split_ifs with hparts hmessage herror
  · exact .exception (Bool.or_eq_true_iff.mp hparts)
  all_goals
    rw [Bool.or_eq_true, not_or, Bool.not_eq_true, Bool.not_eq_true] at hparts
    obtain ⟨htext, hid⟩ := hparts
  · exact .message htext hid hmessage
  · exact .error htext hid (Bool.eq_false_iff.mpr hmessage) herror
  · exact .fallback htext hid (Bool.eq_false_iff.mpr hmessage) (Bool.eq_false_iff.mpr herror)

/-! ## What the message shows -/

section Shows

variable {body : Value}

theorem mem_sources_of_isTruthy {part : Value}
    (hpart : part ∈ [exceptionText body, exceptionId body]) (h : part.isTruthy = true) :
    part ∈ sources body := by
  have hmem : part ∈ [exceptionText body, exceptionId body].filter (·.isTruthy) :=
    List.mem_filter.mpr ⟨hpart, h⟩
  unfold sources
  split
  · next hnone =>
    rw [hnone] at hmem
    exact absurd hmem List.not_mem_nil
  · exact hmem

theorem isTruthy_of_mem_sources {field : Value} (h : field ∈ sources body) :
    field.isTruthy = true := by
  unfold sources at h
  split at h
  · exact (List.mem_filter.mp (List.mem_of_mem_take h)).2
  · exact (List.mem_filter.mp h).2

/-- If the exception record has one of its parts, no flat field is told. -/
theorem mem_of_mem_sources {field : Value}
    (hparts : (exceptionText body).isTruthy = true ∨ (exceptionId body).isTruthy = true)
    (h : field ∈ sources body) : field ∈ [exceptionText body, exceptionId body] := by
  unfold sources at h
  split at h
  · next hnone =>
    have hnot := List.filter_eq_nil_iff.mp hnone
    rcases hparts with htext | hid
    · exact absurd htext (hnot _ (by simp))
    · exact absurd hid (hnot _ (by simp))
  · exact (List.mem_filter.mp h).1

/-- Without an exception record the first flat field is told. -/
theorem sources_of_flat (htext : (exceptionText body).isTruthy = false)
    (hid : (exceptionId body).isTruthy = false) : sources body =
      ([flatField "message" body, flatField "error" body].filter (·.isTruthy)).take 1 := by
  have hnone : [exceptionText body, exceptionId body].filter (·.isTruthy) = [] := by
    simp [htext, hid]
  rw [sources, hnone]

/-- The fallback holds no word that a missing part is shown as. -/
theorem not_infix_fallback : ∀ word ∈ (["None", "[]", "()", "\x7b\x7d"] : List Text),
    ¬ word <:+: fallback := by
  decide +kernel

/-- The bodies that are told as they should be: a part of the exception record comes with the other
one. -/
structure IsWellTold (body : Value) : Prop where
  /-- with a text there is an identifier -/
  id_of_text : (exceptionText body).isTruthy = true → (exceptionId body).isMissing = false
  /-- with an identifier there is a text, or something that is shown as nothing, or as a word that
  the identifier holds -/
  text_of_id : (exceptionId body).isTruthy = true → (exceptionText body).isMissing = true →
    (exceptionText body).shown ≠ [] → (exceptionText body).shown <:+: (exceptionId body).shown

theorem showsParts_exceptionMessage
    (hparts : (exceptionText body).isTruthy = true ∨ (exceptionId body).isTruthy = true) :
    ShowsParts body (exceptionMessage body) ↔ IsWellTold body := by
  have htextIn : (exceptionText body).shown <:+: exceptionMessage body := by
    rw [exceptionMessage, List.append_assoc, List.append_assoc]
    exact (List.prefix_append _ _).isInfix
  have hidIn : (exceptionId body).shown <:+: exceptionMessage body := by
    rw [exceptionMessage, List.append_assoc]
    exact ⟨_, _, List.append_assoc _ _ _⟩
  have hlonger : exceptionMessage body ≠ (exceptionText body).shown := fun h => by
    have hlength := congrArg List.length h
    simp [exceptionMessage, Text.ofString] at hlength
  -- a part that is missing is not the one that is there
  have hother {part : Value} (hmissing : part.isMissing = true) : ¬ part.isTruthy = true := by
    rw [Value.isTruthy_of_isMissing hmissing]
    exact Bool.false_ne_true
  constructor
  · intro h
    refine ⟨fun htext => ?_, fun hid hmissing hshown => ?_⟩
    · exact Bool.eq_false_iff.mpr fun hmissing => hlonger (h.text_only htext hmissing)
    · obtain ⟨field, hfield, hin⟩ := h.missing _ List.mem_cons_self hmissing hshown htextIn
      rcases List.mem_cons.mp (mem_of_mem_sources hparts hfield) with rfl | hfield'
      · exact absurd (isTruthy_of_mem_sources hfield) (hother hmissing)
      · exact List.mem_singleton.mp hfield' ▸ hin
  · rintro ⟨hpresent, hword⟩
    refine ⟨fun htext hmissing => ?_, fun _ _ => hidIn, fun part hpart hmissing hshown _ => ?_⟩
    · rw [hpresent htext] at hmissing
      cases hmissing
    · rcases List.mem_cons.mp hpart with rfl | hpart
      · have hid := hparts.resolve_left (hother hmissing)
        exact ⟨_, mem_sources_of_isTruthy (List.mem_cons_of_mem _ List.mem_cons_self) hid,
          hword hid hmissing hshown⟩
      · obtain rfl := List.mem_singleton.mp hpart
        rw [hpresent (hparts.resolve_right (hother hmissing))] at hmissing
        cases hmissing

/-- Without an exception record, nothing but a flat field or the fallback is shown. -/
theorem showsParts_flatMessage (htext : (exceptionText body).isTruthy = false)
    (hid : (exceptionId body).isTruthy = false) : ShowsParts body (flatMessage body) := by
  refine ⟨fun h => ?_, fun h => ?_, fun part _ hmissing hshown hin => ?_⟩
  · rw [htext] at h
    cases h
  · rw [hid] at h
    cases h
  · rw [sources_of_flat htext hid]
    rw [flatMessage_eq] at hin
    split_ifs at hin with hmessage herror
    · exact ⟨_, by simp [hmessage], hin⟩
    · exact ⟨flatField "error" body, by simp [hmessage, herror], hin⟩
    · have hword := (List.mem_cons.mp (Value.shown_mem_of_isMissing hmissing)).resolve_left hshown
      exact absurd hin (not_infix_fallback _ hword)

end Shows

/-- **What is told of a refused request**, whatever the body holds: it is never empty, it is chosen
by priority, and it shows the parts of the exception record that the body has, and no others,
exactly if each of them comes with the other. -/
theorem message_tells (body : Value) :
    message body ≠ [] ∧ Chosen body (message body) ∧
      (ShowsParts body (message body) ↔ IsWellTold body) := by
  refine ⟨message_ne_nil body, chosen_message body, ?_⟩
  rw [message_eq]
  split_ifs with hparts
  · exact showsParts_exceptionMessage (Bool.or_eq_true_iff.mp hparts)
  · rw [Bool.or_eq_true, not_or, Bool.not_eq_true, Bool.not_eq_true] at hparts
    obtain ⟨htext, hid⟩ := hparts
    refine iff_of_true (showsParts_flatMessage htext hid) ⟨fun h => ?_, fun h => ?_⟩
    · rw [htext] at h
      cases h
    · rw [hid] at h
      cases h

/-- A body with an exception record of these fields. -/
def exceptionBody (fields : List (Text × Value)) : Value :=
  .record [("requestError", .record [("serviceException", .record fields)])]

/-- **A part that the body does not have is shown**: an identifier that is missing, and a text that
is. -/
theorem message_onePart :
    message (exceptionBody [("text", .text "boom")]) = "boom (Error code: None)" ∧
    ¬ ShowsParts (exceptionBody [("text", .text "boom")]) "boom (Error code: None)" ∧
    message (exceptionBody [("messageId", .text "X")]) = "None (Error code: X)" ∧
    ¬ ShowsParts (exceptionBody [("messageId", .text "X")]) "None (Error code: X)" := by
  refine ⟨by decide, fun h => ?_, by decide, fun h => ?_⟩
  · exact absurd (h.text_only (by decide) (by decide)) (by decide)
  · obtain ⟨field, hfield, hin⟩ := h.missing .null (by decide) rfl (by decide) (by decide)
    obtain rfl : field = .text "X" := List.mem_singleton.mp hfield
    exact absurd hin (by decide)

end ErrorBody

end ProfileFilter
