import ProfileFilter.Command.Run
import ProfileFilter.Proofs.Terminal.TagAcross

/-!
# Outputs that are shown

What a command requested, and what it hands to the terminal, does not depend on whether the terminal
can show it (`shown_requests`, `shown_displays`); the exit code does (`exitCode_shown`). Plain text
can be shown if it can be encoded (`shown_ofText`), a panel if its markup can be read and what is
shown of it can be encoded (`isNone_obstacle?_panel`).
-/

namespace ProfileFilter

namespace Outcome

variable (exitCode : Nat) (requests : List Request)

/-- Whatever comes of the output, the requests are told. -/
@[simp] theorem shown_requests (shown : Except Json.Unprintable Output) :
    (Outcome.shown exitCode requests shown).requests = requests := by
  cases shown with
  | error why => rfl
  | ok output =>
    rw [Outcome.shown]
    cases obstacle? output <;> rfl

/-- Whatever the terminal makes of them, the displays are handed to it. -/
theorem shown_displays (output : Output) :
    (Outcome.shown exitCode requests (.ok output)).displays = output.displays := by
  rw [Outcome.shown]
  cases obstacle? output <;> rfl

/-- The exit code is kept if the terminal can show the output. -/
theorem exitCode_shown (output : Output) : (Outcome.shown exitCode requests (.ok output)).exitCode =
    if (obstacle? output).isNone then exitCode else 1 := by
  rw [Outcome.shown]
  cases obstacle? output <;> rfl

/-- A failure that is shown stays one, whatever comes of the output. -/
theorem exitCode_shown_one (shown : Except Json.Unprintable Output) :
    (Outcome.shown 1 requests shown).exitCode = 1 := by
  cases shown with
  | error why => rfl
  | ok output =>
    rw [exitCode_shown]
    exact ite_self 1

/-! ## Plain text -/

theorem obstacle?_ofText (t : Text) :
    obstacle? (.ofText t) = if t.isEncodable then none else some .unencodable := by
  have htexts : (Output.ofText t).shownTexts? = some [t] := rfl
  simp only [obstacle?, htexts, List.all_cons, List.all_nil, Bool.and_true]

theorem shown_ofText (t : Text) : Outcome.shown exitCode requests (.ok (.ofText t)) =
    if t.isEncodable
    then { exitCode, requests, stdout := Text.dropTrailing 0x0A t ++ "\n" }
    else interrupted .unencodable requests := by
  rw [Outcome.shown, obstacle?_ofText]
  cases t.isEncodable <;> rfl

/-! ## Panels -/

theorem isNone_obstacle?_panel {title : Text}
    (htitle : (Markup.plain? title).any Text.isEncodable = true) (markup style : Text) :
    (obstacle? (.ofDisplays [.panel markup title style])).isNone =
      (Markup.read? [] 0 0 markup).getD false := by
  obtain ⟨t, hplain, ht⟩ := (Option.any_eq_true _ _).mp htitle
  have htexts : (Output.ofDisplays [.panel markup title style]).shownTexts? =
      ([title, markup].mapM Markup.plain?).map ([] :: ·) := rfl
  rw [obstacle?, htexts, List.mapM_cons, hplain, List.mapM_cons, List.mapM_nil, Markup.plain?,
    Markup.read?]
  cases Markup.plainFrom? [] 0 0 markup with
  | none => rfl
  | some s =>
    have hs := Markup.isEncodable_expandTabs 0 s
    show (if [[], t, Markup.expandTabs 0 s].all Text.isEncodable then none
      else some Interruption.unencodable).isNone = s.isEncodable
    rw [List.all_cons, List.all_cons, List.all_cons, List.all_nil, ht, hs]
    cases s.isEncodable <;> rfl

end Outcome

end ProfileFilter
