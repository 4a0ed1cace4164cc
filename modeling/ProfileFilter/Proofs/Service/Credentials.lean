import ProfileFilter.Proofs.Json.Compact
import ProfileFilter.Service.Credentials

/-!
# Faulty credentials

What can be wrong with credentials: a base URL that is missing or invalid, a key that is missing,
and both at once. The report tells the first fault, the base URL before the key, and the messages
of all faults.

Main statement: `refusal_of_faults`.
-/

namespace ProfileFilter

namespace Credentials

/-- The base URL is there, and it is an absolute one of HTTP with a host. -/
def IsUsableUrl (url : Text) : Prop :=
  url.trim ≠ [] ∧ (Url.parse url.trim).bind Url.isHttp = .ok true

/-- The first thing that is wrong with credentials. -/
def FirstFault (url key : Text) : Fault → Prop
  | .missingBaseUrl => url.trim = []
  | .invalidBaseUrl => url.trim ≠ [] ∧ ¬ IsUsableUrl url
  | .missingApiKey => IsUsableUrl url ∧ key.trim = []
  | _ => False

/-- The report of one or more faults. -/
def reportOf (fault : Fault) (rest : List Fault) : Report :=
  .ofFault fault [] [(.text "errors", .list ((fault :: rest).map fun f => .text (messageOf f)))]

/-- The faults that credentials can have, the first one set apart. -/
def faultyCases : List (Fault × List Fault) :=
  [(.missingBaseUrl, []), (.missingBaseUrl, [.missingApiKey]), (.invalidBaseUrl, []),
    (.invalidBaseUrl, [.missingApiKey]), (.missingApiKey, [])]

/-- What is told about faulty credentials: the code of the first fault and all messages. -/
structure Refusal (url key : Text) (found : List Fault) (report : Report) : Prop where
  /-- the code is that of the first fault -/
  code : (report.code = "E-1001" ∧ url.trim = []) ∨
    (report.code = "E-1002" ∧ url.trim ≠ [] ∧ ¬ IsUsableUrl url) ∨
    (report.code = "E-1003" ∧ IsUsableUrl url ∧ key.trim = [])
  /-- the messages of all faults stand in the details, in order -/
  details : report.details =
    [(.text "errors", .list (found.map fun f => .text (messageOf f)))]

variable {url key : Text} {fault : Fault} {found rest : List Fault}

theorem baseUrlFaults_eq_ok (h : baseUrlFaults url = .ok found) :
    (found = [] ∧ IsUsableUrl url) ∨
      ∃ fault, found = [fault] ∧ (fault = .missingBaseUrl ∧ url.trim = [] ∨
        fault = .invalidBaseUrl ∧ url.trim ≠ [] ∧ ¬ IsUsableUrl url) := by
  unfold baseUrlFaults at h
  split_ifs at h with hempty
  · obtain rfl := Except.ok.inj h
    exact .inr ⟨_, rfl, .inl ⟨rfl, List.isEmpty_iff.mp hempty⟩⟩
  · have hne : url.trim ≠ [] := by rwa [List.isEmpty_iff] at hempty
    split at h
    · next isHttp hparse =>
      obtain rfl := Except.ok.inj h
      cases isHttp with
      | true => exact .inl ⟨rfl, hne, hparse⟩
      | false =>
        refine .inr ⟨_, rfl, .inr ⟨rfl, hne, fun husable => ?_⟩⟩
        rw [husable.2] at hparse
        cases hparse
    · next hparse =>
      obtain rfl := Except.ok.inj h
      refine .inr ⟨_, rfl, .inr ⟨rfl, hne, fun husable => ?_⟩⟩
      rw [husable.2] at hparse
      cases hparse
    · cases h

theorem keyFaults_cases (key : Text) :
    (keyFaults key = [] ∧ key.trim ≠ []) ∨ (keyFaults key = [.missingApiKey] ∧ key.trim = []) := by
  unfold keyFaults
  split_ifs with h
  · exact .inr ⟨rfl, List.isEmpty_iff.mp h⟩
  · exact .inl ⟨rfl, by rwa [List.isEmpty_iff] at h⟩

/-- There are five ways to be faulty. -/
theorem faults_eq_cons (h : faults url key = .ok (fault :: rest)) :
    (fault, rest) ∈ faultyCases ∧ FirstFault url key fault := by
  obtain ⟨urlFaults, hurl, hrest⟩ := bind_eq_ok.mp h
  have hfound : urlFaults ++ keyFaults key = fault :: rest := Except.ok.inj hrest
  -- each of the two parts has a fault or not
  rcases baseUrlFaults_eq_ok hurl with ⟨rfl, husable⟩ | ⟨first, rfl, hfirst⟩ <;>
    rcases keyFaults_cases key with ⟨hkey, htrim⟩ | ⟨hkey, htrim⟩ <;>
    rw [hkey] at hfound
  · cases hfound
  · cases hfound
    exact ⟨by decide, husable, htrim⟩
  all_goals
    cases hfound
    rcases hfirst with ⟨rfl, hblame⟩ | ⟨rfl, hblame⟩
    · exact ⟨by decide, hblame⟩
    · exact ⟨by decide, hblame⟩

theorem require_of_faults (h : faults url key = .ok (fault :: rest)) :
    require url key = .error (.report (reportOf fault rest)) := by
  rw [require, h]
  rfl

/-- Credentials pass if nothing is wrong with them. -/
theorem require_eq_ok (h : require url key = .ok ()) : faults url key = .ok [] := by
  unfold require at h
  split at h
  · cases h
  · next found hfound =>
    cases found with
    | nil => exact hfound
    | cons fault rest => cases h

theorem baseUrlFaults_eq_nil_iff : baseUrlFaults url = .ok [] ↔ IsUsableUrl url := by
  constructor
  · intro h
    rcases baseUrlFaults_eq_ok h with ⟨-, husable⟩ | ⟨fault, hnil, -⟩
    · exact husable
    · cases hnil
  · rintro ⟨hne, hparse⟩
    rw [baseUrlFaults, if_neg (by rwa [List.isEmpty_iff]), hparse]
    rfl

/-- **Nothing is wrong with credentials** if the base URL is usable and the key is not blank. -/
theorem faults_eq_nil_iff : faults url key = .ok [] ↔ IsUsableUrl url ∧ key.trim ≠ [] := by
  constructor
  · intro h
    obtain ⟨urlFaults, hurl, hrest⟩ := bind_eq_ok.mp h
    obtain ⟨rfl, hnone⟩ := List.append_eq_nil_iff.mp (Except.ok.inj hrest)
    refine ⟨baseUrlFaults_eq_nil_iff.mp hurl, ?_⟩
    rcases keyFaults_cases key with ⟨-, hkey⟩ | ⟨hkey, -⟩
    · exact hkey
    · rw [hkey] at hnone
      cases hnone
  · rintro ⟨husable, hkey⟩
    have hkeyFaults : keyFaults key = [] := if_neg (by rwa [List.isEmpty_iff])
    rw [faults, baseUrlFaults_eq_nil_iff.mpr husable, hkeyFaults]
    rfl

theorem require_eq_ok_iff : require url key = .ok () ↔ IsUsableUrl url ∧ key.trim ≠ [] := by
  rw [← faults_eq_nil_iff]
  constructor
  · exact require_eq_ok
  · intro h
    rw [require, h]
    rfl

/-- **Faulty credentials are refused** with the code of the first fault and all messages. -/
theorem refusal_of_faults (h : faults url key = .ok (fault :: rest)) :
    Refusal url key (fault :: rest) (reportOf fault rest) where
  code := by
    obtain ⟨-, hfirst⟩ := faults_eq_cons h
    cases fault with
    | missingBaseUrl => exact .inl ⟨rfl, hfirst⟩
    | invalidBaseUrl => exact .inr (.inl ⟨rfl, hfirst⟩)
    | missingApiKey => exact .inr (.inr ⟨rfl, hfirst⟩)
    | _ => exact hfirst.elim
  details := rfl

end Credentials

end ProfileFilter
