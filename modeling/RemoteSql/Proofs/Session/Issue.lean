import Mathlib
import RemoteSql.Proofs.Session.History

/-!
# Sessions that a server gives out

A server gives a session out in its reply to the password, and it is the reply that tells the id. A
login that sends the password returns the session that is given out for it, or fails if none is; a
login that takes up the cached session is not given any.
-/

namespace RemoteSql

namespace Wire

variable {w w' : Wire}

/-- The requests made on the way from one wire to a later one, each with its answer. -/
def answered (w w' : Wire) : List (Request × Except String Response) :=
  (w.since w').mapIdx fun i r => (r, (w.nth i).answer)

theorem mem_since_iff {r : Request} :
    r ∈ w.since w' ↔ ∃ answer, (r, answer) ∈ w.answered w' := by
  constructor
  · intro h
    obtain ⟨i, hi, rfl⟩ := List.getElem_of_mem h
    exact ⟨(w.nth i).answer, List.mem_mapIdx.mpr ⟨i, hi, rfl⟩⟩
  · rintro ⟨answer, h⟩
    obtain ⟨i, hi, hpair⟩ := List.mem_mapIdx.mp h
    obtain ⟨rfl, -⟩ := Prod.mk.inj hpair
    exact List.getElem_mem hi

theorem answered_after (w : Wire) (r : Request) :
    w.answered (w.after r) = [(r, w.upcoming.answer)] := by
  have hsince : w.since (w.after r) = [r] := since_of_sent rfl
  rw [answered, hsince, ← nth_zero]
  rfl

theorem answered_after_after (w : Wire) (r r' : Request) :
    w.answered ((w.after r).after r') =
      [(r, w.upcoming.answer), (r', (w.after r).upcoming.answer)] := by
  have hsince : w.since ((w.after r).after r') = [r, r'] := by
    apply since_of_sent
    simp [after]
  rw [answered, hsince, ← nth_zero, ← nth_zero, ← nth_succ]
  rfl

/-- The answer is a reply that gives out a session of this id. -/
def Gives (answer : Except String Response) (id : String) : Prop :=
  ∃ reply connectionId, replyOf answer = .ok reply ∧ reply.Grants id connectionId

end Wire

namespace Manager

variable {u d n pw id : String} {m m₁ : Manager} {key : SessionKey}

/-- Among requests with their answers is one that sends the password for a key, and is given a
session of this id. -/
def Issued (key : SessionKey) (pw id : String)
    (answered : List (Request × Except String Response)) : Prop :=
  ∃ url form answer,
    serverPath key.serverUrl ["database", key.database, "username", key.username, "login"] =
      .ok url ∧
    ("password", pw) ∈ form ∧ (.post url form, answer) ∈ answered ∧ Wire.Gives answer id

theorem not_issued {w w' : Wire} (h : ∀ url form, .post url form ∉ w.since w') :
    ¬Issued key pw id (w.answered w') := by
  rintro ⟨url, form, answer, -, -, hmem, -⟩
  exact h url form (Wire.mem_since_iff.mpr ⟨answer, hmem⟩)

/-- The password is answered with what comes after the answer that refused the cached session, if
that was asked for. -/
theorem Asking.mem_answered_iff (h : Asking u d n m m₁) {url url' : String} {form form' : Form}
    {answer : Except String Response} :
    (.post url form, answer) ∈ m.wire.answered (m₁.wire.after (.post url' form')) ↔
      url = url' ∧ form = form' ∧ answer = m₁.wire.upcoming.answer := by
  cases h with
  | uncached hfind =>
    rw [Wire.answered_after]
    simp [and_assoc]
  | refused h =>
    obtain ⟨url, reply, -, rfl, -⟩ := h.exists_reply
    rw [Wire.answered_after_after]
    simp [and_assoc]

theorem gives_iff {r : Request} (hr : passwordRequest u d n pw = .ok r) (w : Wire) :
    Wire.Gives w.upcoming.answer id ↔
      ∃ s, ((passwordLogin u d n pw).run w).1 = .ok s ∧ s.sessionId = id := by
  rw [run_passwordLogin_ok hr]
  constructor
  · rintro ⟨reply, connectionId, hreply, hgrants⟩
    have hs : sessionOf u d n reply = .ok ⟨u, d, n, id, connectionId⟩ :=
      sessionOf_eq_ok_iff.mpr ⟨rfl, hgrants⟩
    refine ⟨⟨u, d, n, id, connectionId⟩, ?_, rfl⟩
    simp only [hreply, Except.bind, hs]
  · rintro ⟨s, hs, rfl⟩
    obtain ⟨reply, hreply, hs⟩ := exists_of_bind_eq_ok hs
    exact ⟨reply, s.connectionId, hreply, (sessionOf_eq_ok_iff.mp hs).2⟩

/-- A login that came to `r` and led to a wire returned what was given out for it. -/
def ReturnsIssue (u d n pw : String) (w : Wire) (r : Except Error Session) (w' : Wire) : Prop :=
  ∀ id, Issued ⟨u, n, d⟩ pw id (w.answered w') ↔
    (∃ s, r = .ok s ∧ s.sessionId = id) ∧ ∃ url form, .post url form ∈ w.since w'

theorem returnsIssue_of_not_mem {w w' : Wire} (h : ∀ url form, .post url form ∉ w.since w')
    (r : Except Error Session) : ReturnsIssue u d n pw w r w' := by
  intro id
  constructor
  · intro hissued
    exact absurd hissued (not_issued h)
  · rintro ⟨-, url, form, hmem⟩
    exact absurd hmem (h url form)

theorem returnsIssue_of_asking (h : Asking u d n m m₁) (pw : String) :
    ReturnsIssue u d n pw m.wire ((passwordLogin u d n pw).run m₁.wire).1
      ((passwordLogin u d n pw).run m₁.wire).2 := by
  cases hr : passwordRequest u d n pw with
  | error e =>
    rw [run_passwordLogin_error hr]
    apply returnsIssue_of_not_mem
    obtain ⟨resumes, hsent, hresumes, -⟩ := h.exists_resumes
    rw [Wire.since_of_sent hsent]
    exact hresumes.not_mem_post
  | ok r =>
    obtain ⟨url, hurl, rfl⟩ := exists_url_of_passwordRequest hr
    intro id
    rw [← gives_iff hr, run_passwordLogin_ok hr]
    constructor
    · rintro ⟨url', form, answer, -, -, hmem, hgives⟩
      obtain ⟨-, -, rfl⟩ := h.mem_answered_iff.mp hmem
      exact ⟨hgives, url', form, Wire.mem_since_iff.mpr ⟨_, hmem⟩⟩
    · rintro ⟨hgives, -⟩
      refine ⟨url, loginForm pw, m₁.wire.upcoming.answer, hurl, ?_, ?_, hgives⟩
      · exact List.mem_cons_self
      · exact h.mem_answered_iff.mpr ⟨rfl, rfl, rfl⟩

/-- What a login that sends the password returns is what the reply gives out. -/
theorem returnsIssue_login (u d n pw : String) (m : Manager) :
    ReturnsIssue u d n pw m.wire ((login u d n pw).run m).1 ((login u d n pw).run m).2.wire := by
  have hcases := login_cases u d n pw m
  generalize (login u d n pw).run m = r at hcases ⊢
  cases hcases with
  | incomplete h =>
    apply returnsIssue_of_not_mem
    rw [Wire.since_self]
    simp
  | resumed hfind hresume | stuck hfind hresume hserver =>
    apply returnsIssue_of_not_mem
    obtain ⟨resumes, hsent, hresumes⟩ := exists_resumes hfind
    rw [hresume] at hsent
    rw [Wire.since_of_sent hsent]
    exact hresumes.not_mem_post
  | failed hasking hlogin | fresh hasking hlogin =>
    have hreturns := returnsIssue_of_asking hasking pw
    rwa [hlogin] at hreturns

end Manager

end RemoteSql
