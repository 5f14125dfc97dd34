import Mathlib
import RemoteSql.Proofs.Session.Fallback
import RemoteSql.Proofs.Url.Parts

/-!
# Addresses of requests

Ids, names and parameters go into the path of a request as segments below the server's URL. Whatever
they hold, the request leads to them and to nothing else: each is one segment of the path, from which
it is decoded, and requests for different ones have different paths.
-/

namespace RemoteSql

open Url (LeadsBelow parts)
open Url.Path (Kept)

/-- What a name has between its slashes, where that is something. -/
def nameParts (name : String) : List String :=
  ((name.toList.splitOn '/').filter (· ≠ [])).map String.ofList

/-- Where the request for an action goes, below the server's URL: to the connection of the session
and on to the parts of the action's name, and to the parameter as it is, if there is one. -/
def actionPath (s : Session) (action : String) (param : Option String) : List String :=
  ["session", s.sessionId, "connection", s.connectionId] ++ nameParts action ++ param.toList

/-- The segments of every request below a server are found again in the text of its URL. -/
structure KeepsSegments (base : String) (u : Url) : Prop where
  action : ∀ (s : Session) (action : String) (param : Option String), s.serverUrl = base →
    (∀ segment ∈ actionPath s action param, Kept segment) →
    ∃ text, s.actionUrl action param = .ok text ∧ LeadsBelow u (actionPath s action param) text
  login : ∀ (database username : String), Kept database → Kept username →
    ∃ text, serverPath base ["database", database, "username", username, "login"] = .ok text ∧
      LeadsBelow u ["database", database, "username", username, "login"] text ∧
      ∀ (password : String) (w : Wire),
        ((Manager.passwordLogin base database username password).run w).2 =
          w.after (.post text (Manager.loginForm password))
  /-- A blank id has a URL as well, but it is never asked for. -/
  resumption : ∀ (id : String), Kept id →
    ∃ text, serverPath base ["session", id, "get_connection"] = .ok text ∧
      LeadsBelow u ["session", id, "get_connection"] text ∧
      (Text.isAllBlank id = false → ∀ (database username : String) (w : Wire),
        ((Manager.resume base database username id).run w).2 = w.after (.get text))
  distinct : ∀ (s s' : Session) (action action' : String) (param param' : Option String)
    (text text' : String), s.serverUrl = base → s'.serverUrl = base →
    (∀ segment ∈ actionPath s action param, Kept segment) →
    (∀ segment ∈ actionPath s' action' param', Kept segment) →
    s.actionUrl action param = .ok text → s'.actionUrl action' param' = .ok text' →
    (parts text).path = (parts text').path →
    s.sessionId = s'.sessionId ∧ s.connectionId = s'.connectionId ∧
      nameParts action ++ param.toList = nameParts action' ++ param'.toList
  /-- Whatever the requests are, they have the same path only if the same segments lead there. -/
  segments_eq : ∀ (segments segments' : List String) (text text' : String),
    LeadsBelow u segments text → LeadsBelow u segments' text' →
    (parts text).path = (parts text').path → segments = segments'

theorem serverPath_ok {base : String} {u : Url} (hparse : Url.parse base = .ok u)
    (h : u.hasSegments = true) (segments : List String) :
    serverPath base segments = .ok (u.extend segments).render := by
  rw [serverPath, hparse]
  exact if_pos h

theorem segments_eq_actionPath (s : Session) (action : String) (param : Option String) :
    s.segments action param = actionPath s action param := by
  have hparts : Session.actionSegments action = nameParts action := by
    unfold Session.actionSegments nameParts
    rw [Text.splitAt_eq_splitOn]
    refine congrArg (List.map String.ofList) (List.filter_congr ?_)
    intro part _
    cases part <;> rfl
  rw [Session.segments, actionPath, hparts]

theorem eq_of_actionPath_eq {s s' : Session} {action action' : String}
    {param param' : Option String} (h : actionPath s action param = actionPath s' action' param') :
    s.sessionId = s'.sessionId ∧ s.connectionId = s'.connectionId ∧
      nameParts action ++ param.toList = nameParts action' ++ param'.toList := by
  simpa [actionPath] using h

/-- Below a server's URL of the web every request is made, and leads to its segments. -/
theorem keepsSegments {base : String} {u : Url} (hparse : Url.parse base = .ok u)
    (hweb : u.scheme = "http" ∨ u.scheme = "https") (hroot : u.path ≠ ['/', '/']) :
    KeepsSegments base u := by
  have hdivided := Url.divided_of_parse hparse hweb
  have hpath := serverPath_ok hparse hdivided.hasSegments
  have hleads : ∀ {segment : String} {segments : List String}, segment ≠ "" →
      (∀ s ∈ segment :: segments, Kept s) →
      LeadsBelow u (segment :: segments) (u.extend (segment :: segments)).render :=
    fun hsegment hkept => Url.leadsBelow_render hdivided hweb hroot hsegment hkept
  have haction : ∀ (s : Session) (action : String) (param : Option String), s.serverUrl = base →
      (∀ segment ∈ actionPath s action param, Kept segment) →
      ∃ text, s.actionUrl action param = .ok text ∧
        LeadsBelow u (actionPath s action param) text := by
    rintro s action param rfl hkept
    refine ⟨_, ?_, hleads (by decide) hkept⟩
    rw [Session.actionUrl, segments_eq_actionPath]
    exact hpath _
  constructor
  · exact haction
  · intro database username hdatabase husername
    refine ⟨_, hpath _, hleads (by decide) ?_, ?_⟩
    · have hdatabaseWord : Kept "database" := by decide
      have husernameWord : Kept "username" := by decide
      have hloginWord : Kept "login" := by decide
      simp [*]
    · intro password w
      have hrequest : Manager.passwordRequest base database username password = .ok (.post
          (u.extend ["database", database, "username", username, "login"]).render
          (Manager.loginForm password)) := by
        rw [Manager.passwordRequest, hpath]
        rfl
      rw [Manager.run_passwordLogin_ok hrequest]
  · intro id hkept
    refine ⟨_, hpath _, hleads (by decide) ?_, ?_⟩
    · have hsessionWord : Kept "session" := by decide
      have hconnectionWord : Kept "get_connection" := by decide
      simp [*]
    · intro hid database username w
      have hrequest := Manager.resumeRequest_of_serverPath (Url.isAllBlank_of_parse hparse) hid
        (hpath ["session", id, "get_connection"])
      rw [Manager.run_resume_ok hrequest]
  · intro s s' action action' param param' text text' hs hs' hkept hkept' htext htext' heq
    obtain ⟨_, hurl, hbelow⟩ := haction s action param hs hkept
    obtain ⟨_, hurl', hbelow'⟩ := haction s' action' param' hs' hkept'
    rw [hurl] at htext
    rw [hurl'] at htext'
    cases htext
    cases htext'
    exact eq_of_actionPath_eq (hbelow.segments_eq hbelow' heq)
  · intro segments segments' text text' h h' heq
    exact h.segments_eq h' heq

/-- Ids with a slash and with an encoded dot, and a parameter of marks and a letter beyond ASCII. -/
theorem keepsSegments_marks :
    LeadsBelow
      { scheme := "http", authority := some ['h'], path := "/db/".toList
        query := some "x=1".toList, fragment := some ['y'] }
      ["session", "a/b", "connection", "%2e", "m", "t", "ü?#\\"]
      "http://h/db/session/a%2Fb/connection/%252e/m/t/%C3%BC%3F%23%5C?x=1#y" := by
  let s : Session := ⟨"http://h/db/?x=1#y", "d", "n", "a/b", "%2e"⟩
  have hparse : Url.parse s.serverUrl = .ok
      { scheme := "http", authority := some ['h'], path := "/db/".toList
        query := some "x=1".toList, fragment := some ['y'] } :=
    eq_ok_of_toOption (by decide +kernel)
  have hkept : ∀ segment ∈ actionPath s "m//t" (some "ü?#\\"), Kept segment := by decide +kernel
  obtain ⟨text, htext, hleads⟩ := (keepsSegments hparse (Or.inl rfl) (by decide)).action s "m//t"
    (some "ü?#\\") rfl hkept
  have hurl : s.actionUrl "m//t" (some "ü?#\\") =
      .ok "http://h/db/session/a%2Fb/connection/%252e/m/t/%C3%BC%3F%23%5C?x=1#y" :=
    eq_ok_of_toOption (by decide +kernel)
  have hpath : actionPath s "m//t" (some "ü?#\\") =
      ["session", "a/b", "connection", "%2e", "m", "t", "ü?#\\"] := by decide +kernel
  rw [hurl] at htext
  obtain rfl := Except.ok.inj htext
  rw [hpath] at hleads
  exact hleads

end RemoteSql
