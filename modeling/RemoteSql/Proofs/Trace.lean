import Mathlib

/-!
# Traces

A system that is called again and again leaves a trace: where it stands, and what happened at each
call. What every call preserves holds after any number of calls, and what is remembered of the past
is mostly whether one kind of event has happened since another.
-/

namespace RemoteSql

section Since

variable {ε : Type}

/-- A list cut before one of its entries is cut before its last one or within what precedes that. -/
theorem concat_eq_append_cons {events pre post : List ε} {e last : ε}
    (h : events ++ [last] = pre ++ e :: post) :
    pre = events ∧ e = last ∧ post = [] ∨
      ∃ post', post = post' ++ [last] ∧ events = pre ++ e :: post' := by
  rcases List.eq_nil_or_concat' post with rfl | ⟨post', last', rfl⟩
  · obtain ⟨hpre, he⟩ := List.append_inj' h rfl
    exact Or.inl ⟨hpre.symm, (List.singleton_inj.mp he).symm, rfl⟩
  · have h' : events ++ [last] = (pre ++ e :: post') ++ [last'] := by simpa using h
    obtain ⟨hevents, hlast⟩ := List.append_inj' h' rfl
    exact Or.inr ⟨post', by rw [List.singleton_inj.mp hlast], hevents⟩

/-- Something happened that is `P`, and nothing after it that is `Q`. -/
def Since (P Q : ε → Prop) (events : List ε) : Prop :=
  ∃ pre e post, events = pre ++ e :: post ∧ P e ∧ ∀ e' ∈ post, ¬Q e'

variable {P Q : ε → Prop} {events : List ε}

theorem not_since_nil : ¬Since P Q [] := by
  rintro ⟨pre, e, post, h, -⟩
  simp at h

theorem since_concat (e : ε) :
    Since P Q (events ++ [e]) ↔ P e ∨ Since P Q events ∧ ¬Q e := by
  constructor
  · rintro ⟨pre, e', post, h, hP, hQ⟩
    rcases concat_eq_append_cons h with ⟨-, rfl, -⟩ | ⟨post, rfl, rfl⟩
    · exact Or.inl hP
    · exact Or.inr ⟨⟨pre, e', post, rfl, hP, fun x hx => hQ x (by simp [hx])⟩, hQ e (by simp)⟩
  · rintro (hP | ⟨⟨pre, e', post, rfl, hP, hQ⟩, he⟩)
    · exact ⟨events, e, [], rfl, hP, by simp⟩
    · refine ⟨pre, e', post ++ [e], by simp, hP, ?_⟩
      intro x hx
      rcases List.mem_append.mp hx with hx | hx
      · exact hQ x hx
      · rwa [List.mem_singleton.mp hx]

/-- What every event either brings about or undoes, or leaves as it is. -/
theorem iff_since {R : List ε → Prop} (hnil : ¬R [])
    (hconcat : ∀ events e, R (events ++ [e]) ↔ P e ∨ R events ∧ ¬Q e) (events : List ε) :
    R events ↔ Since P Q events := by
  induction events using List.reverseRecOn with
  | nil => exact iff_of_false hnil not_since_nil
  | append_singleton events e ih => rw [hconcat, since_concat, ih]

/-- Once it has happened, it has happened since, or the other thing came between. -/
theorem since_or_exists {pre post : List ε} {e : ε} (hP : P e) :
    Since P Q (pre ++ e :: post) ∨ ∃ e' ∈ post, Q e' := by
  by_cases hQ : ∃ e' ∈ post, Q e'
  · exact Or.inr hQ
  · exact Or.inl ⟨pre, e, post, rfl, hP, fun e' he' h => hQ ⟨e', he', h⟩⟩

/-- Of two kinds of event that exclude each other, only one has happened since the other. -/
theorem Since.not_since (hne : ∀ e, P e → ¬Q e) (h : Since P Q events) : ¬Since Q P events := by
  induction events using List.reverseRecOn with
  | nil => exact absurd h not_since_nil
  | append_singleton events e ih =>
    rw [since_concat] at h ⊢
    have he := hne e
    tauto

theorem Since.exists_mem (h : Since P Q events) : ∃ e ∈ events, P e := by
  obtain ⟨pre, e, post, rfl, hP, -⟩ := h
  exact ⟨e, by simp, hP⟩

end Since

/-- Where a system stands, and what happened on the way, the latest last. -/
structure Trace (σ ε : Type) where
  state : σ
  events : List ε := []

namespace Trace

variable {σ κ ε : Type} (step : κ → σ → ε × σ)

def next (t : Trace σ ε) (k : κ) : Trace σ ε where
  state := (step k t.state).2
  events := t.events ++ [(step k t.state).1]

theorem next_of_step {step : κ → σ → ε × σ} {t : Trace σ ε} {k : κ} {e : ε} {s : σ}
    (h : step k t.state = (e, s)) : next step t k = { state := s, events := t.events ++ [e] } := by
  rw [next, h]

/-- What calls, one after the other, make of a system. -/
def run (s : σ) (ks : List κ) : Trace σ ε := ks.foldl (next step) { state := s }

theorem run_concat (s : σ) (ks : List κ) (k : κ) :
    run step s (ks ++ [k]) = next step (run step s ks) k := by
  simp [run]

/-- Later calls go on from where earlier ones have led. -/
theorem run_append (s : σ) (ks ks' : List κ) :
    run step s (ks ++ ks') =
      { state := (run step (run step s ks).state ks').state
        events := (run step s ks).events ++ (run step (run step s ks).state ks').events } := by
  induction ks' using List.reverseRecOn with
  | nil => simp [run]
  | append_singleton ks' k ih =>
    rw [← List.append_assoc, run_concat, ih, run_concat]
    simp [next]

theorem run_cons (s : σ) (k : κ) (ks : List κ) :
    run step s (k :: ks) =
      { state := (run step (step k s).2 ks).state
        events := (step k s).1 :: (run step (step k s).2 ks).events } :=
  run_append step s [k] ks

variable {step} {s : σ}

theorem run_induction {P : Trace σ ε → Prop} (init : P { state := s })
    (next : ∀ t k, P t → P (next step t k)) (ks : List κ) : P (run step s ks) := by
  induction ks using List.reverseRecOn with
  | nil => exact init
  | append_singleton ks k ih =>
    rw [run_concat]
    exact next _ k ih

/-- Each event is what a call did where the calls before it had led. -/
theorem exists_call {ks : List κ} {pre post : List ε} {e : ε}
    (h : (run step s ks).events = pre ++ e :: post) :
    ∃ ks' k, (run step s ks').events = pre ∧ e = (step k (run step s ks').state).1 := by
  -- calls are taken off from the end, until the last one left is that of the event
  induction ks using List.reverseRecOn generalizing post with
  | nil =>
    change [] = pre ++ e :: post at h
    simp at h
  | append_singleton ks k ih =>
    rw [run_concat] at h
    change (run step s ks).events ++ [(step k (run step s ks).state).1] = pre ++ e :: post at h
    rcases concat_eq_append_cons h with ⟨hpre, he, -⟩ | ⟨post, -, h⟩
    · exact ⟨ks, k, hpre.symm, he⟩
    · exact ih h

end Trace

end RemoteSql
