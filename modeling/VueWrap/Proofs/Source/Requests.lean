import Mathlib.Tactic.ByContra
import VueWrap.Source

/-! # What loading asks for

Loading a source asks the network once if the source is an address on the web
that names a host, and never otherwise. Whatever the network answers, it is not
asked again.
-/

namespace VueWrap

def Event.request? : Event → Option (String × Value)
  | .request url timeout => some (url, timeout)
  | .note _ => none

namespace Traced

variable {α β : Type}

def requests (x : Traced Event α) : List (String × Value) := x.trace.filterMap Event.request?

theorem requests_bind (x : Traced Event α) (f : α → Traced Event β) :
    (x >>= f).requests = x.requests ++ match x.result with
      | .error _ => []
      | .ok a => (f a).requests := by
  rw [requests, trace_bind, List.filterMap_append]
  cases x.result <;> rfl

theorem requests_liftM_bind (r : Except Failure α) (f : α → Traced Event β) :
    ((liftM r : Traced Event α) >>= f).requests = match r with
      | .error _ => []
      | .ok a => (f a).requests := requests_bind _ _

/-- Records are no requests. -/
@[simp] theorem requests_retrace_note (x : Traced Log.Record α) :
    (x.retrace Event.note).requests = [] := by
  rw [requests, List.filterMap_eq_nil_iff]
  intro e he
  obtain ⟨r, -, rfl⟩ := List.mem_map.mp he
  rfl

end Traced

namespace Source

variable {t : FileTree} {net : Network} {timeout source : Value} {text : String} {a : Address}

/-- The text is an address on the web that names a host. -/
def IsFetched (text : String) : Prop :=
  ∃ a, Address.ofString text = .ok a ∧ a.scheme ∈ Address.webSchemes ∧ a.host ≠ ""

theorem isWeb_of_ok (h : Address.ofString text = .ok a) :
    Address.isWeb text = .ok (Address.webSchemes.contains a.scheme) := by
  rw [Address.isWeb, h]
  rfl

theorem requests_readFile (path : String) : (readFile t path).requests = [] := by
  unfold readFile
  dsimp only
  split <;> rfl

theorem requests_fetch_of_error {e : Failure} (h : Address.ofString text = .error e) :
    (fetch net timeout text).requests = [] := by
  rw [fetch, Traced.requests_liftM_bind, h]

theorem requests_fetch (h : Address.ofString text = .ok a) :
    (fetch net timeout text).requests = if a.host = "" then [] else [(text, timeout)] := by
  rw [fetch, Traced.requests_liftM_bind, h]
  simp only [String.isEmpty_iff]
  split <;> rfl

theorem requests_documentOf_of_web (h : Address.isWeb source.display = .ok true) :
    (documentOf t net timeout source).requests = (fetch net timeout source.display).requests := by
  unfold documentOf
  simp only [Traced.requests_liftM_bind, h, if_true]

theorem requests_documentOf_of_not (h : Address.isWeb source.display ≠ .ok true) :
    (documentOf t net timeout source).requests = [] := by
  unfold documentOf
  simp only [Traced.requests_liftM_bind]
  split
  · rfl
  · rename_i web hweb
    cases web with
    | true => exact absurd hweb h
    | false =>
      rw [if_neg Bool.false_ne_true]
      cases source with
      | str path => exact requests_readFile path
      | _ => rfl

/-- After the document nothing is asked. -/
theorem requests_load_eq :
    (load t net timeout source).requests = (documentOf t net timeout source).requests := by
  simp only [load, Traced.requests_bind]
  split
  · exact List.append_nil _
  · split <;> exact List.append_nil _

theorem requests_load_of_fetched (h : IsFetched source.display) :
    (load t net timeout source).requests = [(source.display, timeout)] := by
  obtain ⟨a, ha, hscheme, hhost⟩ := h
  have hweb : Address.isWeb source.display = .ok true := by
    rw [isWeb_of_ok ha, List.contains_iff_mem.mpr hscheme]
  rw [requests_load_eq, requests_documentOf_of_web hweb, requests_fetch ha, if_neg hhost]

theorem requests_load_of_not (h : ¬ IsFetched source.display) :
    (load t net timeout source).requests = [] := by
  rw [requests_load_eq]
  by_cases hweb : Address.isWeb source.display = .ok true
  · rw [requests_documentOf_of_web hweb]
    cases ha : Address.ofString source.display with
    | error e => exact requests_fetch_of_error ha
    | ok a =>
      rw [isWeb_of_ok ha, Except.ok.injEq] at hweb
      have hscheme := List.contains_iff_mem.mp hweb
      have hhost : a.host = "" := by
        by_contra hne
        exact h ⟨a, ha, hscheme, hne⟩
      rw [requests_fetch ha, if_pos hhost]
  · exact requests_documentOf_of_not hweb

end Source

end VueWrap
