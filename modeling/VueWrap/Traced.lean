import VueWrap.Log

/-! # Traced computations

A computation may leave a trace, whether it succeeds or fails: records for the
log, requests to the network, actions on files. `Traced` keeps the trace in order
beside the result. By `result_bind` the results alone compose as they do without
a trace, and by `trace_bind` a failure cuts the trace off where it happens.
-/

namespace VueWrap

/-- A result with the trace of the steps to it. -/
structure Traced (ε α : Type) where
  trace : List ε
  result : Except Failure α

namespace Traced

variable {ε ε' α β : Type}

def pure (a : α) : Traced ε α := ⟨[], .ok a⟩

def fail (e : Failure) : Traced ε α := ⟨[], .error e⟩

def lift (r : Except Failure α) : Traced ε α := ⟨[], r⟩

def bind (x : Traced ε α) (f : α → Traced ε β) : Traced ε β :=
  match x.result with
  | .error e => ⟨x.trace, .error e⟩
  | .ok a => ⟨x.trace ++ (f a).trace, (f a).result⟩

instance : Monad (Traced ε) where
  pure := pure
  bind := bind

instance : MonadLift (Except Failure) (Traced ε) where
  monadLift := lift

def emit (e : ε) : Traced ε Unit := ⟨[e], .ok ()⟩

def retrace (f : ε → ε') (x : Traced ε α) : Traced ε' α := ⟨x.trace.map f, x.result⟩

def each (f : α → Traced ε β) : List α → Traced ε (List β)
  | [] => pure []
  | a :: as => do
    let b ← f a
    let bs ← each f as
    return b :: bs

@[ext] theorem ext {x y : Traced ε α} (ht : x.trace = y.trace) (hr : x.result = y.result) :
    x = y := by
  cases x; cases y; cases ht; cases hr; rfl

@[simp] theorem result_pure (a : α) : (Pure.pure a : Traced ε α).result = .ok a := rfl

@[simp] theorem trace_pure (a : α) : (Pure.pure a : Traced ε α).trace = [] := rfl

@[simp] theorem result_lift (r : Except Failure α) : (lift r : Traced ε α).result = r := rfl

@[simp] theorem trace_lift (r : Except Failure α) : (lift r : Traced ε α).trace = [] := rfl

@[simp] theorem result_bind (x : Traced ε α) (f : α → Traced ε β) :
    (x >>= f).result = x.result.bind fun a => (f a).result := by
  show (bind x f).result = _
  unfold bind
  cases x.result <;> rfl

theorem trace_bind (x : Traced ε α) (f : α → Traced ε β) :
    (x >>= f).trace = x.trace ++ match x.result with
      | .error _ => []
      | .ok a => (f a).trace := by
  show (bind x f).trace = _
  unfold bind
  cases x.result <;> simp

@[simp] theorem result_emit (e : ε) : (emit e).result = .ok () := rfl

@[simp] theorem result_retrace (f : ε → ε') (x : Traced ε α) :
    (x.retrace f).result = x.result := rfl

end Traced

end VueWrap
