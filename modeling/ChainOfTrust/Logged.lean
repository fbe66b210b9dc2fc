import ChainOfTrust.Event

/-!
# Computations that report events

A `Logged α` is the events reported, in order, and a value or the error that ended the work. Events
reported before an error are kept.
-/

namespace ChainOfTrust

set_option autoImplicit false

structure Logged (α : Type) where
  events : List Event
  outcome : Except TrustError α

namespace Logged

variable {α β : Type}

def ofExcept (r : Except TrustError α) : Logged α := ⟨[], r⟩

def emit (e : Event) : Logged Unit := ⟨[e], .ok ()⟩

/-- The same work with more events in front. -/
def after (events : List Event) (x : Logged α) : Logged α := ⟨events ++ x.events, x.outcome⟩

def map (f : α → β) (x : Logged α) : Logged β := ⟨x.events, x.outcome.map f⟩

def bind (x : Logged α) (f : α → Logged β) : Logged β :=
  match x.outcome with
  | .error fault => ⟨x.events, .error fault⟩
  | .ok a => (f a).after x.events

instance : Monad Logged where
  pure a := ofExcept (.ok a)
  bind := bind

instance : MonadLift (Except TrustError) Logged := ⟨ofExcept⟩

@[simp] theorem pure_eq (a : α) : (pure a : Logged α) = ⟨[], .ok a⟩ := rfl

theorem bind_ok {x : Logged α} {a : α} (h : x.outcome = .ok a) (f : α → Logged β) :
    x >>= f = (f a).after x.events := by
  show bind x f = _
  simp [bind, h]

theorem bind_error {x : Logged α} {fault : TrustError} (h : x.outcome = .error fault)
    (f : α → Logged β) : x >>= f = ⟨x.events, .error fault⟩ := by
  show bind x f = _
  simp [bind, h]

@[simp] theorem after_nil (x : Logged α) : x.after [] = x := rfl

@[simp] theorem after_after (s t : List Event) (x : Logged α) :
    (x.after t).after s = x.after (s ++ t) := by
  simp [after, List.append_assoc]

end Logged

end ChainOfTrust
