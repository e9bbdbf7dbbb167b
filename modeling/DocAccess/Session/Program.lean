import DocAccess.Log
import DocAccess.Session.Call

/-!
# Programs

What a request does, as data: it writes log events, makes calls one at a time, goes on with how
each call ended, and finally has a result. A program says nothing about time or about the
repository that answers; `Session/Run` does.
-/
namespace DocAccess

/-- The remaining steps of a request with a result in `α`. -/
inductive Program (α : Type) where
  | done (result : α)
  | log (event : Event) (rest : Program α)
  | call (c : Call) (next : Ended c.Answer → Program α)

namespace Program

/-- Goes on with the result. -/
def bind (p : Program α) (f : α → Program β) : Program β :=
  match p with
  | done a => f a
  | log e rest => .log e (rest.bind f)
  | call c next => .call c fun ended => (next ended).bind f

/-- Changes the result. -/
def map (f : α → β) (p : Program α) : Program β := p.bind fun a => .done (f a)

/-- Writes events in order, then goes on. -/
def logAll (events : List Event) (rest : Program α) : Program α :=
  events.foldr log rest

@[simp] theorem done_bind (a : α) (f : α → Program β) : (done a).bind f = f a := rfl

@[simp] theorem log_bind (e : Event) (p : Program α) (f : α → Program β) :
    (log e p).bind f = log e (p.bind f) := rfl

@[simp] theorem call_bind (c : Call) (next : Ended c.Answer → Program α) (f : α → Program β) :
    (call c next).bind f = call c fun ended => (next ended).bind f := rfl

/-- Binding is associative. -/
theorem bind_assoc (p : Program α) (f : α → Program β) (g : β → Program γ) :
    (p.bind f).bind g = p.bind fun a => (f a).bind g := by
  induction p with
  | done a => rfl
  | log e rest ih => simp only [log_bind, ih]
  | call c next ih => simp only [call_bind, ih]

end Program
end DocAccess
