import DocAccess.Repository.Memory
import DocAccess.Proofs.Session.Turns

/-!
# Sessions over a table

A call on a session of a `Memory` neither reads nor changes anything but that session. So a
program that keeps to one session goes on as it would over that session alone, whatever its
number is, whatever becomes of the other sessions, and whatever becomes of the table.
-/
namespace DocAccess

namespace PermissionTable

/-- A principal has the documents that it was given. -/
theorem find?_put_self (t : PermissionTable) (principal : Text) (docIds : List Text) :
    (t.put principal docIds).find? principal = some docIds := by
  induction t with
  | nil => simp [put, find?]
  | cons e rest ih =>
    obtain ⟨other, visible⟩ := e
    by_cases he : other = principal
    · simp [put, find?, he]
    · have hne : (principal == other) = false := beq_false_of_ne (Ne.symm he)
      simpa [put, find?, he, List.lookup_cons, hne] using ih

/-- What one principal was given leaves the others as they are. -/
theorem find?_put_ne (t : PermissionTable) {principal other : Text} (h : other ≠ principal)
    (docIds : List Text) : (t.put principal docIds).find? other = t.find? other := by
  induction t with
  | nil => simp [put, find?, List.lookup_cons, beq_false_of_ne h]
  | cons e rest ih =>
    obtain ⟨key, visible⟩ := e
    by_cases hkey : key = principal
    · subst hkey
      simp [put, find?, List.lookup_cons, beq_false_of_ne h]
    · simp only [put, hkey, if_false, find?, List.lookup_cons] at ih ⊢
      rw [ih]

/-- A principal that is known stays known when documents are hidden from it. -/
theorem find?_revoke_self {t : PermissionTable} {principal : Text} {visible : List Text}
    (h : t.find? principal = some visible) (docIds : List Text) :
    (t.revoke principal docIds).find? principal =
      some (visible.filter fun id => !docIds.contains id) := by
  rw [revoke, h]
  exact find?_put_self _ _ _

end PermissionTable

namespace MemorySession

/-- A session as it is opened over a table. -/
def fresh (t : PermissionTable) : MemorySession := ⟨t, none, false, 0⟩

/-- A single session as a repository: calls act on it whatever number they name, and no other
session can be opened. -/
def alone (name : String) : Repository MemorySession where
  name := name
  start
    | .openSession, s => .atOnce s (.error (Memory.unknownSession 0)) []
    | .setTimeout .., s => .atOnce s (.ok ()) []
    | .impersonate _ username domain, s =>
      .atOnce (s.impersonate name username domain).2 (s.impersonate name username domain).1 []
    | .query _ request, s => .atOnce (s.query name request).2 (.ok (s.query name request).1) []
    | .closeSession _, s => .atOnce s.close (.ok ()) []

end MemorySession

namespace Memory

variable {α : Type} {name : String} {m : Memory} {number : Nat} {s : MemorySession}

/-- No call on a table waits. -/
theorem atOnce_repository (name : String) : (repository name).AtOnce := by
  have hsession : ∀ {β : Type} (m : Memory) (number : Nat)
      (f : MemorySession → Except Fault β × MemorySession),
      (m.onSession number f).wait = .immediate := by
    intro β m number f
    unfold onSession
    cases m.sessions[number]? <;> rfl
  intro c m
  cases c with
  | openSession => rfl
  | setTimeout => exact hsession _ _ _
  | impersonate => exact hsession _ _ _
  | query => exact hsession _ _ _
  | closeSession => exact hsession _ _ _

/-- A call on a session comes out as it does over the session alone, and changes nothing else. -/
theorem perform_of_session (name : String) {c : Call} (hc : c.session? = some number)
    (hs : m.sessions[number]? = some s) :
    ((repository name).perform c m).outcome =
        ((MemorySession.alone name).perform c s).outcome ∧
      ((repository name).perform c m).world =
        { m with sessions :=
            m.sessions.set number ((MemorySession.alone name).perform c s).world } := by
  cases c <;> cases hc
  all_goals
    simp only [Repository.perform, repository, onSession, hs]
    exact ⟨rfl, rfl⟩

variable {P : Call → Prop} {k : Nat} {p : Program α}

/-- The calls of a program on one session leave the session as they leave it alone. -/
theorem eval_of_session (hP : ∀ c, P c → c.session? = some number) (hbound : p.Bounded P k)
    (hs : m.sessions[number]? = some s) :
    (p.eval (repository name) m).1 = (p.eval (MemorySession.alone name) s).1 := by
  induction hbound generalizing m s with
  | done a => rfl
  | log _ ih => exact ih hs
  | @call k c next hc _ ih =>
    obtain ⟨houtcome, hworld⟩ := perform_of_session name (hP c hc) hs
    simp only [Program.eval, houtcome, hworld]
    refine ih _ ?_
    have hlt := (List.getElem?_eq_some_iff.mp hs).1
    simp [hlt]

/-- The calls of a program on one session change nothing but the session. -/
theorem world_eval_of_session (hP : ∀ c, P c → c.session? = some number) (hbound : p.Bounded P k)
    (hs : m.sessions[number]? = some s) :
    (p.eval (repository name) m).2 =
      { m with sessions := m.sessions.set number (p.eval (MemorySession.alone name) s).2 } := by
  induction hbound generalizing m s with
  | done a =>
    obtain ⟨hlt, rfl⟩ := List.getElem?_eq_some_iff.mp hs
    simp [Program.eval]
  | log _ ih => exact ih hs
  | @call k c next hc _ ih =>
    obtain ⟨houtcome, hworld⟩ := perform_of_session name (hP c hc) hs
    have hlt := (List.getElem?_eq_some_iff.mp hs).1
    have hset : (m.sessions.set number ((MemorySession.alone name).perform c s).world)[number]? =
        some ((MemorySession.alone name).perform c s).world := by simp [hlt]
    simp only [Program.eval, houtcome, hworld]
    rw [ih _ hset, List.set_set]

/-- The next call of a program on one session leaves what the session alone would make of the
rest, and changes nothing else. -/
theorem advance_of_session (hP : ∀ c, P c → c.session? = some number) (hbound : p.Bounded P k)
    (hs : m.sessions[number]? = some s) {deed : Deed Memory} {m' : Memory} {rest : Program α}
    (hadvance : p.advance? (repository name) m = some (deed, m', rest)) :
    ∃ s', m' = { m with sessions := m.sessions.set number s' } ∧
      rest.eval (MemorySession.alone name) s' = p.eval (MemorySession.alone name) s := by
  induction hbound with
  | done a => cases hadvance
  | log _ ih => exact ih hadvance
  | @call k c next hc _ _ =>
    obtain ⟨houtcome, hworld⟩ := perform_of_session name (hP c hc) hs
    simp only [Program.advance?, Option.some.injEq, Prod.mk.injEq] at hadvance
    obtain ⟨-, rfl, rfl⟩ := hadvance
    refine ⟨_, hworld, ?_⟩
    rw [houtcome]
    rfl

end Memory
end DocAccess
