import DocAccess.Proofs.Repository.Memory
import DocAccess.Proofs.Session.History
import Mathlib.Data.Finset.Basic

/-!
# Histories of a table and its sessions

Documents are granted and revoked, and sessions are opened and used, in any order. What was seen of
the steps tells what the table holds and what each session answers: a session works on the table
as it was when the session was opened, on behalf of the principal that it impersonated last, until
it is closed for good.

## Main definitions

* `Memory.Step`, `Memory.Seen` — steps, and what is seen of them.
* `Memory.entryOf`, `Memory.principal`, `Memory.visible`, `Memory.closed` — what a history tells of
  the table and of a session.
* `Memory.Faithful` — table and sessions are as their history tells.

## Main statements

* `Kept.observe` — a step keeps table and sessions as they are told.
* `sessions_run_own` — a session depends on its own steps only.
* `faithful_of_history` — after all steps table and sessions are as their history tells.
-/
namespace DocAccess

/-! ## Entries of a table -/

namespace PermissionTable

/-- The documents of a principal, as a set; nothing for an unknown one. -/
def idsOf? (t : PermissionTable) (principal : Text) : Option (Finset Text) :=
  (t.find? principal).map List.toFinset

/-- What is granted to a principal is added to what it has. -/
theorem idsOf?_grant (t : PermissionTable) (principal other : Text) (docIds : List Text) :
    (t.grant principal docIds).idsOf? other =
      if other = principal then some ((t.idsOf? other).getD ∅ ∪ docIds.toFinset)
      else t.idsOf? other := by
  unfold idsOf? grant
  by_cases h : other = principal
  · subst h
    rw [find?_put_self, if_pos rfl]
    simp only [Option.map_some, Option.some.injEq]
    ext id
    cases t.find? other <;> simp
  · rw [find?_put_ne t h, if_neg h]

/-- What is revoked from a principal is taken from what it has, if it is known. -/
theorem idsOf?_revoke (t : PermissionTable) (principal other : Text) (docIds : List Text) :
    (t.revoke principal docIds).idsOf? other =
      if other = principal then (t.idsOf? other).map (· \ docIds.toFinset)
      else t.idsOf? other := by
  unfold idsOf?
  by_cases h : other = principal
  · subst h
    rw [if_pos rfl]
    cases hfind : t.find? other with
    | none => simp [revoke, hfind]
    | some visible =>
      rw [find?_revoke_self hfind]
      simp only [Option.map_some, Option.some.injEq]
      ext id
      simp
  · rw [if_neg h]
    unfold revoke
    cases t.find? principal with
    | none => rfl
    | some visible => rw [find?_put_ne t h]

/-- The documents of an identity are those of its qualified name, else of its user name. -/
theorem visibleTo?_map (t : PermissionTable) (i : Identity) :
    (t.visibleTo? i).map List.toFinset = (t.idsOf? i.qualifiedName).or (t.idsOf? i.username) := by
  rw [visibleTo?, Option.map_or]
  rfl

end PermissionTable

/-- A query changes nothing but the count of the queries. -/
theorem MemorySession.snd_query (s : MemorySession) (name : String) (request : QueryRequest) :
    (s.query name request).2 = { s with queriesIssued := s.queriesIssued + 1 } := by
  simp only [query]
  split <;> rfl

/-- An impersonation that does not succeed leaves the session as it is. -/
theorem MemorySession.snd_impersonate {s : MemorySession} {name : String} {username : Text}
    {domain : Option Text} (h : (s.impersonate name username domain).1 ≠ .ok (.ok ())) :
    (s.impersonate name username domain).2 = s := by
  unfold impersonate at h ⊢
  split
  · rfl
  · rename_i hopen
    rw [if_neg hopen] at h
    split
    · rfl
    · rename_i i hi
      rw [hi] at h
      simp only at h
      split
      · rename_i visible hvisible
        rw [hvisible] at h
        exact absurd rfl h
      · rfl

/-- On an open session an impersonation succeeds when its principal has an entry. -/
theorem MemorySession.fst_impersonate {s : MemorySession} (hopen : s.isClosed = false)
    (name : String) {username : Text} {domain : Option Text} {i : Identity}
    (hi : Identity.ofNames? (some username) domain = some i) :
    ∃ result, (s.impersonate name username domain).1 = .ok result ∧
      (result = .ok () ↔ (s.snapshot.visibleTo? i).isSome) := by
  simp only [impersonate, hopen, hi, Bool.false_eq_true, if_false]
  cases s.snapshot.visibleTo? i with
  | none => exact ⟨_, rfl, by simp⟩
  | some visible => exact ⟨_, rfl, by simp⟩

/-- A query brings rows exactly on an open session with a principal. -/
theorem MemorySession.fst_query_eq_ok {s : MemorySession} {name : String} {request : QueryRequest}
    {rows : List Row} :
    (s.query name request).1 = .ok rows ↔ s.isClosed = false ∧ ∃ visible,
      s.visible = some visible ∧
        (request.predicate.values.eraseDups.filter visible.contains).map
          .ofDocument = rows := by
  simp only [query]
  cases s.isClosed <;> cases s.visible <;> simp

namespace Memory

/-! ## Steps and what is seen of them -/

/-- A step on the table or a call. -/
inductive Step where
  | grant (principal : Text) (docIds : List Text)
  | revoke (principal : Text) (docIds : List Text)
  | call (c : Call)

/-- What is seen of a step. -/
inductive Seen where
  | granted (principal : Text) (docIds : List Text)
  | revoked (principal : Text) (docIds : List Text)
  | called (c : Call) (outcome : Except Fault c.Answer)

/-- Makes a step. -/
def observe (name : String) : Step → Memory → Seen × Memory
  | .grant principal docIds, m => (.granted principal docIds, m.grant principal docIds)
  | .revoke principal docIds, m => (.revoked principal docIds, m.revoke principal docIds)
  | .call c, m =>
    let f := (repository name).perform c m
    (.called c f.outcome, f.world)

/-- Whether the step is a call on the session. -/
def Step.isOn (number : Nat) : Step → Bool
  | .call c => c.session? == some number
  | .grant .. | .revoke .. => false

namespace Seen

/-- Whether the step opened a session. -/
def opened : Seen → Bool
  | called .openSession (.ok (.ok _)) => true
  | _ => false

/-- The principal that the step impersonated on the session. -/
def principal? (number : Nat) : Seen → Option Identity
  | called (.impersonate n username domain) (.ok (.ok ())) =>
    if n = number then Identity.ofNames? (some username) domain else none
  | _ => none

/-- Whether the step closed the session. -/
def closes (number : Nat) : Seen → Bool
  | called (.closeSession n) (.ok ()) => n == number
  | _ => false

end Seen

/-- What the table holds for a principal: its grants added to what it had first, and its revokes
taken away from that as long as it is known. -/
def entryOf (t : PermissionTable) (principal : Text) : List Seen → Option (Finset Text)
  | [] => t.idsOf? principal
  | .granted other docIds :: es =>
    if principal = other then some ((entryOf t principal es).getD ∅ ∪ docIds.toFinset)
    else entryOf t principal es
  | .revoked other docIds :: es =>
    if principal = other then (entryOf t principal es).map (· \ docIds.toFinset)
    else entryOf t principal es
  | .called .. :: es => entryOf t principal es

/-- Number of sessions opened. -/
def opens (es : List Seen) : Nat := es.countP Seen.opened

/-- The history up to the opening of a session. -/
def before (number : Nat) : List Seen → List Seen
  | [] => []
  | e :: es => if e.opened ∧ opens es = number then es else before number es

/-- The principal that was impersonated last on a session. -/
def principal (number : Nat) (es : List Seen) : Option Identity :=
  es.findSome? (Seen.principal? number)

/-- What an identity sees in a session: the entry of its qualified name, else of its user name, in
the table as it was when the session was opened. -/
def sees (t : PermissionTable) (number : Nat) (es : List Seen) (i : Identity) :
    Option (Finset Text) :=
  (entryOf t i.qualifiedName (before number es)).or (entryOf t i.username (before number es))

/-- What is visible in a session: what its principal sees. -/
def visible (t : PermissionTable) (number : Nat) (es : List Seen) : Option (Finset Text) :=
  (principal number es).bind (sees t number es)

/-- Whether a session was closed. -/
def closed (number : Nat) (es : List Seen) : Bool := es.any (Seen.closes number)

variable {name : String} {t : PermissionTable} {es : List Seen} {m : Memory} {number : Nat}

/-! ## What a history tells -/

/-- The session is as its history tells. -/
structure Tells (t : PermissionTable) (es : List Seen) (number : Nat) (s : MemorySession) :
    Prop where
  snapshot : ∀ p, s.snapshot.idsOf? p = entryOf t p (before number es)
  visible : s.visible.map List.toFinset = Memory.visible t number es
  principal : s.visible.isSome = (Memory.principal number es).isSome
  isClosed : s.isClosed = closed number es

/-- Table and sessions are as their history tells. -/
structure Kept (t : PermissionTable) (es : List Seen) (m : Memory) : Prop where
  table : ∀ p, m.table.idsOf? p = entryOf t p es
  count : m.sessions.length = opens es
  sessions : ∀ n s, m.sessions[n]? = some s → Tells t es n s
  unopened : ∀ n, opens es ≤ n → Memory.principal n es = none ∧ closed n es = false

theorem opens_cons (e : Seen) (es : List Seen) : opens (e :: es) = opens es + e.opened.toNat := by
  rw [opens, opens, List.countP_cons]
  cases e.opened <;> rfl

theorem principal_cons (number : Nat) (e : Seen) (es : List Seen) :
    principal number (e :: es) = (e.principal? number).or (principal number es) := by
  rw [principal, List.findSome?_cons]
  cases e.principal? number <;> rfl

theorem closed_cons (number : Nat) (e : Seen) (es : List Seen) :
    closed number (e :: es) = (e.closes number || closed number es) := rfl

/-- Nothing has happened before the first step. -/
theorem kept_ofTable (t : PermissionTable) : Kept t [] (ofTable t) where
  table _ := rfl
  count := rfl
  sessions n s hs := by cases hs
  unopened _ _ := ⟨rfl, rfl⟩

/-- A step that is none of the session's tells nothing new of it. -/
theorem Tells.of_foreign {s : MemorySession} (h : Tells t es number s) {e : Seen}
    (hopened : e.opened = true → opens es ≠ number) (hprincipal : e.principal? number = none)
    (hcloses : e.closes number = false) : Tells t (e :: es) number s := by
  have hbefore : before number (e :: es) = before number es :=
    if_neg fun hopening => hopened hopening.1 hopening.2
  have hprincipals : Memory.principal number (e :: es) = Memory.principal number es := by
    rw [principal_cons, hprincipal, Option.none_or]
  refine ⟨?_, ?_, ?_, ?_⟩
  · rw [hbefore]
    exact h.snapshot
  · have hsees : sees t number (e :: es) = sees t number es := by
      funext i
      rw [sees, sees, hbefore]
    rw [Memory.visible, hprincipals, hsees]
    exact h.visible
  · rw [hprincipals]
    exact h.principal
  · rw [closed_cons, hcloses, Bool.false_or]
    exact h.isClosed

/-- A step that opens no session and tells nothing of any keeps the sessions as they are told. -/
theorem Kept.of_table (h : Kept t es m) {e : Seen} (hopened : e.opened = false)
    (hprincipal : ∀ n, e.principal? n = none) (hcloses : ∀ n, e.closes n = false)
    {table : PermissionTable} (htable : ∀ p, table.idsOf? p = entryOf t p (e :: es)) :
    Kept t (e :: es) { m with table } where
  table := htable
  count := by rw [opens_cons, hopened]; exact h.count
  sessions n s hs :=
    (h.sessions n s hs).of_foreign (by simp [hopened]) (hprincipal n) (hcloses n)
  unopened n hn := by
    rw [opens_cons, hopened] at hn
    rw [principal_cons, closed_cons, hprincipal, hcloses]
    exact h.unopened n hn

/-- Opening a session takes a snapshot of the table. -/
theorem Kept.of_opening (h : Kept t es m) (name : String) :
    Kept t ((observe name (.call .openSession) m).1 :: es)
      (observe name (.call .openSession) m).2 := by
  have hseen : (observe name (.call .openSession) m) =
      (.called .openSession (.ok (.ok ⟨m.sessions.length, false⟩)), m.openSession.2) := rfl
  rw [hseen]
  refine ⟨h.table, ?_, ?_, ?_⟩
  · rw [opens_cons, ← h.count]
    simp [openSession, Seen.opened]
  · intro n s hs
    simp only [openSession] at hs
    rcases Nat.lt_trichotomy n m.sessions.length with hlt | rfl | hgt
    · rw [List.getElem?_append_left hlt] at hs
      refine (h.sessions n s hs).of_foreign (fun _ => ?_) rfl rfl
      rw [← h.count]
      omega
    · obtain ⟨hprincipal, hclosed⟩ := h.unopened m.sessions.length h.count.ge
      have hbefore : before m.sessions.length
          (.called .openSession (.ok (.ok ⟨m.sessions.length, false⟩)) :: es) = es :=
        if_pos ⟨rfl, h.count.symm⟩
      rw [List.getElem?_concat_length] at hs
      cases hs
      refine ⟨fun p => ?_, ?_, ?_, ?_⟩
      · rw [hbefore]
        exact h.table p
      · rw [Memory.visible, principal_cons, hprincipal]
        rfl
      · rw [principal_cons, hprincipal]
        rfl
      · rw [closed_cons, hclosed]
        rfl
    · rw [List.getElem?_eq_none (by simp; omega)] at hs
      cases hs
  · intro n hn
    rw [opens_cons] at hn
    rw [principal_cons, closed_cons]
    exact h.unopened n (by omega)

/-- An impersonation that succeeds tells the principal of the session, and any other tells
nothing. -/
theorem Tells.of_impersonation {s : MemorySession} (h : Tells t es number s)
    (name : String) (username : Text) (domain : Option Text) :
    Tells t (.called (.impersonate number username domain) (s.impersonate name username domain).1 ::
      es) number (s.impersonate name username domain).2 := by
  unfold MemorySession.impersonate
  split
  · exact h.of_foreign (by simp [Seen.opened]) rfl rfl
  · split
    · exact h.of_foreign (by simp [Seen.opened]) rfl rfl
    · rename_i i hi
      split
      · rename_i visible hvisible
        have hprincipal : Memory.principal number
            (.called (.impersonate number username domain) (.ok (.ok ())) :: es) = some i := by
          simp [principal_cons, Seen.principal?, hi]
        refine ⟨h.snapshot, ?_, ?_, h.isClosed⟩
        · have hmap := s.snapshot.visibleTo?_map i
          rw [hvisible, h.snapshot, h.snapshot] at hmap
          rw [Memory.visible, hprincipal]
          exact hmap
        · rw [hprincipal]
          rfl
      · exact h.of_foreign (by simp [Seen.opened]) rfl rfl

/-- A session is as its history tells after one more call on it. -/
theorem Tells.of_call {s : MemorySession} (h : Tells t es number s) (name : String) {c : Call}
    (hc : c.session? = some number) :
    Tells t (.called c ((MemorySession.alone name).perform c s).outcome :: es) number
      ((MemorySession.alone name).perform c s).world := by
  cases c with
  | openSession => cases hc
  | setTimeout n limit => exact h.of_foreign (by simp [Seen.opened]) rfl rfl
  | impersonate n username domain =>
    cases hc
    exact h.of_impersonation name username domain
  | query n request =>
    obtain ⟨hsnapshot, hvisible, hprincipal, hclosed⟩ : Tells t (.called (.query n request)
      ((MemorySession.alone name).perform (.query n request) s).outcome :: es) number s :=
        h.of_foreign (by simp [Seen.opened]) rfl rfl
    simp only [Repository.perform, MemorySession.alone, Started.atOnce,
      MemorySession.snd_query] at hsnapshot hvisible hprincipal hclosed ⊢
    exact ⟨hsnapshot, hvisible, hprincipal, hclosed⟩
  | closeSession n =>
    cases hc
    refine ⟨h.snapshot, h.visible, h.principal, ?_⟩
    simp [closed_cons, Seen.closes, Repository.perform, MemorySession.alone, Started.atOnce,
      MemorySession.close]

/-- A call on a session tells nothing of other sessions. -/
theorem Seen.of_call {c : Call} (hc : c.session? = some number) (outcome : Except Fault c.Answer) :
    (called c outcome).opened = false ∧ ∀ n, n ≠ number →
      (called c outcome).principal? n = none ∧ (called c outcome).closes n = false := by
  cases c with
  | openSession => cases hc
  | setTimeout => exact ⟨rfl, fun _ _ => ⟨rfl, rfl⟩⟩
  | query => exact ⟨rfl, fun _ _ => ⟨rfl, rfl⟩⟩
  | impersonate other username domain =>
    cases hc
    refine ⟨rfl, fun n hn => ⟨?_, rfl⟩⟩
    rcases outcome with f | e | ⟨⟩
    · rfl
    · rfl
    · exact if_neg (Ne.symm hn)
  | closeSession other =>
    cases hc
    refine ⟨rfl, fun n hn => ⟨rfl, ?_⟩⟩
    rcases outcome with f | ⟨⟩
    · rfl
    · exact beq_false_of_ne (Ne.symm hn)

/-- A call on a session that was never opened does nothing. -/
theorem perform_of_unknown (name : String) {c : Call} (hc : c.session? = some number)
    (hnone : m.sessions[number]? = none) :
    ((repository name).perform c m).outcome = .error (unknownSession number) ∧
      ((repository name).perform c m).world = m := by
  cases c <;> cases hc
  all_goals
    simp only [Repository.perform, repository, onSession, hnone]
    exact ⟨rfl, rfl⟩

/-- A call that raises tells nothing of any session. -/
theorem Seen.of_raised (c : Call) (f : Fault) :
    (called c (.error f)).opened = false ∧ ∀ n,
      (called c (.error f)).principal? n = none ∧ (called c (.error f)).closes n = false := by
  cases c <;> exact ⟨rfl, fun _ => ⟨rfl, rfl⟩⟩

/-- A call on a session keeps all of them as they are told. -/
theorem Kept.of_call (h : Kept t es m) (name : String) {c : Call}
    (hc : c.session? = some number) :
    Kept t ((Memory.observe name (.call c) m).1 :: es) (Memory.observe name (.call c) m).2 := by
  simp only [Memory.observe]
  cases hs : m.sessions[number]? with
  | none =>
    obtain ⟨houtcome, hworld⟩ := perform_of_unknown name hc hs
    obtain ⟨hopened, hnothing⟩ := Seen.of_raised c (unknownSession number)
    rw [houtcome, hworld]
    exact h.of_table hopened (fun n => (hnothing n).1) (fun n => (hnothing n).2) h.table
  | some s =>
    obtain ⟨houtcome, hworld⟩ := perform_of_session name hc hs
    obtain ⟨hopened, hothers⟩ := Seen.of_call hc ((MemorySession.alone name).perform c s).outcome
    rw [houtcome, hworld]
    refine ⟨h.table, ?_, ?_, ?_⟩
    · rw [opens_cons, hopened, List.length_set]
      exact h.count
    · intro n u hu
      by_cases hn : n = number
      · subst hn
        have hlt := (List.getElem?_eq_some_iff.mp hs).1
        simp only [List.getElem?_set_self hlt, Option.some.injEq] at hu
        subst hu
        exact (h.sessions n s hs).of_call name hc
      · simp only [List.getElem?_set_ne (Ne.symm hn)] at hu
        obtain ⟨hprincipal, hcloses⟩ := hothers n hn
        exact (h.sessions n u hu).of_foreign (by simp [hopened]) hprincipal hcloses
    · intro n hn
      rw [opens_cons, hopened] at hn
      have hlt := (List.getElem?_eq_some_iff.mp hs).1
      have hne : n ≠ number := by
        have hcount := h.count
        rintro rfl
        simp only [Bool.toNat_false] at hn
        omega
      obtain ⟨hprincipal, hcloses⟩ := hothers n hne
      rw [principal_cons, closed_cons, hprincipal, hcloses]
      exact h.unopened n hn

/-- **A step keeps table and sessions as they are told.** -/
theorem Kept.observe (h : Kept t es m) (name : String) (step : Step) :
    Kept t ((Memory.observe name step m).1 :: es) (Memory.observe name step m).2 := by
  cases step with
  | grant principal docIds =>
    refine h.of_table rfl (fun _ => rfl) (fun _ => rfl) fun p => ?_
    rw [PermissionTable.idsOf?_grant, h.table]
    rfl
  | revoke principal docIds =>
    refine h.of_table rfl (fun _ => rfl) (fun _ => rfl) fun p => ?_
    rw [PermissionTable.idsOf?_revoke, h.table]
    rfl
  | call c =>
    cases hc : c.session? with
    | none =>
      cases c <;> cases hc
      exact h.of_opening name
    | some n => exact h.of_call name hc

/-! ## Sessions on their own -/

/-- A step that is not on a session leaves it as it is. -/
theorem sessions_of_foreign {s : MemorySession} (hs : m.sessions[number]? = some s)
    (name : String) {step : Step} (hstep : step.isOn number = false) :
    (observe name step m).2.sessions[number]? = some s := by
  cases step with
  | grant principal docIds => exact hs
  | revoke principal docIds => exact hs
  | call c =>
    cases hc : c.session? with
    | none =>
      cases c <;> cases hc
      change (m.sessions ++ [_])[number]? = some s
      rw [List.getElem?_append_left (List.getElem?_eq_some_iff.mp hs).1, hs]
    | some n =>
      have hne : n ≠ number := by
        rintro rfl
        simp [Step.isOn, hc] at hstep
      cases hn : m.sessions[n]? with
      | none =>
        simp only [observe, (perform_of_unknown name hc hn).2]
        exact hs
      | some u =>
        simp only [observe, (perform_of_session name hc hn).2]
        rw [List.getElem?_set_ne hne, hs]

/-- A step on a session makes of it what it would alone. -/
theorem sessions_of_own {s : MemorySession} (hs : m.sessions[number]? = some s) (name : String)
    {c : Call} (hc : c.session? = some number) :
    (observe name (.call c) m).2.sessions[number]? =
      some ((MemorySession.alone name).perform c s).world := by
  simp only [observe, (perform_of_session name hc hs).2]
  exact List.getElem?_set_self (List.getElem?_eq_some_iff.mp hs).1

/-- **A session depends on its own steps only**, whatever table and sessions there are around it. -/
theorem sessions_run_own (name : String) (steps : List Step) {m m' : Memory} {s : MemorySession}
    (hs : m.sessions[number]? = some s) (hs' : m'.sessions[number]? = some s) :
    ∃ u, (History.run (observe name) m steps).world.sessions[number]? = some u ∧
      (History.run (observe name) m' (steps.filter (Step.isOn number))).world.sessions[number]? =
        some u := by
  induction steps generalizing m m' s with
  | nil => exact ⟨s, hs, hs'⟩
  | cons step steps ih =>
    cases hstep : step.isOn number with
    | false =>
      rw [List.filter_cons_of_neg (by simp [hstep]), History.world_run_cons]
      exact ih (sessions_of_foreign hs name hstep) hs'
    | true =>
      rw [List.filter_cons_of_pos hstep, History.world_run_cons, History.world_run_cons]
      cases step with
      | grant => cases hstep
      | revoke => cases hstep
      | call c =>
        have hc : c.session? = some number := eq_of_beq hstep
        exact ih (sessions_of_own hs name hc) (sessions_of_own hs' name hc)

/-! ## The answers of sessions -/

/-- The outcome of a call. -/
def answer (name : String) (m : Memory) (c : Call) : Except Fault c.Answer :=
  ((repository name).perform c m).outcome

/-- Table and sessions answer as their history tells. -/
structure Faithful (name : String) (t : PermissionTable) (es : List Seen) (m : Memory) : Prop where
  /-- The table holds what was granted and not revoked. -/
  table : ∀ p, m.table.idsOf? p = entryOf t p es
  /-- Sessions are numbered in the order of their openings. -/
  opening : answer name m .openSession = .ok (.ok ⟨opens es, false⟩)
  /-- A query brings rows when the session is open and has a principal. -/
  query : ∀ n < opens es, ∀ request, ∃ result, answer name m (.query n request) = .ok result ∧
    ((∃ rows, result = .ok rows) ↔ closed n es = false ∧ (principal n es).isSome)
  /-- The rows are the distinct values that are visible, in order. -/
  rows : ∀ n < opens es, ∀ request rows, answer name m (.query n request) = .ok (.ok rows) →
    ∃ ids, visible t n es = some ids ∧
      rows =
        (request.predicate.values.eraseDups.filter (· ∈ ids)).map .ofDocument
  /-- An impersonation on an open session succeeds when its principal has an entry. -/
  impersonate : ∀ n < opens es, closed n es = false →
    ∀ (username : Text) domain, username.strip ≠ "" →
    ∃ i result, Identity.ofNames? (some username) domain = some i ∧
      answer name m (.impersonate n username domain) = .ok result ∧
      (result = .ok () ↔ (sees t n es i).isSome)
  /-- It raises for a blank user name. -/
  impersonate_blank : ∀ n < opens es, closed n es = false → ∀ (username : Text) domain,
    username.strip = "" →
    answer name m (.impersonate n username domain) = .error (.value Identity.blankMessage)
  /-- On a closed session it fails. -/
  impersonate_closed : ∀ n < opens es, closed n es = true → ∀ username domain,
    ∃ e, answer name m (.impersonate n username domain) = .ok (.error e)
  /-- An impersonation that does not succeed changes nothing. -/
  unimpersonated : ∀ n username domain,
    answer name m (.impersonate n username domain) ≠ .ok (.ok ()) →
    ((repository name).perform (.impersonate n username domain) m).world = m
  /-- Closing returns, and closing a closed session changes nothing. -/
  closing : ∀ n < opens es, answer name m (.closeSession n) = .ok () ∧
    (closed n es = true → ((repository name).perform (.closeSession n) m).world = m)

/-- A session that was opened is there, and answers alone. -/
theorem Kept.exists_session (h : Kept t es m) (name : String) {n : Nat} (hn : n < opens es) :
    ∃ s, m.sessions[n]? = some s ∧ Tells t es n s ∧ ∀ c : Call, c.session? = some n →
      answer name m c = ((MemorySession.alone name).perform c s).outcome := by
  have hlt : n < m.sessions.length := h.count ▸ hn
  have hs := List.getElem?_eq_getElem hlt
  exact ⟨_, hs, h.sessions n _ hs, fun c hc => (perform_of_session name hc hs).1⟩

/-- A call that leaves its session as it is changes nothing. -/
theorem world_of_unchanged {s : MemorySession} (hs : m.sessions[number]? = some s) {c : Call}
    (hc : c.session? = some number) (hsame : ((MemorySession.alone name).perform c s).world = s) :
    ((repository name).perform c m).world = m := by
  rw [(perform_of_session name hc hs).2, hsame]
  obtain ⟨hlt, hget⟩ := List.getElem?_eq_some_iff.mp hs
  rw [← hget, List.set_getElem_self]

/-- A world in which table and sessions are as told answers so. -/
theorem Kept.faithful (h : Kept t es m) (name : String) : Faithful name t es m where
  table := h.table
  opening := by
    rw [← h.count]
    rfl
  query n hn request := by
    obtain ⟨s, -, htells, hanswer⟩ := h.exists_session name hn
    refine ⟨(s.query name request).1, hanswer _ rfl, ?_⟩
    simp only [MemorySession.fst_query_eq_ok, ← htells.isClosed, ← htells.principal,
      Option.isSome_iff_exists]
    constructor
    · rintro ⟨rows, hopen, visible, hvisible, -⟩
      exact ⟨hopen, visible, hvisible⟩
    · rintro ⟨hopen, visible, hvisible⟩
      exact ⟨_, hopen, visible, hvisible, rfl⟩
  rows n hn request rows hrows := by
    obtain ⟨s, -, htells, hanswer⟩ := h.exists_session name hn
    rw [hanswer _ rfl] at hrows
    obtain ⟨-, visible, hvisible, rfl⟩ :=
      MemorySession.fst_query_eq_ok.mp (Except.ok.inj hrows)
    refine ⟨visible.toFinset, ?_, ?_⟩
    · rw [← htells.visible, hvisible]
      rfl
    · congr 1
      refine List.filter_congr fun id _ => ?_
      simp
  impersonate n hn hopen username domain hblank := by
    obtain ⟨s, -, htells, hanswer⟩ := h.exists_session name hn
    have hi : Identity.ofNames? (some username) domain =
        some ⟨username.strip, Identity.trimDomain domain⟩ := if_neg hblank
    have hopen' : s.isClosed = false := htells.isClosed.trans hopen
    obtain ⟨result, hresult, hiff⟩ := MemorySession.fst_impersonate hopen' name hi
    refine ⟨_, result, hi, (hanswer _ rfl).trans hresult, hiff.trans ?_⟩
    have hsees := s.snapshot.visibleTo?_map ⟨username.strip, Identity.trimDomain domain⟩
    rw [htells.snapshot, htells.snapshot] at hsees
    rw [sees, ← hsees, Option.isSome_map]
  impersonate_blank n hn hopen username domain hblank := by
    obtain ⟨s, -, htells, hanswer⟩ := h.exists_session name hn
    have hopen' : s.isClosed = false := htells.isClosed.trans hopen
    have hi : Identity.ofNames? (some username) domain = none := if_pos hblank
    rw [hanswer _ rfl]
    change (s.impersonate name username domain).1 = _
    simp [MemorySession.impersonate, hopen', hi]
  impersonate_closed n hn hclosed username domain := by
    obtain ⟨s, -, htells, hanswer⟩ := h.exists_session name hn
    have hclosed' : s.isClosed = true := htells.isClosed.trans hclosed
    rw [hanswer _ rfl]
    change ∃ e, (s.impersonate name username domain).1 = _
    simp [MemorySession.impersonate, hclosed']
  unimpersonated n username domain hfailed := by
    cases hs : m.sessions[n]? with
    | none => exact (perform_of_unknown name rfl hs).2
    | some s =>
      have houtcome : answer name m (.impersonate n username domain) =
          (s.impersonate name username domain).1 := (perform_of_session name rfl hs).1
      rw [houtcome] at hfailed
      exact world_of_unchanged hs rfl (MemorySession.snd_impersonate hfailed)
  closing n hn := by
    obtain ⟨s, hs, htells, hanswer⟩ := h.exists_session name hn
    refine ⟨hanswer _ rfl, fun hclosed => world_of_unchanged hs rfl ?_⟩
    have hsame : s.close = s := by
      rw [MemorySession.close, ← hclosed, ← htells.isClosed]
    exact hsame

/-- **After any steps table and sessions are as their history tells.** What comes later on the
table or on other sessions has no part in the answers of a session, and closing is for good. -/
theorem faithful_of_history (name : String) (t : PermissionTable) (steps : List Step) :
    let h := History.run (observe name) (ofTable t) steps
    Faithful name t h.entries h.world ∧ ∀ n < opens h.entries, ∀ more : List Step,
      (∀ c : Call, c.session? = some n →
        answer name (History.run (observe name) h.world more).world c =
          answer name (History.run (observe name) h.world (more.filter (Step.isOn n))).world c) ∧
      (closed n h.entries = true →
        closed n (History.run (observe name) (ofTable t) (steps ++ more)).entries = true) := by
  have hkept := History.invariant (observe name) (kept_ofTable t)
    (fun step es m hkept => hkept.observe name step) steps
  refine ⟨hkept.faithful name, fun n hn more => ⟨fun c hc => ?_, fun hclosed => ?_⟩⟩
  · obtain ⟨s, hs, -⟩ := hkept.exists_session name hn
    obtain ⟨u, hu, hu'⟩ := sessions_run_own name more hs hs
    exact (perform_of_session name hc hu).1.trans (perform_of_session name hc hu').1.symm
  · obtain ⟨e, he, hcloses⟩ := List.any_eq_true.mp hclosed
    exact List.any_eq_true.mpr ⟨e, (History.entries_run_append _ steps more).subset he, hcloses⟩

end Memory
end DocAccess
