import DocAccess.Proofs.Authorization.Ownership

/-!
# Requests side by side

Requests over one `Memory` take turns call by call, in any order, while documents are granted
and revoked in between. The invariant `Standing` says of each request where it stands: it has
not begun, or it works on a session of its own, and what that session would make of the rest of
the request is what the table of its opening makes of the whole. No turn of another request and
no grant touches that session.
-/
namespace DocAccess

namespace Party

variable {α : Type}

/-- The result of a party that makes no further call. -/
def result? {σ : Type} (p : Party σ α) : Option α := p.rest.result?

/-- The number of the session that a party opened. -/
def session? {σ : Type} (p : Party σ α) : Option Nat :=
  p.deeds.findSome? fun d => d.opened?.map Session.number

/-- The table as it stood when a party opened its session. -/
def table? (p : Party Memory α) : Option PermissionTable :=
  p.deeds.findSome? fun d =>
    match d.call with
    | .openSession => some d.world.table
    | _ => none

end Party

namespace Memory

/-- What may happen next among parties over a table. -/
inductive Move where
  /-- The party makes its next call. -/
  | turn (party : Nat)
  | grant (principal : Text) (docIds : List Text)
  | revoke (principal : Text) (docIds : List Text)
  deriving DecidableEq

/-- Parties over a table. -/
structure Gathering (α : Type) where
  memory : Memory
  parties : List (Party Memory α)

namespace Gathering

variable {α : Type} (name : String)

/-- Programs that have made no call. -/
def start (programs : List (Program α)) (memory : Memory) : Gathering α :=
  ⟨memory, programs.map fun p => ⟨p, []⟩⟩

/-- What a move changes. A turn of a party that has its result changes nothing. -/
def step (g : Gathering α) : Move → Gathering α
  | .grant principal docIds => { g with memory := g.memory.grant principal docIds }
  | .revoke principal docIds => { g with memory := g.memory.revoke principal docIds }
  | .turn i =>
    match g.parties[i]? with
    | none => g
    | some p =>
      match p.rest.advance? (repository name) g.memory with
      | none => g
      | some (deed, m, rest) => ⟨m, g.parties.set i ⟨rest, p.deeds ++ [deed]⟩⟩

/-- What moves change, one after another. -/
def run (g : Gathering α) (moves : List Move) : Gathering α := moves.foldl (step name) g

end Gathering
end Memory

namespace Authorization

variable (name : String) (policy : AuthorizationPolicy) (request : AuthorizationRequest)

/-- What a request comes to on a session over a table. -/
def verdict (t : PermissionTable) : AuthorizationOutcome :=
  ((configure policy request ⟨0, false⟩).eval (MemorySession.alone name) (.fresh t)).1

/-- Where a party stands that carries out a request: before its first call, or at work on the
session that it opened in the world `w`. -/
inductive Standing (m : Memory) : Party Memory AuthorizationOutcome → Prop
  | idle : Standing m ⟨program policy request, []⟩
  | busy {rest : Program AuthorizationOutcome} {deeds : List (Deed Memory)} {w : Memory}
      {s : MemorySession} {k : Nat}
      (begun : (program policy request).result? = none)
      (found : m.sessions[w.sessions.length]? = some s)
      (bounded : rest.Bounded (OwnCall request w.sessions.length) k)
      (few : deeds.length + 1 + k ≤ callBound request)
      (own : ∀ d ∈ deeds, OwnCall request w.sessions.length d.call)
      (comes : (rest.eval (MemorySession.alone name) s).1 = verdict name policy request w.table) :
      Standing m ⟨rest, ⟨.openSession, .ok (.ok ⟨w.sessions.length, false⟩), w⟩ :: deeds⟩

section Program

variable {name policy request}

/-- A request either has its result without a call, or begins by opening a session. -/
theorem result?_or_openSession :
    (program policy request).result? ≠ none ∨
      ∃ e, program policy request = .log e (openSession policy request) := by
  rw [program]
  split
  · exact .inl (by simp [Program.result?])
  · split
    · exact .inl (by simp [Program.result?])
    · split
      · exact .inl (by simp [Program.result?])
      · exact .inr ⟨_, rfl⟩

/-- Alone over a table, a request comes to what its session makes of it. -/
theorem run_alone (now : Nat) (t : PermissionTable) :
    (∀ outcome, (program policy request).result? = some outcome →
      ((job policy request).run (Memory.repository name) now (.ofTable t)).result =
        some outcome) ∧
    ((program policy request).result? = none →
      ((job policy request).run (Memory.repository name) now (.ofTable t)).result =
        some (verdict name policy request t)) := by
  have hrun := (Program.run_of_atOnce _ (Memory.atOnce_repository name) (program policy request)
    ((job policy request).expiry now) now (.ofTable t)).1
  constructor
  · intro outcome h
    rw [← Program.eval_of_result? (Memory.repository name) h (.ofTable t)]
    exact hrun
  · intro h
    obtain ⟨e, hprogram⟩ := result?_or_openSession.resolve_left (not_not.mpr h)
    have heval : ((program policy request).eval (Memory.repository name) (.ofTable t)).1 =
        verdict name policy request t := by
      rw [hprogram]
      exact Memory.eval_of_session (fun c => session?_of_ownCall request)
        (bounded_configure policy request ⟨0, false⟩) rfl
    rw [← heval]
    exact hrun

end Program

namespace Standing

variable {name policy request} {m m' : Memory} {p : Party Memory AuthorizationOutcome}

/-- The session of a party is one of those opened so far. -/
theorem lt_length (h : Standing name policy request m p) {n : Nat} (hn : p.session? = some n) :
    n < m.sessions.length := by
  cases h with
  | idle => cases hn
  | busy _ found =>
    cases hn
    exact (List.getElem?_eq_some_iff.mp found).1

/-- Where a party stands depends on its own session only. -/
theorem frame (h : Standing name policy request m p)
    (hsame : ∀ n, p.session? = some n → m'.sessions[n]? = m.sessions[n]?) :
    Standing name policy request m' p := by
  cases h with
  | idle => exact .idle
  | busy begun found bounded few own comes =>
    exact .busy begun ((hsame _ rfl).trans found) bounded few own comes

/-- After its next call a party stands as well, on the session that it had or on a new one, and
no other session has changed. -/
theorem advance (h : Standing name policy request m p) {deed : Deed Memory}
    {rest : Program AuthorizationOutcome}
    (hadvance : p.rest.advance? (Memory.repository name) m = some (deed, m', rest)) :
    Standing name policy request m' ⟨rest, p.deeds ++ [deed]⟩ ∧
      ∃ n, Party.session? ⟨rest, p.deeds ++ [deed]⟩ = some n ∧
        (p.session? = some n ∨ m.sessions.length ≤ n) ∧
        ∀ k < m.sessions.length, k ≠ n → m'.sessions[k]? = m.sessions[k]? := by
  cases h with
  | idle =>
    have hnone : (program policy request).result? = none := by
      by_contra hend
      rw [(Program.advance?_eq_none_iff _).mpr hend] at hadvance
      cases hadvance
    obtain ⟨e, hprogram⟩ := result?_or_openSession.resolve_left (not_not.mpr hnone)
    -- The first call opens the session at the end of the list, over the table as it is.
    rw [hprogram] at hadvance
    cases hadvance
    refine ⟨.busy (s := .fresh m.table) hnone ?_
      (bounded_configure policy request ⟨m.sessions.length, false⟩) ?_ (by simp) ?_,
      m.sessions.length, rfl, .inr (le_refl _), ?_⟩
    · exact List.getElem?_concat_length
    · change 0 + 1 + (request.docIds.length + 3) ≤ request.docIds.length + 4
      omega
    · exact congrArg Prod.fst (eval_configure_alone policy request name false _ _ _)
    · intro k hk _
      exact List.getElem?_append_left hk
  | @busy _ deeds w s k begun found bounded few own comes =>
    obtain ⟨j, rfl, hcall, hrest⟩ := bounded.advance hadvance
    obtain ⟨s', rfl, heval⟩ := Memory.advance_of_session (fun c => session?_of_ownCall request)
      bounded found hadvance
    have hlt := (List.getElem?_eq_some_iff.mp found).1
    -- The call takes the session from `s` to `s'`, and the rest comes to the same from there.
    refine ⟨.busy (s := s') begun ?_ hrest ?_ ?_ ?_, w.sessions.length, rfl, .inl rfl, ?_⟩
    · simp [hlt]
    · change (deeds ++ [deed]).length + 1 + j ≤ callBound request
      rw [List.length_append, List.length_singleton]
      omega
    · intro d hd
      rcases List.mem_append.mp hd with hd | hd
      · exact own d hd
      · rw [List.mem_singleton.mp hd]
        exact hcall
    · rw [heval]
      exact comes
    · intro k _ hne
      exact List.getElem?_set_ne (Ne.symm hne)

/-- A party with its result has that of its request alone over the table of its opening. -/
theorem result_eq (h : Standing name policy request m p) {outcome : AuthorizationOutcome}
    (hresult : p.result? = some outcome) (now : Nat) (t : PermissionTable) :
    ((job policy request).run (Memory.repository name) now
      (.ofTable (p.table?.getD t))).result = some outcome := by
  cases h with
  | idle => exact (run_alone now _).1 outcome hresult
  | @busy rest deeds w s k begun found bounded few own comes =>
    rw [← Program.eval_of_result? (MemorySession.alone name) hresult s, comes]
    exact (run_alone now w.table).2 begun

/-- A party without its result has made fewer calls than its request makes at most. -/
theorem length_lt (h : Standing name policy request m p) (hresult : p.result? = none) :
    p.deeds.length < callBound request := by
  cases h with
  | idle =>
    change 0 < request.docIds.length + 4
    omega
  | @busy rest deeds w s k begun found bounded few own comes =>
    have hpos : k ≠ 0 := by
      rintro rfl
      exact bounded.result?_ne_none hresult
    rw [List.length_cons]
    omega

end Standing

/-- What holds after some moves among requests: each stands on a session of its own, and has its
result unless it has made a call at each of its turns. -/
structure Sound (requests : List AuthorizationRequest) (moves : List Memory.Move)
    (g : Memory.Gathering AuthorizationOutcome) : Prop where
  length_eq : g.parties.length = requests.length
  standing : ∀ (i : Nat) (request : AuthorizationRequest) (p : Party Memory AuthorizationOutcome),
    requests[i]? = some request → g.parties[i]? = some p →
      Standing name policy request g.memory p
  turns : ∀ (i : Nat) (p : Party Memory AuthorizationOutcome), g.parties[i]? = some p →
    p.result? ≠ none ∨ p.deeds.length = moves.count (.turn i)
  distinct : ∀ (i j : Nat) (p q : Party Memory AuthorizationOutcome) (n : Nat),
    g.parties[i]? = some p → g.parties[j]? = some q →
      p.session? = some n → q.session? = some n → i = j

namespace Sound

variable {name policy} {requests : List AuthorizationRequest} {moves : List Memory.Move}
  {g : Memory.Gathering AuthorizationOutcome}

/-- Requests that have not begun. -/
theorem start (requests : List AuthorizationRequest) (memory : Memory) :
    Sound name policy requests []
      (.start (requests.map (program policy)) memory) where
  length_eq := by simp [Memory.Gathering.start]
  standing := by
    intro i request p hrequest hp
    simp only [Memory.Gathering.start, List.getElem?_map, hrequest, Option.map_some,
      Option.some.injEq] at hp
    subst hp
    exact .idle
  turns := by
    intro i p hp
    simp only [Memory.Gathering.start, List.getElem?_map, Option.map_eq_some_iff] at hp
    obtain ⟨_, _, rfl⟩ := hp
    exact .inr rfl
  distinct := by
    intro i j p q n hp _ hn
    simp only [Memory.Gathering.start, List.getElem?_map, Option.map_eq_some_iff] at hp
    obtain ⟨_, _, rfl⟩ := hp
    cases hn

/-- A party carries out one of the requests. -/
theorem exists_request (h : Sound name policy requests moves g) {i : Nat}
    {p : Party Memory AuthorizationOutcome} (hp : g.parties[i]? = some p) :
    ∃ request, requests[i]? = some request ∧ Standing name policy request g.memory p := by
  have hlt : i < requests.length := by
    rw [← h.length_eq]
    exact (List.getElem?_eq_some_iff.mp hp).1
  have hrequest : requests[i]? = some requests[i] := List.getElem?_eq_getElem hlt
  exact ⟨requests[i], hrequest, h.standing i _ p hrequest hp⟩

/-- A move that is no turn counts for no party. -/
theorem count_concat (moves : List Memory.Move) (move : Memory.Move) (i : Nat) :
    (moves ++ [move]).count (.turn i) =
      moves.count (.turn i) + if move = .turn i then 1 else 0 := by
  rw [List.count_append, List.count_singleton]
  simp

/-- Granting and revoking touch no session. -/
theorem of_sessions (h : Sound name policy requests moves g) {move : Memory.Move}
    (hmove : ∀ i, move ≠ .turn i) {memory : Memory}
    (hsame : memory.sessions = g.memory.sessions) :
    Sound name policy requests (moves ++ [move]) { g with memory } where
  length_eq := h.length_eq
  standing := by
    intro i request p hrequest hp
    exact (h.standing i request p hrequest hp).frame fun n _ => by rw [hsame]
  turns := by
    intro i p hp
    rw [count_concat, if_neg (hmove i)]
    exact h.turns i p hp
  distinct := h.distinct

/-- A turn of a party that has its result, or of none, changes nothing. -/
theorem of_idle_turn (h : Sound name policy requests moves g) {i : Nat}
    (hidle : ∀ p, g.parties[i]? = some p → p.result? ≠ none) :
    Sound name policy requests (moves ++ [.turn i]) g where
  length_eq := h.length_eq
  standing := h.standing
  turns := by
    intro j p hp
    rw [count_concat]
    by_cases hij : i = j
    · subst hij
      exact .inl (hidle p hp)
    · rw [if_neg (by simpa using hij)]
      exact h.turns j p hp
  distinct := h.distinct

/-- A turn of a party changes nothing for the others: its call is on its own session. -/
theorem of_turn (h : Sound name policy requests moves g) {i : Nat}
    {p : Party Memory AuthorizationOutcome} (hp : g.parties[i]? = some p) {deed : Deed Memory}
    {m : Memory} {rest : Program AuthorizationOutcome}
    (hadvance : p.rest.advance? (Memory.repository name) g.memory = some (deed, m, rest)) :
    Sound name policy requests (moves ++ [.turn i])
      ⟨m, g.parties.set i ⟨rest, p.deeds ++ [deed]⟩⟩ := by
  obtain ⟨request, hrequest, hstanding⟩ := h.exists_request hp
  obtain ⟨hnext, n, hn, horigin, hframe⟩ := hstanding.advance hadvance
  have hlt : i < g.parties.length := (List.getElem?_eq_some_iff.mp hp).1
  have hself : (g.parties.set i ⟨rest, p.deeds ++ [deed]⟩)[i]? =
      some ⟨rest, p.deeds ++ [deed]⟩ := List.getElem?_set_self hlt
  -- The session of this party is none of the others'.
  have hother : ∀ j q k, j ≠ i → g.parties[j]? = some q → q.session? = some k →
      k < g.memory.sessions.length ∧ k ≠ n := by
    intro j q k hne hq hk
    obtain ⟨_, _, hstand⟩ := h.exists_request hq
    have hk' := hstand.lt_length hk
    refine ⟨hk', ?_⟩
    rintro rfl
    rcases horigin with hsession | hle
    · exact hne (h.distinct j i q p k hq hp hk hsession)
    · omega
  refine ⟨by rw [List.length_set, h.length_eq], ?_, ?_, ?_⟩
  · intro j request' q hrequest' hq
    by_cases hij : j = i
    · subst hij
      rw [hself] at hq
      rw [hrequest] at hrequest'
      cases hq
      cases hrequest'
      exact hnext
    · rw [List.getElem?_set_ne (Ne.symm hij)] at hq
      refine (h.standing j request' q hrequest' hq).frame fun k hk => ?_
      obtain ⟨hklt, hkne⟩ := hother j q k hij hq hk
      exact hframe k hklt hkne
  · intro j q hq
    rw [count_concat]
    by_cases hij : j = i
    · subst hij
      rw [hself] at hq
      cases hq
      have hgoes : p.result? = none := by
        by_contra hend
        rw [(Program.advance?_eq_none_iff _).mpr hend] at hadvance
        cases hadvance
      have hturns := (h.turns j p hp).resolve_left (not_not.mpr hgoes)
      exact .inr (by rw [if_pos rfl, List.length_append, hturns, List.length_singleton])
    · rw [List.getElem?_set_ne (Ne.symm hij)] at hq
      rw [if_neg (by simpa using Ne.symm hij)]
      exact h.turns j q hq
  · intro j l q r k hq hr hqk hrk
    by_cases hj : j = i
    · by_cases hl : l = i
      · rw [hj, hl]
      · subst hj
        rw [hself] at hq
        rw [List.getElem?_set_ne (Ne.symm hl)] at hr
        cases hq
        have heq : n = k := Option.some.inj (hn.symm.trans hqk)
        exact absurd heq.symm (hother l r k hl hr hrk).2
    · rw [List.getElem?_set_ne (Ne.symm hj)] at hq
      by_cases hl : l = i
      · subst hl
        rw [hself] at hr
        cases hr
        have heq : n = k := Option.some.inj (hn.symm.trans hrk)
        exact absurd heq.symm (hother j q k hj hq hqk).2
      · rw [List.getElem?_set_ne (Ne.symm hl)] at hr
        exact h.distinct j l q r k hq hr hqk hrk

/-- One move. -/
theorem step (h : Sound name policy requests moves g) (move : Memory.Move) :
    Sound name policy requests (moves ++ [move]) (g.step name move) := by
  cases move with
  | grant principal docIds => exact h.of_sessions (by simp) rfl
  | revoke principal docIds => exact h.of_sessions (by simp) rfl
  | turn i =>
    cases hp : g.parties[i]? with
    | none =>
      simp only [Memory.Gathering.step, hp]
      refine h.of_idle_turn fun p hp' => ?_
      rw [hp] at hp'
      cases hp'
    | some p =>
      cases hadvance : p.rest.advance? (Memory.repository name) g.memory with
      | none =>
        simp only [Memory.Gathering.step, hp, hadvance]
        refine h.of_idle_turn fun q hq => ?_
        rw [hp] at hq
        cases hq
        exact (Program.advance?_eq_none_iff _).mp hadvance
      | some next =>
        simp only [Memory.Gathering.step, hp, hadvance]
        exact h.of_turn hp hadvance

/-- Any number of moves. -/
theorem run (h : Sound name policy requests moves g) (more : List Memory.Move) :
    Sound name policy requests (moves ++ more) (g.run name more) := by
  induction more generalizing moves g with
  | nil => simpa [Memory.Gathering.run] using h
  | cons move more ih =>
    have hrest := ih (h.step move)
    rw [List.append_assoc] at hrest
    exact hrest

end Sound

/-- What a request may rely on among others, when it had `turns` turns: its result is the one
that it has alone over the table of its opening, it has one after enough turns, and it opens one
session and keeps to it. -/
structure Isolated (turns : Nat) (party : Party Memory AuthorizationOutcome) : Prop where
  result_alone : ∀ outcome, party.result? = some outcome → ∀ (now : Nat) (t : PermissionTable),
    ((job policy request).run (Memory.repository name) now
      (.ofTable (party.table?.getD t))).result = some outcome
  ends : callBound request ≤ turns → party.result? ≠ none
  calls : ∀ opening others, party.deeds = opening :: others →
    opening.call = .openSession ∧ party.table? = some opening.world.table ∧
      ∃ n, party.session? = some n ∧ ∀ deed ∈ others, OwnCall request n deed.call
  opens : request.docIds ≠ [] → 1 ≤ policy.batchCap → deadlineOverflows request = false →
    party.result? ≠ none → party.deeds ≠ []

/-- A party that stands keeps to itself. -/
theorem Standing.isolated {name policy request} {m : Memory}
    {p : Party Memory AuthorizationOutcome} (h : Standing name policy request m p) {turns : Nat}
    (hturns : p.result? ≠ none ∨ p.deeds.length = turns) :
    Isolated name policy request turns p where
  result_alone := fun _ hresult now t => h.result_eq hresult now t
  ends := by
    intro hle
    rcases hturns with hend | hlen
    · exact hend
    · intro hresult
      have hlt := h.length_lt hresult
      omega
  calls := by
    intro opening others hdeeds
    cases h with
    | idle => cases hdeeds
    | busy begun found bounded few own comes =>
      cases hdeeds
      exact ⟨rfl, rfl, _, rfl, own⟩
  opens := by
    intro hne hcap hd hresult hnil
    cases h with
    | idle =>
      rw [Party.result?, program_of_ne_nil hne hcap hd] at hresult
      exact hresult rfl
    | busy => cases hnil

/-- **Requests side by side do not see each other.** However requests take turns over a table
and whatever is granted and revoked in between, each has the result that it has alone over the
table as it stood when its own session was opened; and no two share a session, so each session
impersonates the principal of one request and is asked about the documents of that request
only. -/
theorem snapshot_isolation (name : String) (policy : AuthorizationPolicy)
    (requests : List AuthorizationRequest) (memory : Memory) (moves : List Memory.Move) :
    let g := (Memory.Gathering.start (requests.map (program policy)) memory).run name moves
    g.parties.length = requests.length ∧
    (∀ i request party, requests[i]? = some request → g.parties[i]? = some party →
      Isolated name policy request (moves.count (.turn i)) party) ∧
    ∀ (i j : Nat) (p q : Party Memory AuthorizationOutcome) (n : Nat),
      g.parties[i]? = some p → g.parties[j]? = some q →
        p.session? = some n → q.session? = some n → i = j := by
  intro g
  have hsound : Sound name policy requests moves g := (Sound.start requests memory).run moves
  refine ⟨hsound.length_eq, ?_, hsound.distinct⟩
  intro i request party hrequest hparty
  exact (hsound.standing i request party hrequest hparty).isolated (hsound.turns i party hparty)

/-- The documents of a party that ended with a success. -/
def documents? (p : Party Memory AuthorizationOutcome) : Option (List Text) :=
  match p.result? with
  | some (.ok (.ok d)) => some d.docIds
  | _ => none

/-- Two requests in batches of one; `b` is revoked while the first is between its two queries
and the second has not begun. -/
example :
    let ask (docIds : List Text) := program ⟨"memory", none, 1, false⟩
      ⟨docIds, ⟨"u", none⟩, none, none⟩
    let g := (Memory.Gathering.start [ask ["a", "b"], ask ["b"]] (.ofTable [("u", ["a", "b"])])).run
      "memory" [.turn 0, .turn 0, .turn 0, .revoke "u" ["b"], .turn 1, .turn 0, .turn 1, .turn 0,
        .turn 1, .turn 1]
    g.parties.map documents? = ([some ["a", "b"], some []] : List (Option (List Text))) := by
  decide +kernel

end Authorization
end DocAccess
