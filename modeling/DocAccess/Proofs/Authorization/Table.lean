import DocAccess.Proofs.Authorization.Ownership
import DocAccess.Proofs.Authorization.Verdict
import DocAccess.Proofs.Identity

/-!
# A request over a table

Over a `Memory` a request is a filter. The table says which documents its principal sees, and the
request keeps these of its own documents, in their order and with their repetitions, whatever the
cap is. The session that it opens is closed in the end, and has been asked once for each slice.

## Main statements

* `eval_queryBatches_visible` — batch by batch, the visible documents of all batches are kept.
* `run_over_table` — the result of a request and the session that it leaves.
-/
namespace DocAccess

/-- The failure to impersonate a principal that the table does not know. -/
def unknownPrincipal (name : String) (i : Identity) : RepositoryError :=
  ⟨.impersonationFailed, .wellFormed "Unknown user '" ++ i.qualifiedName ++ .wellFormed "'", name,
    none, .authentication i.username⟩

/-- The run ends with an outcome. It has opened one session, which is left as given, and has
changed nothing else. -/
def EndsOver (m : Memory) (run : Run Memory AuthorizationOutcome) (outcome : AuthorizationOutcome)
    (session : MemorySession) : Prop :=
  run.result = some outcome ∧ run.world = { m with sessions := m.sessions ++ [session] }

namespace MemorySession

variable {s : MemorySession} {visible : List Text}

/-- The answer to a query confirms the visible ones of the documents that it names. -/
theorem confirms_query (name : String) (hopen : s.isClosed = false)
    (hvisible : s.visible = some visible) (r : QueryRequest) :
    ∃ rows, s.query name r = (.ok rows, { s with queriesIssued := s.queriesIssued + 1 }) ∧
      ∀ id ∈ r.predicate.values,
        Aggregate.confirms rows id = decide (id ∈ visible) := by
  refine ⟨(r.predicate.values.eraseDups.filter visible.contains).map
    .ofDocument, by simp [query, hopen, hvisible], ?_⟩
  intro id hid
  rw [Bool.eq_iff_iff, decide_eq_true_iff]
  simp only [Aggregate.confirms, Row.ofDocument, List.any_eq_true, List.mem_map, List.mem_filter,
    List.mem_eraseDups, List.contains_iff_mem, beq_iff_eq]
  constructor
  · rintro ⟨-, ⟨other, ⟨-, hvisible⟩, rfl⟩, heq⟩
    exact heq ▸ hvisible
  · intro hmem
    exact ⟨_, ⟨id, ⟨hid, hmem⟩, rfl⟩, rfl⟩

/-- An open session over a table takes the principal of an identity that the table knows. -/
theorem impersonate_of_visible {i : Identity} (name : String)
    (hself : Identity.ofNames? (some i.username) i.domain = some i) (hopen : s.isClosed = false)
    (hvisible : s.snapshot.visibleTo? i = some visible) :
    s.impersonate name i.username i.domain =
      (.ok (.ok ()), { s with visible := some visible }) := by
  simp [impersonate, hopen, hself, hvisible]

/-- An open session over a table refuses an identity that the table does not know. -/
theorem impersonate_of_unknown {i : Identity} (name : String)
    (hself : Identity.ofNames? (some i.username) i.domain = some i) (hopen : s.isClosed = false)
    (hunknown : s.snapshot.visibleTo? i = none) :
    s.impersonate name i.username i.domain = (.ok (.error (unknownPrincipal name i)), s) := by
  simp [impersonate, hopen, hself, hunknown, unknownPrincipal, unknownMessage]

end MemorySession

namespace Authorization

variable (policy : AuthorizationPolicy) (request : AuthorizationRequest) (session : Session)
  (name : String)

/-- A result that is there when a session is closed is kept, and the session is closed. -/
theorem eval_close_over (p : Progress) (result : AuthorizationResult) (s : MemorySession) :
    (close policy request session p (.finished result)).eval (MemorySession.alone name) s =
      (.ok result, s.close) := by
  cases result <;> rfl

/-- Batch by batch, the visible documents of all batches are kept; there is one query for each
batch, and then the session is closed. -/
theorem eval_queryBatches_visible {visible : List Text} (bs : List Batch) (a : Aggregate)
    (p : Progress) (s : MemorySession) (hnumbered : Numbered a.absorbed bs)
    (hopen : s.isClosed = false) (hvisible : s.visible = some visible) :
    (queryBatches policy request session bs a p).eval (MemorySession.alone name) s =
      (.ok (.ok ⟨a.authorized.docIds ++
          (bs.map Batch.docIds).flatten.filter (· ∈ visible)⟩),
        { s with isClosed := true, queriesIssued := s.queriesIssued + bs.length }) := by
  induction bs generalizing a p s with
  | nil =>
    rw [queryBatches, eval_close_over]
    simp [MemorySession.close]
  | cons b bs ih =>
    obtain ⟨rows, hquery, hconfirms⟩ := MemorySession.confirms_query name hopen hvisible b.query
    have hkept : b.docIds.filter (Aggregate.confirms rows) =
        b.docIds.filter (· ∈ visible) :=
      List.filter_congr hconfirms
    let asked : MemorySession := { s with queriesIssued := s.queriesIssued + 1 }
    have hask : (MemorySession.alone name).ask (.query session.number b.query) s =
        .ok (.ok rows, asked) := by
      simp only [Repository.ask, Repository.perform, MemorySession.alone, hquery]
      rfl
    rw [queryBatches, Program.eval_logAll, Program.eval_call _ hask]
    simp only [Aggregate.absorb, hnumbered.head, if_true, Program.eval_logAll, hkept]
    rw [ih _ _ asked hnumbered.tail hopen hvisible]
    simp [asked, Nat.add_assoc, Nat.add_comm 1]

/-- What a request comes to over a table that shows its principal some documents: these of its
own, or a fault when its cap is refused. The session has been asked once for each slice. -/
def Granted (m : Memory) (run : Run Memory AuthorizationOutcome) (visible : List Text) : Prop :=
  (policy.batchCap < BatchCap.limit →
    EndsOver m run (.ok (.ok ⟨request.docIds.filter (· ∈ visible)⟩))
      ⟨m.table, some visible, true, sliceCount policy.batchCap.toNat request.docIds.length⟩) ∧
  (BatchCap.limit ≤ policy.batchCap →
    EndsOver m run (.error (.value CapError.tooLarge.message)) ⟨m.table, some visible, true, 0⟩)

section Session

variable {policy request} {t : PermissionTable}
  (hself : Identity.ofNames? (some request.identity.username) request.identity.domain =
    some request.identity)

/-- A session over a table has nothing to limit. -/
theorem eval_configure_over (number : Nat) (s : MemorySession) :
    (configure policy request ⟨number, false⟩).eval (MemorySession.alone name) s =
      (impersonate policy request ⟨number, false⟩).eval (MemorySession.alone name) s := by
  unfold configure
  cases policy.queryLimit <;> rfl

include hself in
/-- A known principal is shown its documents, under a cap that is accepted. -/
theorem eval_configure_visible {visible : List Text} (number : Nat)
    (hvisible : t.visibleTo? request.identity = some visible) (hcap : 1 ≤ policy.batchCap) :
    (configure policy request ⟨number, false⟩).eval (MemorySession.alone name) (.fresh t) =
      if policy.batchCap < BatchCap.limit then
        (.ok (.ok ⟨request.docIds.filter (· ∈ visible)⟩),
          ⟨t, some visible, true, sliceCount policy.batchCap.toNat request.docIds.length⟩)
      else (.error (.value CapError.tooLarge.message), ⟨t, some visible, true, 0⟩) := by
  let shown : MemorySession := ⟨t, some visible, false, 0⟩
  have hask : (MemorySession.alone name).ask
      (.impersonate number request.identity.username request.identity.domain) (.fresh t) =
        .ok (.ok (), shown) := by
    have himp := MemorySession.impersonate_of_visible (s := .fresh t) name hself rfl hvisible
    simp only [Repository.ask, Repository.perform, MemorySession.alone, himp]
    rfl
  rw [eval_configure_over, impersonate, Program.eval_call _ hask]
  by_cases hlt : policy.batchCap < BatchCap.limit
  · have hpos : 0 < policy.batchCap.toNat := by omega
    simp only [BatchCap.ofInt?_of_lt hcap hlt, hlt, if_true]
    rw [eval_queryBatches_visible policy request _ name _ _ _ shown
      (BatchSource.numbered_drain _ _) rfl rfl, BatchSource.map_docIds_drain, flatten_slices hpos,
      BatchSource.length_drain]
    simp [shown, Aggregate.empty, AuthorizedDocuments.empty]
  · have hle : (BatchCap.limit : Int) ≤ policy.batchCap := by omega
    simp only [BatchCap.ofInt?_of_le hle, hlt, if_false]
    rfl

include hself in
/-- An unknown principal is refused. -/
theorem eval_configure_unknown (number : Nat)
    (hunknown : t.visibleTo? request.identity = none) :
    (configure policy request ⟨number, false⟩).eval (MemorySession.alone name) (.fresh t) =
      (.ok (.error (unknownPrincipal name request.identity)), ⟨t, none, true, 0⟩) := by
  have hask : (MemorySession.alone name).ask
      (.impersonate number request.identity.username request.identity.domain) (.fresh t) =
        .ok (.error (unknownPrincipal name request.identity), .fresh t) := by
    have himp := MemorySession.impersonate_of_unknown (s := .fresh t) name hself rfl hunknown
    simp only [Repository.ask, Repository.perform, MemorySession.alone, himp]
    rfl
  rw [eval_configure_over, impersonate, Program.eval_call _ hask]
  exact eval_close_over policy request _ name _ _ _

end Session

/-- The run of a request for documents is what its session makes of it. -/
theorem endsOver_of_eval {m : Memory} {outcome : AuthorizationOutcome} {s : MemorySession}
    (hne : request.docIds ≠ []) (hcap : 1 ≤ policy.batchCap)
    (hd : deadlineOverflows request = false) (now : Nat)
    (h : (configure policy request ⟨m.sessions.length, false⟩).eval (MemorySession.alone name)
      (.fresh m.table) = (outcome, s)) :
    EndsOver m ((job policy request).run (Memory.repository name) now m) outcome s := by
  obtain ⟨hresult, hworld, -⟩ := Program.run_of_atOnce _ (Memory.atOnce_repository name)
    (program policy request) ((job policy request).expiry now) now m
  have hbound := bounded_configure policy request ⟨m.sessions.length, false⟩
  have hown : ∀ c, OwnCall request m.sessions.length c → c.session? = some m.sessions.length :=
    fun c => session?_of_ownCall request
  let opened : Memory := { m with sessions := m.sessions ++ [.fresh m.table] }
  have hfound : opened.sessions[m.sessions.length]? = some (.fresh m.table) := by simp [opened]
  have heval : (program policy request).eval (Memory.repository name) m =
      (configure policy request ⟨m.sessions.length, false⟩).eval (Memory.repository name)
        opened := by
    rw [program_of_ne_nil hne hcap hd]
    rfl
  rw [heval] at hresult hworld
  rw [Memory.eval_of_session hown hbound hfound, h] at hresult
  rw [Memory.world_eval_of_session hown hbound hfound, h] at hworld
  exact ⟨hresult, hworld.trans (by simp [opened])⟩

/-- A request of a known principal is granted the documents that the table shows. -/
theorem granted_of_visible {visible : List Text} (m : Memory) (now : Nat)
    (hne : request.docIds ≠ []) (hcap : 1 ≤ policy.batchCap)
    (hd : deadlineOverflows request = false)
    (hself : Identity.ofNames? (some request.identity.username) request.identity.domain =
      some request.identity)
    (hvisible : m.table.visibleTo? request.identity = some visible) :
    Granted policy request m ((job policy request).run (Memory.repository name) now m) visible := by
  have heval := eval_configure_visible name hself m.sessions.length hvisible hcap
  constructor
  · intro hlt
    rw [if_pos hlt] at heval
    exact endsOver_of_eval policy request name hne hcap hd now heval
  · intro hle
    rw [if_neg (by omega)] at heval
    exact endsOver_of_eval policy request name hne hcap hd now heval

/-- **Over a table a request is a filter.** A principal with an entry under its qualified name,
even an empty one, is granted the documents of that entry; another one those of the entry under
its bare user name; and one without an entry is refused without a query. The cap has no part in
the result unless it is refused. In particular a principal from whom every document of its
qualified entry was revoked is granted none. -/
theorem run_over_table (policy : AuthorizationPolicy) (request : AuthorizationRequest)
    (name : String) (m : Memory) (now : Nat) (hne : request.docIds ≠ [])
    (hcap : 1 ≤ policy.batchCap) (hd : deadlineOverflows request = false)
    {username domain : Option Text}
    (hid : Identity.ofNames? username domain = some request.identity) :
    let run := fun m => (job policy request).run (Memory.repository name) now m
    let qualified := request.identity.qualifiedName
    (∀ visible, m.table.find? qualified = some visible →
      Granted policy request m (run m) visible) ∧
    (∀ visible, m.table.find? qualified = none →
      m.table.find? request.identity.username = some visible →
      Granted policy request m (run m) visible) ∧
    (m.table.find? qualified = none → m.table.find? request.identity.username = none →
      EndsOver m (run m) (.ok (.error (unknownPrincipal name request.identity)))
        ⟨m.table, none, true, 0⟩) ∧
    (∀ visible revoked, m.table.find? qualified = some visible → (∀ id ∈ visible, id ∈ revoked) →
      policy.batchCap < BatchCap.limit →
      (run (m.revoke qualified revoked)).result = some (.ok (.ok .empty))) := by
  intro run qualified
  have hself := Identity.ofNames?_self hid
  refine ⟨?_, ?_, ?_, ?_⟩
  · intro visible hfound
    refine granted_of_visible policy request name m now hne hcap hd hself ?_
    rw [PermissionTable.visibleTo?, hfound, Option.some_or]
  · intro visible hmissing hfound
    refine granted_of_visible policy request name m now hne hcap hd hself ?_
    rw [PermissionTable.visibleTo?, hmissing, hfound, Option.none_or]
  · intro hmissing hunknown
    refine endsOver_of_eval policy request name hne hcap hd now
      (eval_configure_unknown name hself m.sessions.length ?_)
    rw [PermissionTable.visibleTo?, hmissing, hunknown, Option.none_or]
  · intro visible revoked hfound hrevoked hlt
    have hempty : visible.filter (fun id => !revoked.contains id) = [] := by
      simpa using hrevoked
    have hleft : (m.revoke qualified revoked).table.find? qualified = some [] := by
      rw [← hempty]
      exact PermissionTable.find?_revoke_self hfound revoked
    have hgranted := granted_of_visible policy request name (m.revoke qualified revoked) now hne
      hcap hd hself (by rw [PermissionTable.visibleTo?, hleft, Option.some_or])
    rw [(hgranted.1 hlt).1]
    simp [AuthorizedDocuments.empty]

/-- A table with an entry for `CORP\u` beside one for `u`. -/
def twoEntries : Memory := .ofTable [("u", ["c"]), ("CORP\x5cu", ["b", "a"])]

/-- A request of `CORP\u` for four documents, one of them twice. -/
def fourOfCorp : AuthorizationRequest :=
  ⟨["a", "c", "b", "a"], ⟨"u", some "CORP"⟩, none, none⟩

/-- In batches of three, `a` is granted at both of its places, and `c` is not: it is only the bare
user name that sees it. Once `a` and `b` are revoked nothing is granted. -/
theorem run_over_two_entries :
    fourOfCorp.docIds ≠ [] ∧ 1 ≤ (capped 3).batchCap ∧ deadlineOverflows fourOfCorp = false ∧
      Identity.ofNames? (some " u ") (some "CORP") = some fourOfCorp.identity ∧
      EndsOver twoEntries
        ((job (capped 3) fourOfCorp).run (Memory.repository "memory") 0 twoEntries)
        (.ok (.ok ⟨["a", "b", "a"]⟩)) ⟨twoEntries.table, some ["b", "a"], true, 2⟩ ∧
      ((job (capped 3) fourOfCorp).run (Memory.repository "memory") 0
        (twoEntries.revoke "CORP\x5cu" ["a", "b"])).result = some (.ok (.ok .empty)) := by
  have hid : Identity.ofNames? (some " u ") (some "CORP") = some fourOfCorp.identity := by
    decide +kernel
  obtain ⟨hqualified, -, -, hrevoked⟩ := run_over_table (capped 3) fourOfCorp "memory" twoEntries 0
    (by decide) (by decide) rfl hid
  exact ⟨by decide, by decide, rfl, hid, (hqualified ["b", "a"] rfl).1 (by decide),
    hrevoked ["b", "a"] ["a", "b"] rfl (by decide) (by decide)⟩

/-- Under a cap at the limit a request of a known principal raises; with the cap of three it would
be granted its documents. -/
theorem raises_over_two_entries_at_cap_limit :
    1 ≤ (capped 9223372036854775808).batchCap ∧
      twoEntries.table.find? fourOfCorp.identity.qualifiedName =
        some [.wellFormed "b", .wellFormed "a"] ∧
      ((job (capped 9223372036854775808) fourOfCorp).run (Memory.repository "memory") 0
        twoEntries).result = some (.error (.value CapError.tooLarge.message)) := by
  have hid : Identity.ofNames? (some "u") (some "CORP") = some fourOfCorp.identity := by
    decide +kernel
  have hgranted := granted_of_visible (capped 9223372036854775808) fourOfCorp "memory" twoEntries 0
    (by decide) (by decide) rfl (Identity.ofNames?_self hid) rfl
  exact ⟨by decide, rfl, (hgranted.2 (by decide)).1⟩

end Authorization
end DocAccess
