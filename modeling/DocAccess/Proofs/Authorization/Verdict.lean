import DocAccess.Proofs.Authorization.Basic
import DocAccess.Proofs.Repository.Scripted

/-!
# The result of a request

When no call waits and none raises, the answers alone decide a request. `dialogue` collects
them without regard to the batches, the aggregate and the progress of the program: what opening
says, what impersonating says, and what each query says about its slice of the documents, even
after a query that fails.
-/
namespace DocAccess

variable {σ : Type}

/-- The answers to queries on a session, each asked in the world that the one before it left. -/
def Repository.replies (repository : Repository σ) (session : Nat) :
    List QueryRequest → σ → Except Fault (List (Except RepositoryError (List Row)))
  | [], _ => .ok []
  | q :: rest, w => do
    let (answer, w) ← repository.ask (.query session q) w
    let answers ← repository.replies session rest w
    return answer :: answers

/-- The documents of each slice that some row of its own answer names, in their order and with
their repetitions. -/
def confirmed (slices : List (List Text)) (answers : List (List Row)) : List Text :=
  (List.zipWith (fun ids rows => ids.filter fun id => rows.any (·.docId == id))
    slices answers).flatten

section Answers

variable {ε β : Type}

/-- A list of answers either succeeds throughout or has a first failure. -/
theorem ok_or_first_error (answers : List (Except ε β)) :
    (∃ bs : List β, answers = bs.map .ok) ∨
      ∃ (bs : List β) (e : ε) (rest : List (Except ε β)),
        answers = bs.map .ok ++ .error e :: rest := by
  induction answers with
  | nil => exact .inl ⟨[], rfl⟩
  | cons r answers ih =>
    cases r with
    | error e => exact .inr ⟨[], e, answers, rfl⟩
    | ok b =>
      rcases ih with ⟨bs, rfl⟩ | ⟨bs, e, rest, rfl⟩
      · exact .inl ⟨b :: bs, rfl⟩
      · exact .inr ⟨b :: bs, e, rest, rfl⟩

/-- A list of answers with a failure does not succeed throughout. -/
theorem map_ok_ne_append_error (bs cs : List β) (e : ε) (rest : List (Except ε β)) :
    bs.map .ok ≠ cs.map .ok ++ .error e :: rest := by
  intro h
  have hmem : (Except.error e : Except ε β) ∈ bs.map .ok := by rw [h]; simp
  obtain ⟨b, -, hb⟩ := List.mem_map.mp hmem
  cases hb

/-- A list of answers has one first failure. -/
theorem first_error_unique {bs cs : List β} {e f : ε} {rest rest' : List (Except ε β)}
    (h : bs.map .ok ++ .error e :: rest = cs.map .ok ++ .error f :: rest') :
    bs = cs ∧ e = f := by
  induction bs generalizing cs with
  | nil =>
    cases cs with
    | nil => exact ⟨rfl, by simpa using (List.cons.inj h).1⟩
    | cons c cs => exact absurd (List.cons.inj h).1 (by simp)
  | cons b bs ih =>
    cases cs with
    | nil => exact absurd (List.cons.inj h).1 (by simp)
    | cons c cs =>
      obtain ⟨hhead, htail⟩ := List.cons.inj h
      obtain ⟨rfl, rfl⟩ := ih htail
      exact ⟨by rw [Except.ok.inj hhead], rfl⟩

end Answers

namespace Authorization

variable (repository : Repository σ) (policy : AuthorizationPolicy)
  (request : AuthorizationRequest)

/-- The world in which the principal is impersonated, when the session was opened in `w`. -/
def limited (session : Session) (w : σ) : Except Fault σ :=
  match policy.queryLimit with
  | some limit =>
    if session.supportsTimeouts then
      (repository.ask (.setTimeout session.number limit) w).map Prod.snd
    else .ok w
  | none => .ok w

/-- The call that impersonates the principal of a request. -/
abbrev impersonation (session : Session) : Call :=
  .impersonate session.number request.identity.username request.identity.domain

/-- What the calls of a request say, unless one of them raises: a failure to open a session, or
else a failure to impersonate the principal, or else the answers to the queries for all
slices. -/
def dialogue (w : σ) : Except Fault
    (Except RepositoryError (Except RepositoryError (List (Except RepositoryError (List Row))))) :=
  do
    let (opened, w) ← repository.ask .openSession w
    match opened with
    | .error e => return .error e
    | .ok session =>
      let w ← limited repository policy session w
      let (impersonated, w) ← repository.ask (impersonation request session) w
      match impersonated with
      | .error e => return .ok (.error e)
      | .ok () =>
        let replies ← repository.replies session.number
          (questions policy.batchCap.toNat request.docIds) w
        return .ok (.ok replies)

/-- Caps that cut the documents alike lead to the same dialogue. -/
theorem dialogue_congr (policy' : AuthorizationPolicy)
    (hlimit : policy.queryLimit = policy'.queryLimit)
    (hcap : questions policy.batchCap.toNat request.docIds =
      questions policy'.batchCap.toNat request.docIds) (w : σ) :
    dialogue repository policy request w = dialogue repository policy' request w := by
  simp only [dialogue, limited, hlimit, hcap]

section Evaluation

variable {repository}

/-- Closing the session keeps a result that is there, however the closing ends. -/
theorem eval_close_finished (session : Session) (p : Progress) (result : AuthorizationResult)
    (w : σ) :
    ((close policy request session p (.finished result)).eval repository w).1 = .ok result := by
  rw [close, Program.eval]
  cases (repository.perform (.closeSession session.number) w).outcome <;>
    cases result <;> rfl

/-- Closing the session keeps a fault that is there, however the closing ends. -/
theorem eval_close_raised (session : Session) (p : Progress) (f : Fault) (w : σ) :
    ((close policy request session p (.raised f)).eval repository w).1 = .error f := by
  rw [close, Program.eval]
  cases (repository.perform (.closeSession session.number) w).outcome <;> rfl

/-- When every query succeeds, the confirmed documents of all batches follow those that the
aggregate holds. The batches must be the next ones of the aggregate: it refuses any other. -/
theorem eval_queryBatches_ok (session : Session) (bs : List Batch) (answers : List (List Row))
    (a : Aggregate) (p : Progress) (w : σ) (hnumbered : Numbered a.absorbed bs)
    (hreplies : repository.replies session.number (bs.map Batch.query) w =
      .ok (answers.map .ok)) :
    ((queryBatches policy request session bs a p).eval repository w).1 =
      .ok (.ok ⟨a.authorized.docIds ++ confirmed (bs.map Batch.docIds) answers⟩) := by
  induction bs generalizing answers a p w with
  | nil =>
    have hanswers : answers = [] := by
      simpa [Repository.replies] using hreplies.symm
    rw [queryBatches, eval_close_finished policy request, hanswers]
    simp [confirmed]
  | cons b bs ih =>
    have hb : b.index = a.absorbed := hnumbered.head
    obtain ⟨⟨answer, v⟩, hask, hrest⟩ := bind_eq_ok_iff.mp hreplies
    obtain ⟨others, hothers, heq⟩ := bind_eq_ok_iff.mp hrest
    cases answers with
    | nil => cases heq
    | cons rows answers =>
      obtain ⟨rfl, rfl⟩ := List.cons.inj (Except.ok.inj heq)
      rw [queryBatches, Program.eval_logAll, Program.eval_call repository hask]
      simp only [Aggregate.absorb, hb, if_true, Program.eval_logAll]
      rw [ih answers _ _ _ hnumbered.tail hothers]
      simp only [AuthorizedDocuments.docIds_extend, confirmed, List.map_cons,
        List.zipWith_cons_cons, List.flatten_cons, List.append_assoc]
      rfl

/-- The first query that fails decides the result, whatever was confirmed before it. -/
theorem eval_queryBatches_error (session : Session) (bs : List Batch)
    (answers : List (List Row)) (e : RepositoryError)
    (rest : List (Except RepositoryError (List Row))) (a : Aggregate) (p : Progress) (w : σ)
    (hnumbered : Numbered a.absorbed bs)
    (hreplies : repository.replies session.number (bs.map Batch.query) w =
      .ok (answers.map .ok ++ .error e :: rest)) :
    ((queryBatches policy request session bs a p).eval repository w).1 =
      .ok (.error (e.atBatch ((a.absorbed : Int) + answers.length))) := by
  induction bs generalizing answers a p w with
  | nil => cases answers <;> cases hreplies
  | cons b bs ih =>
    have hb : b.index = a.absorbed := hnumbered.head
    obtain ⟨⟨answer, v⟩, hask, hrest⟩ := bind_eq_ok_iff.mp hreplies
    obtain ⟨others, hothers, heq⟩ := bind_eq_ok_iff.mp hrest
    cases answers with
    | nil =>
      obtain ⟨rfl, -⟩ := List.cons.inj (Except.ok.inj heq)
      rw [queryBatches, Program.eval_logAll, Program.eval_call repository hask]
      simp only [eval_close_finished policy request, hb, List.length_nil]
      simp
    | cons rows answers =>
      obtain ⟨rfl, rfl⟩ := List.cons.inj (Except.ok.inj heq)
      rw [queryBatches, Program.eval_logAll, Program.eval_call repository hask]
      simp only [Aggregate.absorb, hb, if_true, Program.eval_logAll]
      rw [ih answers _ _ _ hnumbered.tail hothers]
      have hsum : ((a.absorbed + 1 : Nat) : Int) + answers.length =
          (a.absorbed : Int) + (rows :: answers).length := by
        rw [List.length_cons]
        push_cast
        omega
      rw [hsum]

/-- Limiting the queries of a session has no part in the result but for the world it leaves. -/
theorem eval_configure (session : Session) {w v : σ}
    (h : limited repository policy session w = .ok v) :
    (configure policy request session).eval repository w =
      (impersonate policy request session).eval repository v := by
  unfold limited at h
  rw [configure]
  cases hlimit : policy.queryLimit with
  | none =>
    rw [hlimit] at h
    cases h
    rfl
  | some limit =>
    rw [hlimit] at h
    by_cases hs : session.supportsTimeouts
    · simp only [hs, if_true] at h ⊢
      cases hask : repository.ask (.setTimeout session.number limit) w with
      | error f =>
        rw [hask] at h
        cases h
      | ok result =>
        rw [hask] at h
        cases h
        rw [Program.eval_call repository hask]
    · simp only [hs] at h ⊢
      cases h
      rfl

/-- What a dialogue says of the evaluation: a failure to open or to impersonate is the result,
and otherwise the queries decide, provided that the cap is accepted. -/
theorem eval_openSession {w : σ} {said}
    (hd : dialogue repository policy request w = .ok said) :
    match said with
    | .error e | .ok (.error e) =>
      ((openSession policy request).eval repository w).1 = .ok (.error e)
    | .ok (.ok replies) =>
      ∃ session v, repository.replies session.number
          (questions policy.batchCap.toNat request.docIds) v = .ok replies ∧
        ((openSession policy request).eval repository w).1 =
          (match BatchCap.ofInt? policy.batchCap with
            | .ok cap => ((queryBatches policy request session
                (BatchSource.ofList cap request.docIds).drain.1 .empty
                Progress.sessionOpening.batching).eval repository v).1
            | .error e => .error (.value e.message)) := by
  rw [dialogue] at hd
  obtain ⟨⟨opened, w₁⟩, hopen, hd⟩ := bind_eq_ok_iff.mp hd
  rw [openSession, Program.eval_call repository hopen]
  cases opened with
  | error e =>
    cases hd
    rfl
  | ok session =>
    obtain ⟨w₂, hlimit, hd⟩ := bind_eq_ok_iff.mp hd
    obtain ⟨⟨impersonated, w₃⟩, himp, hd⟩ := bind_eq_ok_iff.mp hd
    simp only
    rw [eval_configure policy request session hlimit, impersonate,
      Program.eval_call repository himp]
    cases impersonated with
    | error e =>
      cases hd
      exact eval_close_finished policy request _ _ _ _
    | ok u =>
      obtain ⟨replies, hreplies, hd⟩ := bind_eq_ok_iff.mp hd
      cases hd
      refine ⟨session, w₃, hreplies, ?_⟩
      simp only
      cases BatchCap.ofInt? policy.batchCap with
      | ok cap => rfl
      | error e => exact eval_close_raised policy request _ _ _ _

/-- Queries that all succeed make a success of the documents that they confirm. -/
theorem eval_of_answered {w : σ} {answers : List (List Row)} (hcap : 1 ≤ policy.batchCap)
    (hlt : policy.batchCap < BatchCap.limit)
    (hd : dialogue repository policy request w = .ok (.ok (.ok (answers.map .ok)))) :
    ((openSession policy request).eval repository w).1 =
      .ok (.ok ⟨confirmed (slices policy.batchCap.toNat request.docIds) answers⟩) := by
  obtain ⟨session, v, hreplies, heval⟩ := eval_openSession policy request hd
  have hpos : 0 < policy.batchCap.toNat := by omega
  rw [BatchCap.ofInt?_of_lt hcap hlt] at heval
  rw [← map_query_drain ⟨policy.batchCap.toNat, hpos⟩] at hreplies
  rw [heval]
  simp only
  rw [eval_queryBatches_ok policy request session _ answers .empty _ v
    (BatchSource.numbered_drain _ _) hreplies, BatchSource.map_docIds_drain]
  simp [Aggregate.empty, AuthorizedDocuments.empty]

/-- The first query that fails makes a failure of its own. -/
theorem eval_of_failed {w : σ} {answers : List (List Row)} {e : RepositoryError}
    {rest : List (Except RepositoryError (List Row))} (hcap : 1 ≤ policy.batchCap)
    (hlt : policy.batchCap < BatchCap.limit)
    (hd : dialogue repository policy request w =
      .ok (.ok (.ok (answers.map .ok ++ .error e :: rest)))) :
    ((openSession policy request).eval repository w).1 =
      .ok (.error (e.atBatch answers.length)) := by
  obtain ⟨session, v, hreplies, heval⟩ := eval_openSession policy request hd
  have hpos : 0 < policy.batchCap.toNat := by omega
  rw [BatchCap.ofInt?_of_lt hcap hlt] at heval
  rw [← map_query_drain ⟨policy.batchCap.toNat, hpos⟩] at hreplies
  rw [heval]
  simp only
  rw [eval_queryBatches_error policy request session _ answers e rest .empty _ v
    (BatchSource.numbered_drain _ _) hreplies]
  simp [Aggregate.empty]

/-- A cap at the limit raises once the principal is impersonated. -/
theorem eval_of_limit_le {w : σ} {replies : List (Except RepositoryError (List Row))}
    (hle : (BatchCap.limit : Int) ≤ policy.batchCap)
    (hd : dialogue repository policy request w = .ok (.ok (.ok replies))) :
    ((openSession policy request).eval repository w).1 =
      .error (.value CapError.tooLarge.message) := by
  obtain ⟨session, v, -, heval⟩ := eval_openSession policy request hd
  rw [heval, BatchCap.ofInt?_of_le hle]

/-- A request for documents has the result that its evaluation has from the opening on. -/
theorem result_eq_eval (h : repository.AtOnce) (hne : request.docIds ≠ [])
    (hcap : 1 ≤ policy.batchCap) (hd : deadlineOverflows request = false) (now : Nat)
    (world : σ) :
    ((job policy request).run repository now world).result =
      some ((openSession policy request).eval repository world).1 := by
  have hrun := (Program.run_of_atOnce repository h (program policy request)
    ((job policy request).expiry now) now world).1
  rw [program_of_ne_nil hne hcap hd, Program.eval_log, ← program_of_ne_nil hne hcap hd] at hrun
  exact hrun

end Evaluation

/-- **The answers decide.** When no call waits and none raises, a request without documents
succeeds without a call. Any other request succeeds exactly when opening, impersonating and all
queries do, and then with the documents of each slice that its own answer names; it fails with
the first failure, which takes the number of its batch when it is that of a query and names
none; and it raises a fault only for a cap at the limit, once the principal is impersonated. -/
theorem run_decided_by_answers (repository : Repository σ) (policy : AuthorizationPolicy)
    (request : AuthorizationRequest) (h : repository.AtOnce) (hcap : 1 ≤ policy.batchCap)
    (hd : deadlineOverflows request = false) (now : Nat) (world : σ)
    (said : Except RepositoryError
      (Except RepositoryError (List (Except RepositoryError (List Row)))))
    (hsaid : dialogue repository policy request world = .ok said) :
    let run := (job policy request).run repository now world
    (request.docIds = [] → run.result = some (.ok (.ok .empty)) ∧ run.happenings = []) ∧
    (request.docIds ≠ [] →
      (∀ docs, run.result = some (.ok (.ok docs)) ↔
        policy.batchCap < BatchCap.limit ∧ ∃ answers : List (List Row),
          said = .ok (.ok (answers.map .ok)) ∧
          docs = ⟨confirmed (slices policy.batchCap.toNat request.docIds) answers⟩) ∧
      (∀ e, run.result = some (.ok (.error e)) ↔
        said = .error e ∨ said = .ok (.error e) ∨
          policy.batchCap < BatchCap.limit ∧ ∃ (answers : List (List Row)) (f : RepositoryError)
            (rest : List (Except RepositoryError (List Row))),
            said = .ok (.ok (answers.map .ok ++ .error f :: rest)) ∧
              e = f.atBatch answers.length) ∧
      (∀ f, run.result = some (.error f) ↔
        (BatchCap.limit : Int) ≤ policy.batchCap ∧ (∃ replies, said = .ok (.ok replies)) ∧
          f = .value CapError.tooLarge.message) ∧
      run.result ≠ none) := by
  intro run
  constructor
  · intro hnil
    have hrun : run = ⟨some (.ok (.ok .empty)), [], world, now⟩ := by
      simp only [run, job, Job.run, program_of_nil hnil, Program.run]
    rw [hrun]
    exact ⟨rfl, rfl⟩
  · intro hne
    rw [result_eq_eval policy request h hne hcap hd]
    rcases said with e | e | replies
    · rw [eval_openSession policy request hsaid]
      simp [eq_comm]
    · rw [eval_openSession policy request hsaid]
      simp [eq_comm]
    · by_cases hlt : policy.batchCap < BatchCap.limit
      · have hnle : ¬ (BatchCap.limit : Int) ≤ policy.batchCap := by omega
        rcases ok_or_first_error replies with ⟨answers, rfl⟩ | ⟨answers, f, rest, rfl⟩
        · rw [eval_of_answered policy request hcap hlt hsaid]
          refine ⟨fun docs => ⟨?_, ?_⟩, fun e => ⟨?_, ?_⟩, by simp [hnle], by simp⟩
          · intro hdocs
            exact ⟨hlt, answers, rfl, by simpa using hdocs.symm⟩
          · rintro ⟨-, others, hothers, rfl⟩
            have heq : answers = others := by simpa [List.map_inj_right] using hothers
            rw [heq]
          · intro he
            simp at he
          · rintro (hbad | hbad | ⟨-, others, f, rest, hbad, -⟩)
            · cases hbad
            · cases hbad
            · have heq := Except.ok.inj (Except.ok.inj hbad)
              exact absurd heq (map_ok_ne_append_error _ _ _ _)
        · rw [eval_of_failed policy request hcap hlt hsaid]
          refine ⟨fun docs => ⟨?_, ?_⟩, fun e => ⟨?_, ?_⟩, by simp [hnle], by simp⟩
          · intro hdocs
            simp at hdocs
          · rintro ⟨-, others, hbad, -⟩
            have heq := Except.ok.inj (Except.ok.inj hbad)
            exact absurd heq.symm (map_ok_ne_append_error _ _ _ _)
          · intro he
            exact .inr (.inr ⟨hlt, answers, f, rest, rfl, by simpa using he.symm⟩)
          · rintro (hbad | hbad | ⟨-, others, g, tail, hothers, rfl⟩)
            · cases hbad
            · cases hbad
            · have heq := Except.ok.inj (Except.ok.inj hothers)
              obtain ⟨rfl, rfl⟩ := first_error_unique heq
              rfl
      · rw [eval_of_limit_le policy request (by omega) hsaid]
        simp only [hlt, false_and]
        refine ⟨by simp, by simp, fun f => ⟨?_, ?_⟩, by simp⟩
        · intro hf
          exact ⟨by omega, ⟨replies, rfl⟩, by simpa using hf.symm⟩
        · rintro ⟨-, -, rfl⟩
          rfl

/-- Two queries: the first answer names `a` and a document that was not asked about, the second
names nothing. -/
def twoAnswers : Script where
  opening := .plain
  supportsTimeouts := true
  impersonation := .plain
  queries := [⟨.plain, .rows [.ofDocument "z", .ofDocument "a"]⟩]
  defaultQuery := ⟨.plain, .rows []⟩
  closing := .plain

/-- A request for three documents, one of them twice. -/
def threeDocuments : AuthorizationRequest := ⟨["a", "b", "a"], ⟨"u", none⟩, none, none⟩

/-- Requests in batches of `cap`, without a limit for queries. -/
def capped (cap : Int) : AuthorizationPolicy := ⟨"scripted", none, cap, false⟩

/-- In batches of two, `a` is authorized at its first place only: the answer to the second batch
does not name it. -/
theorem run_decided_by_two_answers :
    (twoAnswers.repository "scripted").AtOnce ∧ 1 ≤ (capped 2).batchCap ∧
      deadlineOverflows threeDocuments = false ∧
      dialogue (twoAnswers.repository "scripted") (capped 2) threeDocuments [] =
        .ok (.ok (.ok [.ok [.ofDocument "z", .ofDocument "a"], .ok []])) ∧
      ((job (capped 2) threeDocuments).run (twoAnswers.repository "scripted") 0 []).result =
        some (.ok (.ok ⟨["a"]⟩)) := by
  have h : (twoAnswers.repository "scripted").AtOnce := Script.atOnce _ _ (by decide)
  have hrun := run_decided_by_answers _ (capped 2) threeDocuments h (by decide) rfl 0 [] _ rfl
  have hdocs := (hrun.2 (by decide)).1 ⟨["a"]⟩
  exact ⟨h, by decide, rfl, rfl,
    hdocs.mpr ⟨by decide, [[.ofDocument "z", .ofDocument "a"], []], rfl, rfl⟩⟩

/-- Under a cap at the limit a request raises although every call succeeds. -/
theorem raises_at_cap_limit :
    (twoAnswers.repository "scripted").AtOnce ∧ 1 ≤ (capped 9223372036854775808).batchCap ∧
      dialogue (twoAnswers.repository "scripted") (capped 9223372036854775808) threeDocuments [] =
        .ok (.ok (.ok [.ok [.ofDocument "z", .ofDocument "a"]])) ∧
      ((job (capped 9223372036854775808) threeDocuments).run
        (twoAnswers.repository "scripted") 0 []).result =
          some (.error (.value CapError.tooLarge.message)) := by
  have h : (twoAnswers.repository "scripted").AtOnce := Script.atOnce _ _ (by decide)
  -- Evaluating the dialogue under the huge cap would count it down; a cap of three cuts alike.
  have hcut : questions (capped 9223372036854775808).batchCap.toNat threeDocuments.docIds =
      questions (capped 3).batchCap.toNat threeDocuments.docIds := by decide +kernel
  have hsaid : dialogue (twoAnswers.repository "scripted") (capped 9223372036854775808)
      threeDocuments [] = .ok (.ok (.ok [.ok [.ofDocument "z", .ofDocument "a"]])) := by
    rw [dialogue_congr _ (capped 9223372036854775808) _ (capped 3) rfl hcut]
    rfl
  refine ⟨h, by decide, hsaid, ?_⟩
  rw [result_eq_eval _ _ h (by decide) (by decide) rfl]
  exact congrArg some (eval_of_limit_le _ _ (by decide) hsaid)

end Authorization
end DocAccess
