import DocAccess.Proofs.Remote.Client

/-!
# Open clients

How many clients are open after a call. Work on a session leaves their number as it is, and
closing a session closes its client, however that ends. Opening a session creates one. It stays
open with the session; without one it is closed again, unless the request had no address, was
cancelled, or had a reply that strands it.

## Main definitions

* `Reply.strands` — a reply after which the client of an opening stays open without a session.
* `Remote.leavesClient` — an opening that leaves its client open without a session.
* `Remote.balance` — clients created less clients closed.

## Main statements

* `balance_of_opening`, `ledger_of_works`, `balance_of_closing` — what each call does to clients.
-/
namespace DocAccess

/-- Whether the reply ends an opening before its client is closed: a fault other than one of
transport, or a body nested too deeply to be read. -/
def Reply.strands (config : RemoteConfig) : Reply → Bool
  | .raise f =>
    match f.kind with
    | .transport _ => false
    | _ => true
  | .respond r =>
    match Remote.token? config r with
    | .error _ => true
    | .ok _ => false

namespace Remote

variable {config : RemoteConfig} {w w' : Remote} {v : Visit}

/-- Whether an opening in the world `w` leaves a client open although it opens no session. Without
a base address there is none. -/
def leavesClient (config : RemoteConfig) (w : Remote) (opening : Visit) : Bool :=
  match base config with
  | .error _ => false
  | .ok base =>
    match base.join "/sessions" with
    | .error _ => true
    | .ok _ => opening.cancelled || w.next.reply.strands config

/-- Clients created less clients closed. -/
def balance (w : Remote) : Int := w.clientsOpened - w.clientsClosed

/-- The open clients are those created less those closed. -/
theorem openClients_eq (w : Remote) : w.openClients = w.balance.toNat := by
  simp only [openClients, balance]
  omega

@[simp] theorem balance_closeClient (w : Remote) : w.closeClient.balance = w.balance - 1 := by
  simp only [closeClient, balance]
  omega

@[simp] theorem balance_modifySession (w : Remote) (number : Nat)
    (f : RemoteSession → RemoteSession) : (w.modifySession number f).balance = w.balance := rfl

@[simp] theorem balance_closeSessionClient (w : Remote) (number : Nat) :
    (w.closeSessionClient number).balance = w.balance - 1 := balance_closeClient _

@[simp] theorem balance_played (w : Remote) (call : RemoteCall) :
    (w.played call).balance = w.balance := rfl

/-- The session is there, and nobody has begun to close it. -/
def Stands (w : Remote) (number : Nat) : Prop :=
  ∃ s, w.sessions[number]? = some s ∧ s.isClosing = false

/-! ## Opening -/

/-- The end of an opening leaves its client to the session, closes it, or strands it. -/
theorem balance_finishOpen (config : RemoteConfig) (reply : Reply) (v : Remote) :
    ((∃ session, (finishOpen config reply v).outcome = .ok (.ok session) ∧
        reply.strands config = false ∧ (finishOpen config reply v).world.Stands session.number ∧
        (finishOpen config reply v).world.balance = v.balance) ∨
      (∀ session, (finishOpen config reply v).outcome ≠ .ok (.ok session)) ∧
        (finishOpen config reply v).world.balance =
          v.balance - 1 + (reply.strands config).toNat) := by
  cases reply with
  | raise f =>
    refine .inr ?_
    simp only [finishOpen, Reply.strands]
    cases f.kind <;> simp
  | respond r =>
    simp only [finishOpen, Reply.strands]
    cases token? config r with
    | error f => simp
    | ok token =>
      cases token with
      | some token =>
        exact .inl ⟨_, rfl, rfl, ⟨⟨token, config.limit, false, true⟩, by simp, rfl⟩, rfl⟩
      | none =>
        refine .inr ⟨fun session => refused_ne_ok _ _ _ _ _, ?_⟩
        simp [refused]

/-- A client that was created is one more, and stays open when its request has no address. -/
theorem balance_created {f : Fault} (haddress : address config "/sessions" = .error f)
    (w : Remote) (v : Visit) :
    (created config w).balance = w.balance + (leavesClient config w v).toNat := by
  unfold created leavesClient
  cases hbase : base config with
  | error g => simp
  | ok b =>
    have hjoin : b.join "/sessions" = .error f := by simpa [address, hbase] using haddress
    simp only [hjoin, balance, Bool.toNat_true]
    omega

/-- An opening whose request has an address leaves its client when it is cancelled or has a reply
that strands it. -/
theorem leavesClient_of_targets {call : RemoteCall}
    (htargets : call.Targets config "POST" "/sessions" .null) (w : Remote) (v : Visit) :
    leavesClient config w v = (v.cancelled || w.next.reply.strands config) := by
  have haddress := htargets.url
  unfold address at haddress
  unfold leavesClient
  cases hbase : base config with
  | error g =>
    rw [hbase] at haddress
    cases haddress
  | ok b =>
    rw [hbase] at haddress
    change b.join "/sessions" = _ at haddress
    simp only [haddress]

/-- **What an opening does to clients.** It leaves one open to its session; without a session it
leaves one open if its end does, and none otherwise. -/
theorem balance_of_opening (h : (repository config).Takes w v w') (hcall : v.call = .openSession)
    (hended : v.ending ≠ none) :
    (∃ session, v.opened? = some session ∧ leavesClient config w v = false ∧
      w'.Stands session.number ∧ w'.balance = w.balance + 1) ∨
    (v.opened? = none ∧ w'.balance = w.balance + (leavesClient config w v).toNat) := by
  have hworld := h.world_eq hended
  have hopened := h.opened_iff hcall hended
  obtain ⟨c, began, ending⟩ := v
  cases hcall
  simp only [Repository.perform, repository] at hworld hopened
  rcases startOpen_cases config w with ⟨f, haddress, hstart⟩ | ⟨call, htargets, hstart⟩
  · rw [hstart] at hworld hopened
    refine .inr ⟨?_, ?_⟩
    · cases hcancel : Visit.cancelled ⟨.openSession, began, ending⟩ with
      | true => exact Visit.opened?_of_cancelled hcancel
      | false =>
        refine Option.eq_none_iff_forall_ne_some.mpr fun session hsome => ?_
        cases (hopened hcancel session).mp hsome
    · simp only [Started.atOnce, ite_self] at hworld
      rw [hworld]
      exact balance_created haddress w _
  · rw [leavesClient_of_targets htargets]
    rw [hstart] at hworld hopened
    have hone : ({ w.played call with clientsOpened := w.clientsOpened + 1 } : Remote).balance =
        w.balance + 1 := by
      simp only [balance, played]
      omega
    cases hcancel : Visit.cancelled ⟨.openSession, began, ending⟩ with
    | true =>
      -- The client was created before the wait, and nothing closes it when the wait is cancelled.
      simp only [hcancel, if_true, id_eq] at hworld
      refine .inr ⟨Visit.opened?_of_cancelled hcancel, ?_⟩
      rw [hworld, hone]
      rfl
    | false =>
      have hiff := hopened hcancel
      simp only [hcancel, Bool.false_eq_true, if_false] at hworld
      rw [hworld]
      rcases balance_finishOpen config w.next.reply
        { w.played call with clientsOpened := w.clientsOpened + 1 } with
        ⟨session, houtcome, hstrands, hstands, hbalance⟩ | ⟨hnone, hbalance⟩
      · refine .inl ⟨session, (hiff session).mpr houtcome, by simp [hstrands], hstands, ?_⟩
        exact hbalance.trans hone
      · refine .inr ⟨?_, ?_⟩
        · refine Option.eq_none_iff_forall_ne_some.mpr fun session hsome => ?_
          exact hnone session ((hiff session).mp hsome)
        · refine hbalance.trans ?_
          rw [hone]
          simp

/-! ## Work and closing -/

/-- What work on a session leaves as it is: the balance, and which sessions are being closed. -/
def ledger (w : Remote) : Int × List Bool := (w.balance, w.sessions.map RemoteSession.isClosing)

/-- A session stands while the ledger is the same. -/
theorem Stands.of_ledger {number : Nat} (h : w.Stands number) (hledger : w'.ledger = w.ledger) :
    w'.Stands number := by
  obtain ⟨s, hs, hclosing⟩ := h
  have hmap : w'.sessions.map RemoteSession.isClosing = w.sessions.map RemoteSession.isClosing :=
    congrArg Prod.snd hledger
  have hget := congrArg (fun bs : List Bool => bs[number]?) hmap
  simp only [List.getElem?_map, hs, Option.map_some] at hget
  obtain ⟨s', hs', hclosing'⟩ := Option.map_eq_some_iff.mp hget
  exact ⟨s', hs', hclosing'.trans hclosing⟩

/-- A limit is not in the ledger. -/
theorem ledger_modifySession_limit (w : Remote) (number : Nat) (limit : Seconds) :
    (w.modifySession number fun s => { s with limit }).ledger = w.ledger := by
  have hmap : (w.sessions.modify number fun s => { s with limit }).map RemoteSession.isClosing =
      w.sessions.map RemoteSession.isClosing := by
    refine List.ext_getElem? fun i => ?_
    simp only [List.getElem?_map, List.getElem?_modify]
    by_cases hi : number = i
    · cases w.sessions[i]? <;> simp [hi]
    · simp [hi]
  simp only [ledger, modifySession, balance, hmap]

/-- **Work on a session leaves the ledger as it is.** -/
theorem ledger_of_works (h : (repository config).Takes w v w') (hopen : v.call ≠ .openSession)
    (hclose : ∀ number, v.call ≠ .closeSession number) : w'.ledger = w.ledger := by
  obtain ⟨c, began, ending⟩ := v
  cases c with
  | openSession => exact absurd rfl hopen
  | closeSession number => exact absurd rfl (hclose number)
  | setTimeout number limit =>
    have hstart : ((repository config).start (.setTimeout number limit) w).world.ledger =
        w.ledger := by
      simp only [repository, onSession]
      cases w.sessions[number]? with
      | none => rfl
      | some s => exact ledger_modifySession_limit w number limit
    refine (h.observe ledger ?_ ?_).trans hstart
    · intro u
      simp only [repository, onSession]
      cases w.sessions[number]? <;> rfl
    · intro u
      simp only [repository, onSession]
      cases w.sessions[number]? <;> rfl
  | impersonate number username domain =>
    rcases played_of_takes h (.inl ⟨_, _, _, rfl⟩) with rfl | ⟨call, rfl⟩ <;> rfl
  | query number request =>
    rcases played_of_takes h (.inr ⟨_, _, rfl⟩) with rfl | ⟨call, rfl⟩ <;> rfl

@[simp] theorem balance_finishClose (number : Nat) (reply : Reply) (v : Remote) :
    (finishClose number reply v).world.balance = v.balance - 1 := by
  cases reply <;> simp [finishClose]

/-- **Closing a session that stands closes its client**, however it ends. -/
theorem balance_of_closing {number : Nat} (h : (repository config).Takes w v w')
    (hcall : v.call = .closeSession number) (hended : v.ending ≠ none)
    (hstands : w.Stands number) : w'.balance = w.balance - 1 := by
  have hworld := h.world_eq hended
  obtain ⟨c, began, ending⟩ := v
  cases hcall
  obtain ⟨s, hs, hclosing⟩ := hstands
  simp only [Repository.perform, repository, onSession, hs, startClose, hclosing] at hworld
  rcases startRequest_cases config (w.modifySession number fun s => { s with isClosing := true }) s
    "DELETE" "" .null (finishClose number) (closeSessionClient · number)
    (fun f => .atOnce ((w.modifySession number fun s => { s with isClosing := true
      }).closeSessionClient number) (.error f) []) with ⟨f, -, hstart⟩ | ⟨call, -, hstart⟩
  · simp only [hstart, Bool.false_eq_true, if_false] at hworld
    rw [hworld]
    split <;> simp [Started.atOnce]
  · simp only [hstart, Bool.false_eq_true, if_false] at hworld
    rw [hworld]
    split <;> simp

end Remote
end DocAccess
