import DocAccess.Proofs.Remote.Address
import DocAccess.Proofs.Remote.History
import DocAccess.Proofs.Remote.Payload

/-!
# Which requests meet

A request for a session goes to the path of the identifier that the server gave the session, and
the identifier is put into that path as it is. One without separators is one segment of the path,
unless it is a dot segment; the requests for two such identifiers meet exactly if they are of one
kind and the identifiers are escaped alike. A separator in an identifier may make its requests meet
those for another one.

## Main definitions

* `Remote.Sent` — a request that was made for a session of an identifier.
* `Remote.Separated` — where the requests of a history went.

## Main statements

* `segments_of_address` — the address of a request for an identifier without separators.
* `separated_of_history` — where the requests of any calls go.
-/
namespace DocAccess

/-! ## Texts that are addresses -/

namespace Text

/-- Only well-formed texts make a well-formed one. -/
theorem exists_of_append_eq {a b : Text} {s : String} (h : a ++ b = .wellFormed s) :
    ∃ s₁ s₂, a = .wellFormed s₁ ∧ b = .wellFormed s₂ ∧ s = s₁ ++ s₂ := by
  have hpoints : ∀ ps, ofPoints ps = .wellFormed s → ∀ p ∈ ps, p.isValidChar := by
    intro ps hps
    unfold ofPoints at hps
    split at hps
    · assumption
    · cases hps
  cases a with
  | wellFormed s₁ =>
    cases b with
    | wellFormed s₂ => exact ⟨s₁, s₂, rfl, rfl, (wellFormed.inj h).symm⟩
    | illFormed ps broken =>
      exact absurd (fun p hp => hpoints _ h p (List.mem_append_right _ hp)) broken
  | illFormed ps broken =>
    have hjoined : ofPoints (ps ++ b.points) = .wellFormed s := by
      rw [← h]
      cases b <;> rfl
    exact absurd (fun p hp => hpoints _ hjoined p (List.mem_append_left _ hp)) broken

end Text

namespace Url

/-- Only a well-formed text may be an address, with its own characters. -/
theorem exists_of_checked {t : Text} {cs : List Char} (h : checked t = .ok cs) :
    ∃ s, t = .wellFormed s ∧ cs = s.toList := by
  simp only [checked] at h
  split at h
  · cases h
  · split at h
    · cases h
    · split at h
      · cases h
      · rename_i hvalid
        cases t with
        | wellFormed s =>
          refine ⟨s, rfl, ?_⟩
          rw [← Except.ok.inj h, Text.points, List.map_map]
          have hid : Char.ofNat ∘ Char.toNat = id := funext Char.ofNat_toNat
          rw [hid, List.map_id]
        | illFormed ps broken =>
          refine absurd (fun p hp => ?_) broken
          simpa only [Bool.not_eq_true, Bool.not_eq_false', decide_eq_true_eq] using
            List.find?_eq_none.mp hvalid p hp

/-- What is joined to a base is a text that may be an address. -/
theorem exists_checked_of_join {b : Base} {relative : Text} {url : String}
    (h : b.join relative = .ok url) : ∃ cs, checked relative = .ok cs := by
  unfold Base.join at h
  split at h
  · cases h
  · rename_i cs hcs
    exact ⟨cs, hcs⟩

end Url

namespace Remote

open Url (Whole Plain escape pathSpecial)

variable {config : RemoteConfig} {w : Remote} {number : Nat} {c : Call} {token : Text}

/-! ## The address of a request -/

/-- The segments of the path of a request, below that of its session. -/
def steps : Call → List (List Char)
  | .impersonate .. => ["impersonation".toList]
  | .query .. => ["queries".toList]
  | _ => []

/-- The segments that a request for an identifier shows below the base. -/
def shown (s : String) (c : Call) : List (List Char) :=
  "sessions".toList :: escape pathSpecial s.toList :: steps c

/-- The segments below a session are plain and without separators, and shown as they are. -/
theorem of_mem_steps : ∀ s ∈ steps c, Plain s ∧ Whole s ∧ escape pathSpecial s = s := by
  have himpersonation : Plain "impersonation".toList ∧ Whole "impersonation".toList ∧
      escape pathSpecial "impersonation".toList = "impersonation".toList :=
    ⟨by decide, by decide, by decide⟩
  have hqueries : Plain "queries".toList ∧ Whole "queries".toList ∧
      escape pathSpecial "queries".toList = "queries".toList := ⟨by decide, by decide, by decide⟩
  cases c with
  | impersonate => exact List.forall_mem_singleton.mpr himpersonation
  | query => exact List.forall_mem_singleton.mpr hqueries
  | _ => exact fun s hs => absurd hs List.not_mem_nil

/-- The path of a segment below the sessions. -/
theorem joinSegments_steps (s : List Char) (c : Call) :
    Url.joinSegments ("sessions".toList :: s :: steps c) =
      "sessions/".toList ++ s ++ (suffix c).toList := by
  cases c <;> simp [suffix, steps, Url.joinSegments]

/-- The path of a request is made of segments. -/
theorem sessionPath_eq (s : String) (c : Call) :
    ∃ path : String, sessionPath s (suffix c) = .wellFormed path ∧
      path.toList = '/' :: Url.joinSegments ("sessions".toList :: s.toList :: steps c) := by
  refine ⟨"/sessions/" ++ s ++ suffix c, rfl, ?_⟩
  rw [joinSegments_steps, String.toList_append, String.toList_append]
  rfl

/-- An address below the base is that of a well-formed text. -/
theorem exists_of_address {path : Text} {url : String} (h : address config path = .ok url) :
    ∃ b s, base config = .ok b ∧ path = .wellFormed s ∧ Url.checked path = .ok s.toList ∧
      b.join path = .ok url := by
  unfold address at h
  split at h
  · cases h
  · rename_i b hb
    obtain ⟨cs, hcs⟩ := Url.exists_checked_of_join h
    obtain ⟨s, rfl, rfl⟩ := Url.exists_of_checked hcs
    exact ⟨b, s, hb, rfl, hcs, h⟩

/-- The address of the sessions. -/
theorem segments_of_opening {b : Url.Base} (hb : base config = .ok b) {url : String}
    (h : address config "/sessions" = .ok url) :
    url.toList = b.frame.address ["sessions".toList] := by
  obtain ⟨b', s, hb', hpath, hchecked, hjoin⟩ := exists_of_address h
  cases hb.symm.trans hb'
  have hwhole : ∀ u ∈ ["sessions".toList], Whole u := by decide
  have hsessions : Url.checked "/sessions" = .ok ('/' :: Url.joinSegments ["sessions".toList]) := by
    rw [hchecked, ← Text.wellFormed.inj hpath]
    rfl
  exact Url.Base.join_segments (Url.Base.getLast?_of_parse hb) (by decide) hwhole hsessions hjoin

/-- **The address of a request for an identifier** without separators. -/
theorem segments_of_address {url : String}
    (h : address config (sessionPath token (suffix c)) = .ok url) :
    ∃ b s, base config = .ok b ∧ token = .wellFormed s ∧
      (Whole s.toList → url.toList = b.frame.address (shown s c)) := by
  obtain ⟨b, path, hb, hpath, hchecked, hjoin⟩ := exists_of_address h
  obtain ⟨front, back, hfront, -, -⟩ := Text.exists_of_append_eq hpath
  obtain ⟨-, s, -, rfl, -⟩ := Text.exists_of_append_eq hfront
  obtain ⟨path', hpath', hchars⟩ := sessionPath_eq s c
  refine ⟨b, s, hb, rfl, fun hwhole => ?_⟩
  rw [Text.wellFormed.inj (hpath.symm.trans hpath'), hchars] at hchecked
  have hall : ∀ u ∈ "sessions".toList :: s.toList :: steps c, Whole u := by
    refine List.forall_mem_cons.mpr ⟨by decide, List.forall_mem_cons.mpr ⟨hwhole, ?_⟩⟩
    exact fun u hu => (of_mem_steps u hu).2.1
  have hraw := Url.Base.getLast?_of_parse hb
  have hsteps : (steps c).map (escape pathSpecial) = steps c :=
    (List.map_congr_left fun u hu => (of_mem_steps u hu).2.2).trans (List.map_id _)
  rw [Url.Base.join_segments hraw (by decide) hall hchecked hjoin, List.map_cons, List.map_cons,
    hsteps]
  rfl

/-! ## The requests of a history -/

/-- The call makes a request for the session. -/
def Asks (number : Nat) (c : Call) : Prop := c.Posts number ∨ c = .closeSession number

/-- Method, path and segments of the requests for a session, below that of the session. -/
def kinds : List (String × String × List (List Char)) :=
  [("POST", "/impersonation", ["impersonation".toList]), ("POST", "/queries", ["queries".toList]),
    ("DELETE", "", [])]

/-- There are three kinds of requests for a session. -/
theorem mem_kinds (h : Asks number c) : (method c, suffix c, steps c) ∈ kinds := by
  cases c with
  | impersonate => exact List.mem_cons_self
  | query => exact List.mem_cons_of_mem _ List.mem_cons_self
  | closeSession => exact List.mem_cons_of_mem _ (List.mem_cons_of_mem _ List.mem_cons_self)
  | openSession => exact absurd h (by simp [Asks, Call.Posts])
  | setTimeout => exact absurd h (by simp [Asks, Call.Posts])

/-- Requests of one method have as many segments, and the segments tell the kind. -/
theorem of_mem_kinds : ∀ k ∈ kinds, ∀ k' ∈ kinds,
    (k.1 = k'.1 → k.2.2.length = k'.2.2.length) ∧ (k.2.1 = k'.2.1 ↔ k.2.2 = k'.2.2) ∧
      (k.2.1 = k'.2.1 → k.1 = k'.1) := by
  decide

/-- A request that a call made for a session of an identifier. -/
def Sent (config : RemoteConfig) (es : List Entry) (token : Text) (c : Call) (r : RemoteCall) :
    Prop :=
  ∃ e ∈ es, ∃ n, e.call = c ∧ c.session? = some n ∧ (tokens config es)[n]? = some token ∧
    r ∈ e.requests

/-- Every request that a call made for a session went to the path of its identifier. -/
def Requested (config : RemoteConfig) (es : List Entry) : Prop :=
  ∀ e ∈ es, ∀ n, e.call.session? = some n → ∀ r ∈ e.requests, Asks n e.call ∧
    ∃ token, (tokens config es)[n]? = some token ∧
      r.Targets config (method e.call) (sessionPath token (suffix e.call)) (requestBody e.call)

/-- A call on a session requests something for the session or nothing. -/
theorem asks_of_mem_requests {es : List Entry} (h : Accounts config es w)
    (hc : c.session? = some number) {r : RemoteCall} (hr : r ∈ (observe config c w).1.requests) :
    Asks number c ∧ ∃ token, (tokens config es)[number]? = some token ∧
      r.Targets config (method c) (sessionPath token (suffix c)) (requestBody c) := by
  by_cases hn : number < Remote.opens es
  · obtain ⟨token, htoken, hs⟩ := h.exists_session hn
    refine ⟨?_, token, htoken, (requests_of_observe config hc hs r hr).2⟩
    cases c with
    | openSession => cases hc
    | impersonate => exact .inl (Option.some.inj hc)
    | query => exact .inl (Option.some.inj hc)
    | closeSession => exact .inr (by rw [Option.some.inj hc])
    | setTimeout n limit =>
      cases hc
      obtain ⟨-, hworld⟩ := perform_limiting config hs limit
      simp [observe, hworld, modifySession] at hr
  · obtain ⟨-, hworld⟩ := perform_of_unknown config hc (h.no_session hn)
    simp [observe, hworld] at hr

/-- A call keeps what was requested. -/
theorem Requested.cons {es : List Entry} (h : Requested config es)
    (haccounts : Accounts config es w) (c : Call) :
    Requested config ((observe config c w).1 :: es) := by
  have hkept : ∀ {n : Nat} {token}, (tokens config es)[n]? = some token →
      (tokens config ((observe config c w).1 :: es))[n]? = some token := by
    intro n token htoken
    rw [tokens_cons, List.getElem?_append_left (List.getElem?_eq_some_iff.mp htoken).1, htoken]
  intro e he n hn r hr
  rcases List.mem_cons.mp he with rfl | he
  · obtain ⟨hasks, token, htoken, htargets⟩ := asks_of_mem_requests haccounts hn hr
    exact ⟨hasks, token, hkept htoken, htargets⟩
  · obtain ⟨hasks, token, htoken, htargets⟩ := h e he n hn r hr
    exact ⟨hasks, token, hkept htoken, htargets⟩

/-- What was sent for an identifier went to its path. -/
theorem Requested.of_sent {es : List Entry} (h : Requested config es) {r : RemoteCall}
    (hsent : Sent config es token c r) : (∃ n, Asks n c) ∧
      r.Targets config (method c) (sessionPath token (suffix c)) (requestBody c) := by
  obtain ⟨e, he, n, rfl, hn, htoken, hr⟩ := hsent
  obtain ⟨hasks, token', htoken', htargets⟩ := h e he n hn r hr
  cases htoken.symm.trans htoken'
  exact ⟨⟨n, hasks⟩, htargets⟩

/-- Where the requests for sessions went, and when they met. -/
structure Separated (config : RemoteConfig) (es : List Entry) : Prop where
  /-- Every request for a session went to the path of its identifier, which is well formed. -/
  sent : ∀ e ∈ es, ∀ n, e.call.session? = some n → ∀ r ∈ e.requests,
    ∃ s : String, Sent config es s e.call r ∧
      r.Targets config (method e.call) (sessionPath s (suffix e.call)) (requestBody e.call)
  /-- An identifier without separators that is no dot segment is one segment below the sessions. -/
  segment : ∃ front back : List Char,
    (∀ url, address config "/sessions" = .ok url →
      url.toList = front ++ "sessions".toList ++ back) ∧
    ∀ (s : String) c r, Sent config es s c r → Whole s.toList → Plain s.toList →
      r.url.toList = front ++ ("sessions/".toList ++ escape pathSpecial s.toList ++
        (suffix c).toList) ++ back
  /-- Requests for identifiers without separators meet exactly if they are of one kind and the
  identifiers are escaped alike. -/
  meet : ∀ (s s' : String) c c' r r', Sent config es s c r → Sent config es s' c' r' →
    Whole s.toList →
    Whole s'.toList → (r.method = r'.method ∧ r.url = r'.url ↔
      suffix c = suffix c' ∧ escape pathSpecial s.toList = escape pathSpecial s'.toList)
  /-- Requests for different identifiers without separators and percent signs never meet. -/
  apart : ∀ (s s' : String) c c' r r', Sent config es s c r → Sent config es s' c' r' →
    Whole s.toList →
    Whole s'.toList → '%' ∉ s.toList → '%' ∉ s'.toList → s ≠ s' →
    ¬(r.method = r'.method ∧ r.url = r'.url)

/-- The address of what was sent for an identifier without separators. -/
theorem Requested.segments {es : List Entry} (h : Requested config es) {s : String}
    {r : RemoteCall} (hsent : Sent config es s c r) (hwhole : Whole s.toList) :
    ∃ b, base config = .ok b ∧ r.url.toList = b.frame.address (shown s c) := by
  obtain ⟨-, htargets⟩ := h.of_sent hsent
  obtain ⟨b, s', hb, hs', hsegments⟩ := segments_of_address htargets.url
  cases hs'
  exact ⟨b, hb, hsegments hwhole⟩

/-- When requests for identifiers without separators meet. -/
theorem Requested.meet {es : List Entry} (h : Requested config es) {s s' : String} {c c' : Call}
    {r r' : RemoteCall} (hsent : Sent config es s c r) (hsent' : Sent config es s' c' r')
    (hwhole : Whole s.toList) (hwhole' : Whole s'.toList) : r.method = r'.method ∧ r.url = r'.url ↔
      suffix c = suffix c' ∧ escape pathSpecial s.toList = escape pathSpecial s'.toList := by
  obtain ⟨⟨n, hasks⟩, htargets⟩ := h.of_sent hsent
  obtain ⟨⟨n', hasks'⟩, htargets'⟩ := h.of_sent hsent'
  obtain ⟨b, hb, hurl⟩ := h.segments hsent hwhole
  obtain ⟨b', hb', hurl'⟩ := h.segments hsent' hwhole'
  cases hb.symm.trans hb'
  obtain ⟨hlength, hsteps, hmethod⟩ := of_mem_kinds _ (mem_kinds hasks) _ (mem_kinds hasks')
  have hslash : ∀ {u : String}, Whole u.toList → '/' ∉ escape pathSpecial u.toList :=
    fun hu => (Url.whole_escape hu.not_mem).not_mem
  have hmore : ∀ c : Call, ∀ u ∈ steps c, Plain u ∧ '/' ∉ u :=
    fun c u hu => ⟨(of_mem_steps u hu).1, (of_mem_steps u hu).2.1.not_mem⟩
  have hlists : r.url = r'.url ↔ r.url.toList = r'.url.toList := String.toList_inj.symm
  rw [htargets.method_eq, htargets'.method_eq, hlists, hurl, hurl']
  constructor
  · rintro ⟨hmethods, haddress⟩
    have hsame := (Url.Frame.address_inj b.not_mem_of_mem_kept (by decide) (by decide) (by decide)
      (hslash hwhole) (hslash hwhole') (hmore c) (hmore c') (hlength hmethods)).mp haddress
    exact ⟨hsteps.mpr hsame.2, hsame.1⟩
  · rintro ⟨hsuffix, hs⟩
    refine ⟨hmethod hsuffix, ?_⟩
    have hsame : steps c = steps c' := hsteps.mp hsuffix
    rw [shown, shown, hs, hsame]

/-- What was requested is separated. -/
theorem Requested.separated {es : List Entry} (h : Requested config es) : Separated config es where
  sent e he n hn r hr := by
    obtain ⟨-, token, htoken, htargets⟩ := h e he n hn r hr
    obtain ⟨-, s, -, rfl, -⟩ := segments_of_address htargets.url
    exact ⟨s, ⟨e, he, n, rfl, hn, htoken, hr⟩, htargets⟩
  segment := by
    cases hb : base config with
    | error f =>
      refine ⟨[], [], fun url hurl => ?_, fun s c r hsent hwhole => ?_⟩
      · obtain ⟨b, -, hb', -⟩ := exists_of_address hurl
        cases hb.symm.trans hb'
      · obtain ⟨b, hb', -⟩ := h.segments hsent hwhole
        cases hb.symm.trans hb'
    | ok b =>
      refine ⟨b.frame.front ++ b.frame.kept.flatMap (· ++ ['/']), b.frame.back, fun url hurl => ?_,
        fun s c r hsent hwhole hplain => ?_⟩
      · rw [segments_of_opening hb hurl, b.frame.address_of_plain (by decide) (by decide)]
        rfl
      · obtain ⟨b', hb', hurl⟩ := h.segments hsent hwhole
        cases hb.symm.trans hb'
        have hall : ∀ u ∈ shown s c, Plain u := by
          refine List.forall_mem_cons.mpr ⟨by decide, List.forall_mem_cons.mpr
            ⟨Url.plain_escape hplain, fun u hu => (of_mem_steps u hu).1⟩⟩
        rw [hurl, b.frame.address_of_plain hall (List.cons_ne_nil _ _), shown, joinSegments_steps]
  meet s s' c c' r r' hsent hsent' := h.meet hsent hsent'
  apart s s' c c' r r' hsent hsent' hwhole hwhole' hpercent hpercent' hne hmeet := by
    obtain ⟨-, hescape⟩ := (h.meet hsent hsent' hwhole hwhole').mp hmeet
    exact hne (String.toList_inj.mp (Url.escape_injective hpercent hpercent' hescape))

/-- **Where the requests of any calls go**, with any replies. -/
theorem separated_of_history (config : RemoteConfig) (script : List Exchange) (calls : List Call) :
    Separated config (History.run (observe config) (ofScript script) calls).entries := by
  let I := fun (es : List Entry) (w : Remote) => Accounts config es w ∧ Requested config es
  have hstart : I [] (ofScript script) :=
    ⟨accounts_ofScript config script, fun e he => absurd he List.not_mem_nil⟩
  have hstep : ∀ c es w, I es w → I ((observe config c w).1 :: es) (observe config c w).2 := by
    rintro c es w ⟨haccounts, hrequested⟩
    exact ⟨haccounts.observe c, hrequested.cons haccounts c⟩
  exact (History.invariant (observe config) hstart hstep calls).2.separated

/-- A server that opens two sessions, the second under an identifier with separators. -/
def steppingScript : List Exchange :=
  [⟨.immediate, .respond (.ofText "\x7b\"session_id\":\"s\"\x7d" "application/json")⟩,
    ⟨.immediate, .respond (.ofText "\x7b\"session_id\":\"x/../s\"\x7d" "application/json")⟩]

/-- **Requests for different identifiers meet**: two impersonations, of two principals. -/
theorem impersonations_meet :
    let h := History.run (observe plainConfig) (ofScript steppingScript)
      [.openSession, .openSession, .impersonate 0 "u" none, .impersonate 1 "v" none]
    tokens plainConfig h.entries = (["s", "x/../s"] : List Text) ∧
      (h.world.calls.drop 2).map (fun r => (r.method, r.url)) =
        [("POST", "https://r/api/sessions/s/impersonation"),
          ("POST", "https://r/api/sessions/s/impersonation")] := by
  decide +kernel

end Remote
end DocAccess
