import DocAccess.Proofs.Schema.Request

/-!
# What is wrong with a body

A body of the right shape lists texts as documents, names an identity by texts, and may set a number
of seconds. Every place of it is checked, whatever is wrong at the others: the issues of the body
are those of its places, in the order of the places, and the body is accepted when there are none.
Nothing is ever wrong with a domain, and surrogates on their own only where a document is listed.
What is accepted has the documents of the body as they were sent.

## Main definitions

* `Judged` — a value is judged with the issues that it has.
* `CheckBody` — a body of the right shape.
* `CheckBody.Acceptable`, `CheckBody.issues` — what is demanded of it, and what is wrong with it.

## Main statements

* `Judged.both` — the issues of two values come together.
* `judged_body` — a body is judged with all of its issues.
* `CheckBody.issues_eq_nil_iff` — an acceptable body has none.
-/
namespace DocAccess

variable {α β : Type}

/-! ## The sign of a double -/

namespace Binary64

theorem roundHalfEven_zero {den : Nat} (h : 0 < den) : roundHalfEven 0 den = 0 := by
  simp [roundHalfEven, h]

theorem div_le_roundHalfEven (num den : Nat) : num / den ≤ roundHalfEven num den := by
  unfold roundHalfEven
  simp only
  split
  · exact Nat.le_refl _
  · split
    · exact Nat.le_succ _
    · split
      · exact Nat.le_refl _
      · exact Nat.le_succ _

theorem twoTo_pos (n : Nat) : 0 < twoTo n := Nat.two_pow_pos n

/-- Rounding keeps zero, and takes nothing else to zero. -/
theorem units_eq_zero_iff (scaled : Nat) :
    roundHalfEven scaled (twoTo (spacing scaled)) * twoTo (spacing scaled) = 0 ↔ scaled = 0 := by
  have hpos := twoTo_pos (spacing scaled)
  refine ⟨fun h => ?_, fun h => by rw [h, roundHalfEven_zero (twoTo_pos _), Nat.zero_mul]⟩
  by_contra hne
  have hle : twoTo (spacing scaled) ≤ scaled := by
    refine Nat.le_trans (Nat.pow_le_pow_right (by decide) ?_) (Nat.log2_self_le hne)
    unfold spacing precision
    omega
  have hone : 1 ≤ scaled / twoTo (spacing scaled) := (Nat.one_le_div_iff hpos).mpr hle
  have hround := Nat.le_trans hone (div_le_roundHalfEven scaled (twoTo (spacing scaled)))
  rcases Nat.mul_eq_zero.mp h with hzero | hzero
  · omega
  · omega

/-- A number that is rounded to no more than zero is no more than zero, whatever the limit. -/
theorem isPositive_bounded {n : Int} {units bound : Nat} (hunits : units = 0 ↔ n = 0)
    (hbound : 0 < bound) :
    (if units < bound then finite (decide (n < 0)) units
      else infinite (decide (n < 0))).isPositive = true ↔ 0 < n := by
  by_cases hfinite : units < bound
  · simp only [hfinite, if_true, isPositive, Bool.and_eq_true, Bool.not_eq_true',
      decide_eq_false_iff_not, bne_iff_ne, ne_eq, hunits]
    omega
  · have hne : n ≠ 0 := fun h => hfinite (by rw [hunits.mpr h]; exact hbound)
    simp only [hfinite, if_false, isPositive, Bool.not_eq_true', decide_eq_false_iff_not]
    omega

/-- The double nearest to a whole number is positive when the number is. -/
theorem isPositive_ofInt (n : Int) : (ofInt n).isPositive = true ↔ 0 < n := by
  have hscaled : n.natAbs * twoTo unitExponent = 0 ↔ n = 0 := by
    have hpos := twoTo_pos unitExponent
    rw [Nat.mul_eq_zero]
    omega
  rw [ofInt, ofRatio, Nat.div_one, Nat.one_mul]
  exact isPositive_bounded ((units_eq_zero_iff _).trans hscaled) (twoTo_pos _)

end Binary64

/-! ## Judging with issues -/

/-- The issue as it is seen from one step further out. -/
def Issue.below (step : PathStep) (i : Issue) : Issue := { i with place := step :: i.place }

/-- The value is judged with the issues: without any it is accepted, and has the property, and else
it is refused with all of them. -/
inductive Judged (P : α → Prop) : List Issue → Validated α → Prop
  | accepted {a : α} : P a → Judged P [] (.ok a)
  | refused {issues : List Issue} : issues ≠ [] → Judged P issues (.error issues)

namespace Judged

variable {P : α → Prop} {Q : β → Prop} {issues more : List Issue} {u : Validated α}
  {v : Validated β}

/-- One issue at the place itself. -/
theorem refuse (P : α → Prop) (kind : IssueKind) :
    Judged P [⟨[], kind⟩] (Validated.refuse kind) := .refused (List.cons_ne_nil _ _)

/-- Without issues the value is accepted. -/
theorem exists_of_nil (h : Judged P [] u) : ∃ a, u = .ok a ∧ P a := by
  cases h with
  | accepted ha => exact ⟨_, rfl, ha⟩
  | refused hne => exact absurd rfl hne

/-- With issues the value is refused. -/
theorem eq_of_ne_nil (h : Judged P issues u) (hne : issues ≠ []) : u = .error issues := by
  cases h with
  | accepted => exact absurd rfl hne
  | refused => rfl

/-- A property may be weakened. -/
theorem imp {P' : α → Prop} (h : Judged P issues u) (himp : ∀ a, P a → P' a) :
    Judged P' issues u := by
  cases h with
  | accepted ha => exact .accepted (himp _ ha)
  | refused hne => exact .refused hne

/-- A value may be changed once it is accepted. -/
theorem map {f : α → β} (h : Judged P issues u) (hf : ∀ a, P a → Q (f a)) :
    Judged Q issues (u.map f) := by
  cases h with
  | accepted ha => exact .accepted (hf _ ha)
  | refused hne => exact .refused hne

/-- Issues of a part are issues of the whole. -/
theorem under (h : Judged P issues u) (step : PathStep) :
    Judged P (issues.map (Issue.below step)) (u.under step) := by
  cases h with
  | accepted ha => exact .accepted ha
  | refused hne => exact .refused (by simpa using hne)

/-- **The issues of two values come together**, in order. -/
theorem both (hu : Judged P issues u) (hv : Judged Q more v) :
    Judged (fun x => P x.1 ∧ Q x.2) (issues ++ more) (Validated.both u v) := by
  cases hu with
  | accepted ha =>
    cases hv with
    | accepted hb => exact .accepted ⟨ha, hb⟩
    | refused hne => exact .refused hne
  | refused hne =>
    cases hv with
    | accepted hb =>
      rw [List.append_nil]
      exact .refused hne
    | refused hne' => exact .refused (List.append_ne_nil_of_left_ne_nil hne _)

end Judged

namespace Json

variable {P : α → Prop} {issues : List Issue} {members : List (Text × Json)} {name : String}

/-- The object has the value as its member, or none or `null` for nothing. -/
def Gives (members : List (Text × Json)) (name : String) (value : Option Json) : Prop :=
  lookup members name = value ∨ value = none ∧ lookup members name = some .null

/-- A member that has to be there, and is. -/
theorem judged_required (check : Json → Validated α) {v : Json} (hv : lookup members name = some v)
    (h : Judged P issues (check v)) :
    Judged P (issues.map (Issue.below (.key name))) (required members name check) := by
  rw [required, hv]
  exact h.under (.key name)

/-- A member that may be absent or `null`. -/
theorem judged_optional {check : Json → Validated α} {value : Option Json} {P : Option α → Prop}
    (hvalue : Gives members name value) (hnone : value = none → P none ∧ issues = [])
    (hsome : ∀ v, value = some v → v ≠ .null ∧ Judged (fun a => P (some a)) issues (check v)) :
    Judged P (issues.map (Issue.below (.key name)))
      (optional members name none (asOptional check)) := by
  cases value with
  | none =>
    obtain ⟨hP, rfl⟩ := hnone rfl
    rcases hvalue with hvalue | ⟨-, hvalue⟩
    · rw [optional, hvalue]
      exact .accepted hP
    · rw [optional, hvalue]
      exact .accepted hP
  | some v =>
    obtain ⟨hnull, hread⟩ := hsome v rfl
    rcases hvalue with hvalue | ⟨hvalue, -⟩
    · have hcheck : asOptional check v = (check v).map some := by
        cases v with
        | null => exact absurd rfl hnull
        | _ => rfl
      rw [optional, hvalue]
      simp only [hcheck]
      exact (hread.map fun _ ha => ha).under (.key name)
    · cases hvalue

end Json

/-! ## The shape of a body -/

/-- A number of seconds as it is sent. -/
def Seconds.toJson : Seconds → Json
  | .whole n => .int n
  | .real x => .real x

/-- Whether the number is greater than zero. -/
def Seconds.IsPositive : Seconds → Prop
  | .whole n => 0 < n
  | .real x => x.isPositive = true

instance : DecidablePred Seconds.IsPositive
  | .whole n => inferInstanceAs (Decidable (0 < n))
  | .real x => inferInstanceAs (Decidable (x.isPositive = true))

/-- The double nearest to a number of seconds is positive when the number is. -/
theorem Seconds.isPositive_toBinary64 (s : Seconds) :
    s.toBinary64.isPositive = true ↔ s.IsPositive := by
  cases s with
  | whole n => exact Binary64.isPositive_ofInt n
  | real x => exact Iff.rfl

/-- A body of the right shape. A domain and a number of seconds that are absent or null are none. -/
structure CheckBody where
  docIds : List Text
  username : Text
  domain : Option Text
  timeout : Option Seconds

namespace CheckBody

/-- The members of an object are those of the body. -/
structure Shapes (b : CheckBody) (members identity : List (Text × Json)) : Prop where
  docIds : Json.lookup members "doc_ids" = some (.array (b.docIds.map .string))
  named : Json.lookup members "identity" = some (.object identity)
  username : Json.lookup identity "username" = some (.string b.username)
  domain : Json.Gives identity "domain" (b.domain.map .string)
  timeout : Json.Gives members "timeout_seconds" (b.timeout.map Seconds.toJson)
  /-- The number of seconds is one that a double can hold. -/
  finite : ∀ s ∈ b.timeout, s.toBinary64.isFinite = true

/-- Documents are named by texts that are well formed and not empty, the user name is not blank, and
a number of seconds is greater than zero. -/
structure Acceptable (b : CheckBody) : Prop where
  docIds : ∀ t ∈ b.docIds, ∃ s, t = .wellFormed s ∧ s ≠ ""
  username : b.username.strip ≠ ""
  timeout : ∀ s ∈ b.timeout, s.IsPositive

end CheckBody

/-! ## What is wrong at each place -/

/-- What is wrong with the name of a document. -/
def docIdDefect? : Text → Option IssueKind
  | .wellFormed s => if s = "" then some .stringTooShort else none
  | .illFormed .. => some .stringUnicode

/-- What is wrong with the name of a user. -/
def usernameDefect? (t : Text) : Option IssueKind :=
  if t.strip = "" then some (.rule IdentityForm.blankMessage) else none

/-- What is wrong with a number of seconds. -/
def Seconds.defect? (s : Seconds) : Option IssueKind :=
  if s.IsPositive then none else some .greaterThanZero

/-- The issue of a defect, if there is one. -/
def issueOf (defect : Option IssueKind) : List Issue := (defect.map fun kind => ⟨[], kind⟩).toList

namespace CheckBody

/-- What is wrong with documents that are listed from a number on. -/
def docIdIssues (n : Nat) (docIds : List Text) : List Issue :=
  (docIds.zipIdx n).flatMap fun (t, i) =>
    (issueOf (docIdDefect? t)).map (Issue.below (.index i))

/-- What is wrong with the identity. -/
def identityIssues (b : CheckBody) : List Issue :=
  (issueOf (usernameDefect? b.username)).map (Issue.below (.key "username"))

/-- **What is wrong with a body**, place by place. -/
def issues (b : CheckBody) : List Issue :=
  (docIdIssues 0 b.docIds).map (Issue.below (.key "doc_ids")) ++
    (b.identityIssues.map (Issue.below (.key "identity")) ++
      (issueOf (b.timeout.bind Seconds.defect?)).map (Issue.below (.key "timeout_seconds")))

end CheckBody

/-- A value that is refused in one case and accepted in the other. -/
theorem judged_ite {P : α → Prop} {a : α} (c : Prop) [Decidable c] (kind : IssueKind) (ha : P a) :
    Judged P (issueOf (if c then some kind else none))
      (if c then Validated.refuse kind else .ok a) := by
  by_cases hc : c
  · rw [if_pos hc, if_pos hc]
    exact Judged.refuse P kind
  · rw [if_neg hc, if_neg hc]
    exact .accepted ha

theorem judged_docId (t : Text) :
    Judged (fun s => t = .wellFormed s) (issueOf (docIdDefect? t))
      ((Json.asString (.string t)).bind AccessCheckForm.readDocId) := by
  cases t with
  | wellFormed s => exact judged_ite _ _ rfl
  | illFormed ps broken => exact Judged.refuse _ _

theorem judged_username (t : Text) :
    Judged (fun name => name = t.strip) (issueOf (usernameDefect? t))
      ((Json.asText (.string t)).bind IdentityForm.readUsername) :=
  judged_ite _ _ rfl

/-- A whole number that a double can hold is read as the double. -/
theorem asFloat_int {n : Int} (hfinite : (Binary64.ofInt n).isFinite = true) :
    Json.asFloat (.int n) = .ok (.ofInt n) := by
  -- The double is a variable here, or it would be evaluated.
  simp only [Json.asFloat]
  generalize Binary64.ofInt n = x at hfinite ⊢
  rw [if_pos hfinite]

/-- A number that a double can hold is read as the double. -/
theorem asSeconds_toJson {s : Seconds} (hfinite : s.toBinary64.isFinite = true) :
    Json.asSeconds s.toJson = positive s.toBinary64 := by
  cases s with
  | whole n =>
    rw [Seconds.toJson, Json.asSeconds, asFloat_int hfinite, Except.bind, Seconds.toBinary64]
  | real x => rfl

theorem judged_asSeconds {s : Seconds} (hfinite : s.toBinary64.isFinite = true) :
    Judged (fun x => x = s.toBinary64) (issueOf s.defect?) (Json.asSeconds s.toJson) := by
  rw [asSeconds_toJson hfinite, positive, Seconds.defect?]
  by_cases hs : s.IsPositive
  · rw [if_pos hs, if_pos (s.isPositive_toBinary64.mpr hs)]
    exact .accepted rfl
  · rw [if_neg hs, if_neg (mt s.isPositive_toBinary64.mp hs)]
    exact Judged.refuse _ _

/-! ## What is wrong with a body -/

/-- The documents of a list are judged one by one. -/
theorem judged_items (docIds : List Text) (n : Nat) :
    Judged (fun ids => ids.map .wellFormed = docIds) (CheckBody.docIdIssues n docIds)
      (Validated.all (Validated.items (fun v => v.asString.bind AccessCheckForm.readDocId) n
        (docIds.map .string))) := by
  induction docIds generalizing n with
  | nil => exact .accepted rfl
  | cons t docIds ih =>
    have hboth := ((judged_docId t).under (.index n)).both (ih (n + 1))
    refine Judged.map (P := fun x : String × List String =>
      t = .wellFormed x.1 ∧ x.2.map .wellFormed = docIds) ?_ ?_
    · exact hboth
    · rintro ⟨s, ids⟩ ⟨rfl, rfl⟩
      rfl

namespace CheckBody

variable {b : CheckBody} {members identity : List (Text × Json)}

/-- The form holds what the body lists, with the user name without blanks around it. -/
structure Filled (b : CheckBody) (form : AccessCheckForm) : Prop where
  docIds : form.docIds.map .wellFormed = b.docIds
  username : form.identity.username = b.username.strip
  domain : form.identity.domain = b.domain
  deadline : form.deadline = b.timeout.map Seconds.toBinary64

/-- The names of an identity are judged side by side; nothing is wrong with a domain. -/
theorem judged_identity (husername : Json.lookup identity "username" = some (.string b.username))
    (hdomain : Json.Gives identity "domain" (b.domain.map .string)) (demand : ObjectDemand) :
    Judged (fun form => form.username = b.username.strip ∧ form.domain = b.domain)
      b.identityIssues (IdentityForm.ofJson demand (.object identity)) := by
  have husername := Json.judged_required (fun v => v.asText.bind IdentityForm.readUsername)
    husername (judged_username b.username)
  have hdomain : Judged (fun d => d = b.domain)
      (([] : List Issue).map (Issue.below (.key "domain")))
      (Json.optional identity "domain" none (Json.asOptional Json.asText)) := by
    refine Json.judged_optional hdomain (fun hnone => ?_) fun v hv => ?_
    · rw [Option.map_eq_none_iff.mp hnone]
      exact ⟨rfl, rfl⟩
    · obtain ⟨t, ht, rfl⟩ := Option.map_eq_some_iff.mp hv
      rw [ht]
      exact ⟨Json.noConfusion, .accepted rfl⟩
  have hboth := husername.both hdomain
  rw [List.map_nil, List.append_nil] at hboth
  exact hboth.map fun _ h => h

/-- **A body is judged with all of its issues**, and read into a form that holds what it lists. -/
theorem judged_body (h : b.Shapes members identity) (demand : ObjectDemand) :
    Judged b.Filled b.issues (AccessCheckForm.ofJson demand (.object members)) := by
  have hdocIds := Json.judged_required
    (Json.asList fun v => v.asString.bind AccessCheckForm.readDocId) h.docIds
    (judged_items b.docIds 0)
  have hidentity := Json.judged_required (IdentityForm.ofJson demand) h.named
    (judged_identity h.username h.domain demand)
  have htimeout : Judged (fun deadline => deadline = b.timeout.map Seconds.toBinary64)
      ((issueOf (b.timeout.bind Seconds.defect?)).map (Issue.below (.key "timeout_seconds")))
      (Json.optional members "timeout_seconds" none (Json.asOptional Json.asSeconds)) := by
    refine Json.judged_optional h.timeout (fun hnone => ?_) fun v hv => ?_
    · rw [Option.map_eq_none_iff.mp hnone]
      exact ⟨rfl, rfl⟩
    · obtain ⟨s, hs, rfl⟩ := Option.map_eq_some_iff.mp hv
      have hnull : s.toJson ≠ .null := by cases s <;> exact Json.noConfusion
      rw [hs]
      exact ⟨hnull, (judged_asSeconds (h.finite s hs)).imp fun x hx => by rw [hx]; rfl⟩
  exact (hdocIds.both (hidentity.both htimeout)).map
    fun _ ⟨hids, ⟨husername, hdomain⟩, hdeadline⟩ => ⟨hids, husername, hdomain, hdeadline⟩

/-! ## Acceptable bodies -/

theorem issueOf_eq_nil_iff {defect : Option IssueKind} : issueOf defect = [] ↔ defect = none := by
  cases defect <;> simp [issueOf]

/-- Nothing is wrong with documents if nothing is wrong with any of them. -/
theorem docIdIssues_eq_nil_iff (docIds : List Text) (n : Nat) :
    docIdIssues n docIds = [] ↔ ∀ t ∈ docIds, ∃ s, t = .wellFormed s ∧ s ≠ "" := by
  have hdefect : ∀ t : Text, docIdDefect? t = none ↔ ∃ s, t = .wellFormed s ∧ s ≠ "" := by
    intro t
    cases t <;> simp [docIdDefect?]
  induction docIds generalizing n with
  | nil => simp [docIdIssues]
  | cons t docIds ih =>
    have hcons : docIdIssues n (t :: docIds) =
        (issueOf (docIdDefect? t)).map (Issue.below (.index n)) ++
          docIdIssues (n + 1) docIds := rfl
    rw [hcons, List.append_eq_nil_iff, List.map_eq_nil_iff, issueOf_eq_nil_iff, hdefect,
      List.forall_mem_cons]
    exact and_congr_right fun _ => ih (n + 1)

/-- **Nothing is wrong with an acceptable body**, and something with every other one. -/
theorem issues_eq_nil_iff (b : CheckBody) : b.issues = [] ↔ b.Acceptable := by
  have husername : usernameDefect? b.username = none ↔ b.username.strip ≠ "" := by
    simp [usernameDefect?]
  have htimeout : b.timeout.bind Seconds.defect? = none ↔ ∀ s ∈ b.timeout, s.IsPositive := by
    cases b.timeout <;> simp [Seconds.defect?]
  simp only [issues, identityIssues, List.append_eq_nil_iff, List.map_eq_nil_iff,
    docIdIssues_eq_nil_iff, issueOf_eq_nil_iff, husername, htimeout]
  constructor
  · rintro ⟨hdocIds, husername, htimeout⟩
    exact ⟨hdocIds, husername, htimeout⟩
  · intro h
    exact ⟨h.docIds, h.username, h.timeout⟩

end CheckBody
end DocAccess
