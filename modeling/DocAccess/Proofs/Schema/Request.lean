import DocAccess.Proofs.Identity
import DocAccess.Schema.Request

/-!
# Accepted bodies

A body that is accepted names an identity: reading it has refused a user name that is blank, and
the identity of the form would refuse nothing else. So an accepted body always asks for a check.

## Main statements

* `IdentityForm.exists_identity` — the form of an accepted identity names one.
* `AccessCheckForm.exists_check` — the form of an accepted body asks for a check.
-/
namespace DocAccess

variable {α β : Type}

namespace Validated

/-- Where a value stands has no part in whether it is accepted. -/
theorem under_eq_ok {step : PathStep} {v : Validated α} {a : α} :
    v.under step = .ok a ↔ v = .ok a := by
  cases v <;> simp [under, Except.mapError]

/-- Both values are accepted when each is. -/
theorem both_eq_ok {u : Validated α} {v : Validated β} {a : α} {b : β} :
    both u v = .ok (a, b) ↔ u = .ok a ∧ v = .ok b := by
  cases u <;> cases v <;> simp [both]

/-- A value is accepted as it is changed. -/
theorem map_eq_ok {v : Validated α} {f : α → β} {b : β} :
    v.map f = .ok b ↔ ∃ a, v = .ok a ∧ f a = b := by
  cases v <;> simp [Except.map]

end Validated

/-- A member that has to be there is accepted when it is there and passes its check. -/
theorem Json.required_eq_ok {members : List (Text × Json)} {name : String}
    {check : Json → Validated α} {a : α} :
    required members name check = .ok a ↔
      ∃ v, lookup members (.wellFormed name) = some v ∧ check v = .ok a := by
  rw [required, Validated.field, Validated.under_eq_ok]
  cases lookup members (.wellFormed name) <;> simp [Validated.refuse]

namespace IdentityForm

/-- A user name that is accepted is not blank, and has no blanks around it. -/
theorem strip_of_readUsername {t name : Text} (h : readUsername t = .ok name) :
    name.strip = name ∧ name ≠ "" := by
  unfold readUsername at h
  by_cases hblank : t.strip = ""
  · simp [hblank, Validated.refuse] at h
  · simp only [hblank, if_false, Except.ok.injEq] at h
    subst h
    exact ⟨t.strip_strip, hblank⟩

/-- **The form of an accepted identity names one.** -/
theorem exists_identity {demand : ObjectDemand} {v : Json} {form : IdentityForm}
    (h : ofJson demand v = .ok form) : ∃ i, form.toIdentity? = some i := by
  cases v with
  | object members =>
    obtain ⟨⟨username, domain⟩, hboth, rfl⟩ := Validated.map_eq_ok.mp h
    obtain ⟨husername, -⟩ := Validated.both_eq_ok.mp hboth
    obtain ⟨value, -, hread⟩ := Json.required_eq_ok.mp husername
    obtain ⟨t, -, hname⟩ : ∃ t, value.asText = .ok t ∧ readUsername t = .ok username := by
      cases ht : value.asText with
      | error issues =>
        rw [ht] at hread
        cases hread
      | ok t =>
        rw [ht] at hread
        exact ⟨t, rfl, hread⟩
    obtain ⟨hstrip, hne⟩ := strip_of_readUsername hname
    exact ⟨⟨username, Identity.trimDomain domain⟩, by
      simp [toIdentity?, Identity.ofNames?, hstrip, hne]⟩
  | _ => cases h

end IdentityForm

/-- **The form of an accepted body asks for a check** of its documents. -/
theorem AccessCheckForm.exists_check {demand : ObjectDemand} {v : Json} {form : AccessCheckForm}
    (h : ofJson demand v = .ok form) :
    ∃ i, form.toCheck? = some ⟨form.docIds.map .wellFormed, i, form.deadline.map .real⟩ := by
  cases v with
  | object members =>
    obtain ⟨⟨docIds, identity, deadline⟩, hboth, rfl⟩ := Validated.map_eq_ok.mp h
    obtain ⟨-, hrest⟩ := Validated.both_eq_ok.mp hboth
    obtain ⟨hidentity, -⟩ := Validated.both_eq_ok.mp hrest
    obtain ⟨value, -, hread⟩ := Json.required_eq_ok.mp hidentity
    obtain ⟨i, hi⟩ := IdentityForm.exists_identity hread
    exact ⟨i, by simp [toCheck?, hi]⟩
  | _ => cases h

end DocAccess
