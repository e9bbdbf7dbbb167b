import DocAccess.Proofs.Json.Width
import DocAccess.Proofs.Schema.Request
import DocAccess.Web.Request

/-!
# Documents of a request

A body that is accepted lists no more documents than it has octets, so its length bounds the work
that it asks for.

## Main statements

* `WebRequest.accessCheck_eq_ok` — which bodies are accepted.
* `WebRequest.length_docIds_le` — an accepted body lists no more documents than octets.
-/
namespace DocAccess

variable {α : Type}

namespace Validated

/-- All values of a list of checks are as many as these. -/
theorem length_of_all {checks : List (Validated α)} {values : List α}
    (h : all checks = .ok values) : values.length = checks.length := by
  induction checks generalizing values with
  | nil =>
    cases h
    rfl
  | cons check rest ih =>
    obtain ⟨⟨x, xs⟩, hboth, rfl⟩ := map_eq_ok.mp h
    rw [List.length_cons, List.length_cons, ih (both_eq_ok.mp hboth).2]

/-- Each value of a list is checked. -/
theorem length_items (check : Json → Validated α) (n : Nat) (values : List Json) :
    (items check n values).length = values.length := by
  induction values generalizing n with
  | nil => rfl
  | cons v rest ih => rw [items, List.length_cons, List.length_cons, ih]

end Validated

namespace Json

/-- A list that is accepted has as many items as its value. -/
theorem length_of_asList {n : Nat} {check : Json → Validated α} {v : Json} {values : List α}
    (h : asList check v = .ok values) (hv : Narrow n v) : values.length ≤ n := by
  cases hv with
  | array hlen _ =>
    rw [Validated.length_of_all h, Validated.length_items]
    exact hlen
  | _ => cases h

/-- A member of a narrow object is narrow. -/
theorem Narrow.of_lookup {n : Nat} {members : List (Text × Json)} {key : Text} {v : Json}
    (h : Narrow n (.object members)) (hv : lookup members key = some v) : Narrow n v := by
  obtain ⟨m, hm, rfl⟩ := Option.map_eq_some_iff.mp hv
  cases h with
  | object hall => exact hall m (List.mem_of_find?_eq_some hm)

end Json

/-- A form lists no more documents than the longest list of its value. -/
theorem AccessCheckForm.length_docIds_le {n : Nat} {demand : ObjectDemand} {v : Json}
    {form : AccessCheckForm} (h : ofJson demand v = .ok form) (hv : Json.Narrow n v) :
    form.docIds.length ≤ n := by
  cases v with
  | object members =>
    obtain ⟨⟨docIds, identity, deadline⟩, hboth, rfl⟩ := Validated.map_eq_ok.mp h
    obtain ⟨value, hlookup, hlist⟩ := Json.required_eq_ok.mp (Validated.both_eq_ok.mp hboth).1
    exact Json.length_of_asList hlist (hv.of_lookup hlookup)
  | _ => cases h

namespace WebRequest

variable {depth : Nat} {r : WebRequest} {form : AccessCheckForm}

/-- A body is accepted when it is JSON and a form. -/
theorem accessCheck_eq_ok :
    r.accessCheck depth = .ok form ↔
      ∃ v, r.bodyJson depth = .ok v ∧ AccessCheckForm.ofJson .attributes v = .ok form := by
  unfold accessCheck
  cases r.bodyJson depth with
  | error e => simp
  | ok v =>
    simp only [Except.ok.injEq, exists_eq_left']
    rw [← @Validated.under_eq_ok _ (.key "body")]
    split <;> simp_all

/-- The body of a request is JSON only when its octets are. -/
theorem ofBytes_of_bodyJson {v : Json} (h : r.bodyJson depth = .ok v) :
    Json.ofBytes depth r.body = .ok v := by
  unfold bodyJson at h
  split at h
  · cases h
  · split at h
    · split at h
      · rename_i hread
        cases h
        exact hread
      · cases h
      · cases h
    · cases h

/-- **An accepted body lists no more documents than octets.** -/
theorem length_docIds_le (h : r.accessCheck depth = .ok form) :
    form.docIds.length ≤ r.body.length := by
  obtain ⟨v, hjson, hform⟩ := accessCheck_eq_ok.mp h
  exact AccessCheckForm.length_docIds_le hform (Json.narrow_ofBytes (ofBytes_of_bodyJson hjson))

end WebRequest
end DocAccess
