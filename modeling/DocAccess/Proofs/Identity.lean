import DocAccess.Identity
import Mathlib.Data.List.DropRight

/-!
# Identities are kept trimmed

Trimming what is trimmed changes nothing. So an identity that was made from names is the identity
of its own names, and a repository that makes it again finds the same principal.
-/
namespace DocAccess

/-- A trimmed list has no run to drop. -/
theorem trimWhile_trimWhile {α : Type} (f : α → Bool) (xs : List α) :
    trimWhile f (trimWhile f xs) = trimWhile f xs := by
  have htrim : ∀ ys : List α, trimWhile f ys = (ys.dropWhile f).rdropWhile f := fun _ => rfl
  -- Trimming the end leaves the first element, which dropping the front has stopped at.
  have hfront : (trimWhile f xs).dropWhile f = trimWhile f xs := by
    rw [List.dropWhile_eq_self_iff]
    intro hlt
    have hprefix : trimWhile f xs <+: xs.dropWhile f := List.rdropWhile_prefix f _
    rw [List.IsPrefix.getElem hprefix hlt]
    exact List.dropWhile_eq_self_iff.mp (List.dropWhile_idempotent f xs) _
  rw [htrim (trimWhile f xs), hfront, htrim xs, List.rdropWhile_idempotent]

/-- A stripped text has no blanks to strip. -/
@[simp] theorem Text.strip_strip (t : Text) : t.strip.strip = t.strip := by
  simp [strip, trimWhile_trimWhile]

namespace Identity

/-- A trimmed domain is not trimmed further. -/
theorem trimDomain_trimDomain (domain : Option Text) :
    trimDomain (trimDomain domain) = trimDomain domain := by
  cases domain with
  | none => rfl
  | some d => by_cases hd : d.strip = "" <;> simp [trimDomain, hd]

/-- The identity of a user name is that of the trimmed user name. -/
theorem ofNames?_strip (username : Text) (domain : Option Text) :
    ofNames? (some username.strip) domain = ofNames? (some username) domain := by
  simp [ofNames?]

/-- There is an identity of a user name that is not blank. -/
theorem ofNames?_of_strip_ne {username : Text} (h : username.strip ≠ "")
    (domain : Option Text) :
    ofNames? (some username) domain = some ⟨username.strip, trimDomain domain⟩ := by
  simp [ofNames?, h]

/-- There is no identity of a blank user name. -/
theorem ofNames?_of_strip_eq {username : Text} (h : username.strip = "")
    (domain : Option Text) : ofNames? (some username) domain = none := by
  simp [ofNames?, h]

/-- **An identity is the identity of its own names.** -/
theorem ofNames?_self {username domain : Option Text} {i : Identity}
    (h : ofNames? username domain = some i) : ofNames? (some i.username) i.domain = some i := by
  simp only [ofNames?] at h
  split at h
  · cases h
  · rename_i hname
    cases h
    simp [ofNames?, hname, trimDomain_trimDomain]

end Identity
end DocAccess
