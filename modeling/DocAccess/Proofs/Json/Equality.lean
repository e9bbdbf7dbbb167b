import DocAccess.Json.Basic

/-!
# Equality of JSON values

Two JSON values are compared part by part, so that it can be computed whether a text is read as a
given value.

## Main statements

* `Json.same_iff` — the comparison decides equality.
-/
namespace DocAccess.Json

mutual

/-- Whether two values are the same. -/
def same : Json → Json → Bool
  | .null, .null => true
  | .bool a, .bool b => a == b
  | .int m, .int n => m == n
  | .real x, .real y => x == y
  | .string s, .string t => s == t
  | .array xs, .array ys => sameItems xs ys
  | .object ms, .object ns => sameMembers ms ns
  | _, _ => false

/-- Whether two lists have the same items. -/
def sameItems : List Json → List Json → Bool
  | [], [] => true
  | x :: xs, y :: ys => same x y && sameItems xs ys
  | _, _ => false

/-- Whether two objects have the same members, in order. -/
def sameMembers : List (Text × Json) → List (Text × Json) → Bool
  | [], [] => true
  | (k, x) :: ms, (l, y) :: ns => k == l && same x y && sameMembers ms ns
  | _, _ => false

end

mutual

/-- **The comparison decides equality.** -/
theorem same_iff : ∀ v w : Json, same v w = true ↔ v = w
  | .array xs, w => by
    cases w with
    | array ys => simp [same, sameItems_iff xs ys]
    | _ => simp [same]
  | .object ms, w => by
    cases w with
    | object ns => simp [same, sameMembers_iff ms ns]
    | _ => simp [same]
  | .null, w | .bool _, w | .int _, w | .real _, w | .string _, w => by cases w <;> simp [same]

theorem sameItems_iff : ∀ xs ys : List Json, sameItems xs ys = true ↔ xs = ys
  | [], ys => by cases ys <;> simp [sameItems]
  | x :: xs, ys => by
    cases ys with
    | nil => simp [sameItems]
    | cons y ys => simp [sameItems, same_iff x y, sameItems_iff xs ys]

theorem sameMembers_iff : ∀ ms ns : List (Text × Json), sameMembers ms ns = true ↔ ms = ns
  | [], ns => by cases ns <;> simp [sameMembers]
  | (k, x) :: ms, ns => by
    cases ns with
    | nil => simp [sameMembers]
    | cons n ns =>
      obtain ⟨l, y⟩ := n
      simp [sameMembers, same_iff x y, sameMembers_iff ms ns]

end

instance : DecidableEq Json := fun v w => decidable_of_iff _ (same_iff v w)

end DocAccess.Json
