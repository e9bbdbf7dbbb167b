import DocAccess.Json.Parser
import DocAccess.Proofs.Encoding.Length

/-!
# Lists in a text

A value that is read from a text has no list with more items than the text has code points: after
each item stands a comma, or the bracket at the end.

## Main definitions

* `Json.Narrow` — no list in a value has more than so many items.

## Main statements

* `Json.reads_parseValue` — a value is as narrow as the text from which it is read.
* `Json.narrow_ofBytes` — the same of octets.
-/
namespace DocAccess.Json

/-! ## What is left to read -/

namespace Cursor

@[simp] theorem length_next (c : Cursor) : c.next.rest.length = c.rest.length - 1 := by
  simp [next]

@[simp] theorem length_skip (c : Cursor) (n : Nat) :
    (c.skip n).rest.length = c.rest.length - n := by
  simp [skip]

/-- White space is part of what is left. -/
theorem length_space_le (c : Cursor) : c.space.rest.length ≤ c.rest.length := by
  simp [space]

/-- A code point in front is one that is left. -/
theorem pos_of_peek {c : Cursor} {p : Nat} (h : c.peek = some p) : 0 < c.rest.length := by
  obtain ⟨offset, rest⟩ := c
  cases rest with
  | nil => cases h
  | cons q rest => exact Nat.succ_pos _

end Cursor

/-- The points of a string up to its closing quote leave no more than there was. -/
theorem length_stringBody {opening fuel : Nat} {c d : Cursor} {read points : List Nat}
    (h : stringBody opening fuel c read = .ok (points, d)) : d.rest.length ≤ c.rest.length := by
  induction fuel generalizing c read with
  | zero => cases h
  | succ fuel ih =>
    rw [stringBody] at h
    split at h
    · cases h
    · cases h
      simp
    · split at h
      · cases h
      · split at h
        · exact Nat.le_trans (ih h) (by simp)
        · exact Nat.le_trans (ih h) (by simp)
    · split at h
      · exact Nat.le_trans (ih h) (by simp)
      · cases h
    · cases h
    · split at h
      · cases h
      · exact Nat.le_trans (ih h) (by simp)

/-- A string leaves no more than there was. -/
theorem length_parseString {c d : Cursor} {t : Text} (h : parseString c = .ok (t, d)) :
    d.rest.length ≤ c.rest.length := by
  unfold parseString at h
  split at h
  · rename_i hbody
    cases h
    exact Nat.le_trans (length_stringBody hbody) (by simp)
  · cases h

/-! ## Narrow values -/

/-- No list in the value has more than `n` items. -/
inductive Narrow (n : Nat) : Json → Prop
  | null : Narrow n .null
  | bool (b : Bool) : Narrow n (.bool b)
  | int (i : Int) : Narrow n (.int i)
  | real (x : Binary64) : Narrow n (.real x)
  | string (t : Text) : Narrow n (.string t)
  | array {items : List Json} : items.length ≤ n → (∀ v ∈ items, Narrow n v) →
      Narrow n (.array items)
  | object {members : List (Text × Json)} : (∀ m ∈ members, Narrow n m.2) →
      Narrow n (.object members)

/-- What was read at `c` is narrow, and `d` is what is left. -/
structure Reads (n : Nat) (c : Cursor) (v : Json) (d : Cursor) : Prop where
  narrow : Narrow n v
  length_le : d.rest.length ≤ c.rest.length

variable {n : Nat} {c d : Cursor} {v : Json}

/-- A value that is read further on. -/
theorem Reads.of_le {b : Cursor} (h : Reads n b v d) (hle : b.rest.length ≤ c.rest.length) :
    Reads n c v d :=
  ⟨h.narrow, Nat.le_trans h.length_le hle⟩

/-- A number has no list. -/
theorem reads_parseNumber (h : parseNumber c = .ok (v, d)) : Reads n c v d := by
  unfold parseNumber at h
  simp only at h
  generalize hsigned : (if (c.peek == some 0x2D) = true then c.next else c) = b at h
  have hb : b.rest.length ≤ c.rest.length := by
    rw [← hsigned]
    split <;> simp
  generalize (if (leadingDigits b.rest).head? = some 48 then [48] else leadingDigits b.rest) =
    whole at h
  split at h
  · cases h
  split at h
  · cases h
    exact Reads.of_le ⟨.real _, by simp; omega⟩ hb
  split at h
  · split at h
    · cases h
    · cases h
      exact Reads.of_le ⟨.int _, by simp; omega⟩ hb
  · cases h
    exact Reads.of_le ⟨.real _, by simp; omega⟩ hb

/-- A word or a number has no list. -/
theorem reads_parseScalar (h : parseScalar c = .ok (v, d)) : Reads n c v d := by
  unfold parseScalar at h
  split at h
  · cases h
    exact ⟨.null, by simp⟩
  split at h
  · cases h
    exact ⟨.bool _, by simp⟩
  split at h
  · cases h
    exact ⟨.bool _, by simp⟩
  split at h
  · cases h
    exact ⟨.real _, by simp⟩
  split at h
  · cases h
    exact ⟨.real _, by simp⟩
  split at h
  · cases h
    exact ⟨.real _, by simp⟩
  · exact reads_parseNumber h

/-- Giving a key a value brings in no other value. -/
theorem narrow_insert {members : List (Text × Json)} (h : ∀ m ∈ members, Narrow n m.2)
    (hv : Narrow n v) (key : Text) : ∀ m ∈ insert members key v, Narrow n m.2 := by
  induction members with
  | nil => simpa [insert] using hv
  | cons m rest ih =>
    rw [List.forall_mem_cons] at h
    rw [insert]
    split
    · exact List.forall_mem_cons.mpr ⟨hv, h.2⟩
    · exact List.forall_mem_cons.mpr ⟨h.1, ih h.2⟩

mutual

/-- **A value is as narrow as the text from which it is read**, and leaves no more than there
was. -/
theorem reads_parseValue {fuel depth : Nat} {c d : Cursor} {v : Json}
    (h : parseValue fuel depth c = .ok (v, d)) (hn : c.rest.length ≤ n) : Reads n c v d := by
  cases fuel with
  | zero => cases h
  | succ fuel =>
    have hnext : c.next.space.rest.length ≤ c.rest.length :=
      Nat.le_trans (Cursor.length_space_le _) (by simp)
    unfold parseValue at h
    split at h
    · split at h
      · rename_i hstring
        cases h
        exact ⟨.string _, length_parseString hstring⟩
      · cases h
    · split at h
      · cases h
      · simp only at h
        split at h
        · cases h
          refine Reads.of_le ⟨.array (Nat.zero_le _) (by simp), ?_⟩ hnext
          simp
        · exact (reads_parseItems h (by simp) (by simp; omega)).of_le hnext
    · split at h
      · cases h
      · simp only at h
        split at h
        · cases h
          refine Reads.of_le ⟨.object (by simp), ?_⟩ hnext
          simp
        · exact (reads_parseMembers h (by simp) (by omega)).of_le hnext
    · exact reads_parseScalar h

/-- The items of a list: each takes up the mark behind it. -/
theorem reads_parseItems {fuel depth : Nat} {c d : Cursor} {read : List Json} {v : Json}
    (h : parseItems fuel depth c read = .ok (v, d)) (hread : ∀ v ∈ read, Narrow n v)
    (hn : read.length + c.rest.length ≤ n) : Reads n c v d := by
  cases fuel with
  | zero => cases h
  | succ fuel =>
    unfold parseItems at h
    split at h
    · cases h
    · rename_i item e hitem
      have hfirst := reads_parseValue hitem (by omega)
      have hall := List.forall_mem_cons.mpr ⟨hfirst.narrow, hread⟩
      have hspace := e.length_space_le
      have hlen := hfirst.length_le
      simp only at h
      split at h
      · rename_i hmark
        have hpos := Cursor.pos_of_peek hmark
        cases h
        refine ⟨.array ?_ ?_, ?_⟩
        · rw [List.length_reverse, List.length_cons]
          omega
        · intro u hu
          exact hall u (List.mem_reverse.mp hu)
        · rw [Cursor.length_next]
          omega
      · rename_i hmark
        have hpos := Cursor.pos_of_peek hmark
        have hrest := e.space.next.length_space_le
        rw [Cursor.length_next] at hrest
        refine (reads_parseItems h hall ?_).of_le (by omega)
        rw [List.length_cons]
        omega
      · cases h

/-- The members of an object. -/
theorem reads_parseMembers {fuel depth : Nat} {c d : Cursor} {read : List (Text × Json)} {v : Json}
    (h : parseMembers fuel depth c read = .ok (v, d)) (hread : ∀ m ∈ read, Narrow n m.2)
    (hn : c.rest.length ≤ n) : Reads n c v d := by
  cases fuel with
  | zero => cases h
  | succ fuel =>
    unfold parseMembers at h
    split at h
    · split at h
      · cases h
      · rename_i key e hkey
        have hkeylen := length_parseString hkey
        have hspace := e.length_space_le
        simp only at h
        split at h
        · have hafter := e.space.next.length_space_le
          rw [Cursor.length_next] at hafter
          split at h
          · cases h
          · rename_i value b hvalue
            have hfirst := reads_parseValue hvalue (by omega)
            have hall := narrow_insert hread hfirst.narrow key
            have hlen := hfirst.length_le
            have hspace' := b.length_space_le
            split at h
            · cases h
              refine ⟨.object hall, ?_⟩
              rw [Cursor.length_next]
              omega
            · have hrest := b.space.next.length_space_le
              rw [Cursor.length_next] at hrest
              exact (reads_parseMembers h hall (by omega)).of_le (by omega)
            · cases h
        · cases h
    · cases h

end

/-- A whole text as one value. -/
theorem narrow_parsePoints {depth : Nat} {points : List Nat}
    (h : parsePoints depth points = .ok v) :
    Narrow points.length v := by
  unfold parsePoints at h
  split at h
  · cases h
  · rename_i hvalue
    have hreads := reads_parseValue hvalue (Cursor.length_space_le _)
    simp only at h
    split at h
    · cases h
      exact hreads.narrow
    · cases h

/-- A narrow value is narrow under every greater bound. -/
theorem Narrow.mono (h : Narrow n v) {m : Nat} (hle : n ≤ m) : Narrow m v := by
  induction h with
  | null => exact .null
  | bool b => exact .bool b
  | int i => exact .int i
  | real x => exact .real x
  | string t => exact .string t
  | array hlen _ ih => exact .array (Nat.le_trans hlen hle) ih
  | object _ ih => exact .object ih

/-- **A value that is read from octets** has no list with more items than there are octets. -/
theorem narrow_ofBytes {depth : Nat} {octets : List UInt8} (h : ofBytes depth octets = .ok v) :
    Narrow octets.length v := by
  unfold ofBytes at h
  split at h
  · cases h
  · rename_i points hpoints
    cases hv : parsePoints depth points with
    | error e =>
      rw [hv] at h
      cases h
    | ok w =>
      rw [hv] at h
      cases h
      exact (narrow_parsePoints hv).mono (Charset.length_decode?_le hpoints)

end DocAccess.Json
