import DocAccess.Json.Spelled
import Mathlib.Data.List.Basic

/-!
# Values that can be sent

A value is sent as text in UTF-8. That fails exactly when some number in it is not finite, or when
some text in it is not well formed: writing a value adds nothing but ASCII, and drops no code point
of its texts that is no character.

## Main definitions

* `Json.Plain` — every number in a value is finite, and every text well formed.

## Main statements

* `Json.unsendable?_eq_none_iff` — the plain values are those that can be sent.
-/
namespace DocAccess

/-- A text can be encoded when all of its code points are characters. -/
theorem Fault.ofPoints?_eq_none_iff (position : Nat) (ps : List Nat) :
    Fault.ofPoints? position ps = none ↔ ∀ p ∈ ps, p.isValidChar := by
  induction ps generalizing position with
  | nil => simp [ofPoints?]
  | cons p ps ih =>
    rw [List.forall_mem_cons, ← ih (position + 1)]
    by_cases h : p.isValidChar <;> simp [ofPoints?, h]

namespace Json

mutual

/-- Every number in the value is finite, and every text well formed. -/
def Plain : Json → Prop
  | .real x => x.isFinite = true
  | .string t => ∃ s, t = .wellFormed s
  | .array items => PlainItems items
  | .object members => PlainMembers members
  | _ => True

/-- The items of the list are plain. -/
def PlainItems : List Json → Prop
  | [] => True
  | v :: rest => Plain v ∧ PlainItems rest

/-- The members of the object are plain, and their keys well formed. -/
def PlainMembers : List (Text × Json) → Prop
  | [] => True
  | (k, v) :: rest => (∃ s, k = .wellFormed s) ∧ Plain v ∧ PlainMembers rest

end

/-! ## Parts that are written -/

/-- The code points of a string are characters. -/
theorem isValidChar_of_mem_codes {s : String} {p : Nat} (h : p ∈ codes s) : p.isValidChar := by
  obtain ⟨c, -, rfl⟩ := List.mem_map.mp h
  exact c.valid

/-- Only ASCII is escaped. -/
theorem lt_of_escape? {p : Nat} {s : String} (h : escape? p = some s) : p < 0x80 := by
  unfold escape? at h
  split_ifs at h <;> omega

/-- A code point is written with characters if it is one itself. -/
theorem isValidChar_writePoint_iff (p : Nat) :
    (∀ q ∈ writePoint p, q.isValidChar) ↔ p.isValidChar := by
  unfold writePoint
  split
  · rename_i s hs
    have hlt := lt_of_escape? hs
    exact iff_of_true (fun q => isValidChar_of_mem_codes) (.inl (by omega))
  · simp

/-- A text is written with characters if it is well formed. -/
theorem isValidChar_writeText_iff (t : Text) :
    (∀ p ∈ writeText t, p.isValidChar) ↔ ∃ s, t = .wellFormed s := by
  have hquote : Nat.isValidChar 0x22 := by decide
  rw [Text.exists_wellFormed_iff, writeText]
  constructor
  · intro h p hp
    refine (isValidChar_writePoint_iff p).mp fun q hq => h q ?_
    exact List.mem_append_left _ (List.mem_cons_of_mem _ (List.mem_flatMap.mpr ⟨p, hp, hq⟩))
  · intro h
    refine List.forall_mem_append.mpr ⟨List.forall_mem_cons.mpr ⟨hquote, fun q hq => ?_⟩, by
      simpa using hquote⟩
    obtain ⟨p, hp, hq⟩ := List.mem_flatMap.mp hq
    exact (isValidChar_writePoint_iff p).mpr (h p hp) q hq

/-- Parts with commas between them are written with characters if each of them is. -/
theorem isValidChar_intercalate_iff (parts : List (List Nat)) :
    (∀ p ∈ [0x2C].intercalate parts, p.isValidChar) ↔
      ∀ part ∈ parts, ∀ p ∈ part, p.isValidChar := by
  have hcomma : ∀ p ∈ [0x2C], Nat.isValidChar p := by decide
  induction parts with
  | nil => simp
  | cons part rest ih =>
    cases rest with
    | nil => simp
    | cons next rest =>
      rw [List.intercalate_cons_cons, List.forall_mem_append, List.forall_mem_append,
        List.forall_mem_cons (a := part)]
      exact ⟨fun h => ⟨h.1.1, ih.mp h.2⟩, fun h => ⟨⟨h.1, hcomma⟩, ih.mpr h.2⟩⟩

/-! ## Values that are written -/

mutual

/-- A value is plain if it is finite and written with characters. -/
theorem plain_iff : ∀ v : Json, v.Plain ↔ v.isFinite = true ∧ ∀ p ∈ v.written, p.isValidChar
  | .null | .bool false | .bool true | .int _ =>
    iff_of_true trivial ⟨rfl, fun _ => isValidChar_of_mem_codes⟩
  | .real x => (and_iff_left fun _ => isValidChar_of_mem_codes).symm
  | .string t => by
    rw [Plain, written, isValidChar_writeText_iff]
    exact (and_iff_right rfl).symm
  | .array items => by
    have hopen : Nat.isValidChar 0x5B := by decide
    have hclose : ∀ p ∈ [0x5D], Nat.isValidChar p := by decide
    rw [Plain, plainItems_iff items, written, isFinite, List.forall_mem_cons,
      List.forall_mem_append, isValidChar_intercalate_iff]
    exact ⟨fun h => ⟨h.1, hopen, h.2, hclose⟩, fun h => ⟨h.1, h.2.2.1⟩⟩
  | .object members => by
    have hopen : Nat.isValidChar 0x7B := by decide
    have hclose : ∀ p ∈ [0x7D], Nat.isValidChar p := by decide
    rw [Plain, plainMembers_iff members, written, isFinite, List.forall_mem_cons,
      List.forall_mem_append, isValidChar_intercalate_iff]
    exact ⟨fun h => ⟨h.1, hopen, h.2, hclose⟩, fun h => ⟨h.1, h.2.2.1⟩⟩

theorem plainItems_iff : ∀ items : List Json, PlainItems items ↔
    areFinite items = true ∧ ∀ part ∈ writtenItems items, ∀ p ∈ part, p.isValidChar
  | [] => by simp [PlainItems, areFinite, writtenItems]
  | v :: rest => by
    rw [PlainItems, plain_iff v, plainItems_iff rest, areFinite, writtenItems,
      List.forall_mem_cons, Bool.and_eq_true]
    exact and_and_and_comm

theorem plainMembers_iff : ∀ members : List (Text × Json), PlainMembers members ↔
    haveFinite members = true ∧ ∀ part ∈ writtenMembers members, ∀ p ∈ part, p.isValidChar
  | [] => by simp [PlainMembers, haveFinite, writtenMembers]
  | (k, v) :: rest => by
    have hcolon : Nat.isValidChar 0x3A := by decide
    rw [PlainMembers, plain_iff v, plainMembers_iff rest, haveFinite, writtenMembers,
      List.forall_mem_cons, List.forall_mem_append, List.forall_mem_cons,
      isValidChar_writeText_iff, Bool.and_eq_true]
    constructor
    · rintro ⟨hkey, ⟨hfinite, hvalue⟩, hfinites, hrest⟩
      exact ⟨⟨hfinite, hfinites⟩, ⟨hkey, hcolon, hvalue⟩, hrest⟩
    · rintro ⟨⟨hfinite, hfinites⟩, ⟨hkey, -, hvalue⟩, hrest⟩
      exact ⟨hkey, ⟨hfinite, hvalue⟩, hfinites, hrest⟩

end

/-- **The plain values are those that can be sent.** -/
theorem unsendable?_eq_none_iff (v : Json) : v.unsendable? = none ↔ v.Plain := by
  rw [plain_iff, unsendable?]
  by_cases h : v.isFinite = true <;> simp [h, Fault.ofPoints?_eq_none_iff]

/-! ## Plain values -/

@[simp] theorem plain_null : Plain .null := trivial

@[simp] theorem plain_bool (b : Bool) : Plain (.bool b) := trivial

@[simp] theorem plain_int (n : Int) : Plain (.int n) := trivial

@[simp] theorem plain_nat (n : Nat) : (nat n).Plain := trivial

@[simp] theorem plain_str (s : String) : (str s).Plain := ⟨s, rfl⟩

@[simp] theorem plain_string (t : Text) : Plain (.string t) ↔ ∃ s, t = .wellFormed s := .rfl

@[simp] theorem plain_array (items : List Json) :
    Plain (.array items) ↔ ∀ v ∈ items, v.Plain := by
  rw [Plain]
  induction items with
  | nil => simp [PlainItems]
  | cons v rest ih => rw [PlainItems, ih, List.forall_mem_cons]

@[simp] theorem plain_ofFields (fields : List (String × Json)) :
    (ofFields fields).Plain ↔ ∀ field ∈ fields, field.2.Plain := by
  rw [ofFields, Plain]
  induction fields with
  | nil => simp [PlainMembers]
  | cons field rest ih =>
    rw [List.map_cons, PlainMembers, ih, List.forall_mem_cons]
    exact and_iff_right ⟨field.1, rfl⟩

end Json
end DocAccess
