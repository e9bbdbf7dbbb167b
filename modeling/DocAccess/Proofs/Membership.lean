import DocAccess.Membership

/-!
# Reading a condition back

The grammar of a list of literals, and a machine that reads such a list one code point at a time.
A quote inside a literal is written twice, so whether a quote ends its literal shows in the
code point behind it.

## Main definitions

* `Enclosed`, `Listed` — the grammar of literals and of lists of them.
* `scan` — the machine; it stops behind the parenthesis that closes the list.
* `values?` — the values of a whole condition.

## Main statements

* `scan_of_listed`, `eq_literals_of_scan` — the machine reads what the grammar allows, and nothing
  but what rendering writes.
* `render_determines_values` — a rendered condition has no other reading than its values.
-/
namespace DocAccess.MembershipPredicate

/-- What the text between the quotes of a literal stands for: two quotes for one, any other
code point for itself. -/
inductive Enclosed : (text content : List Nat) → Prop
  | nil : Enclosed [] []
  | plain {c : Nat} {text content : List Nat} : c ≠ 0x27 → Enclosed text content →
      Enclosed (c :: text) (c :: content)
  | quote {text content : List Nat} : Enclosed text content →
      Enclosed (0x27 :: 0x27 :: text) (0x27 :: content)

/-- Literals with commas between neighbours, and the parenthesis that closes their list. -/
inductive Listed : (text : List Nat) → (values : List Text) → Prop
  | last {text content : List Nat} : Enclosed text content →
      Listed (0x27 :: text ++ [0x27, 0x29]) [Text.ofPoints content]
  | cons {text content rest : List Nat} {values : List Text} : Enclosed text content →
      Listed rest values →
      Listed (0x27 :: text ++ 0x27 :: 0x2C :: rest) (Text.ofPoints content :: values)

/-- Where a reader of a list of literals stands. -/
inductive Place where
  /-- In front of a literal. -/
  | outside
  /-- In a literal of which `read` was read, newest first. -/
  | inside (read : List Nat)
  /-- Behind a quote in a literal. The literal goes on when another quote follows, and has ended
  otherwise. -/
  | behindQuote (read : List Nat)

/-- Reads literals up to the parenthesis that closes their list; what follows it is handed back. -/
def scan : Place → List Nat → Option (List Text × List Nat)
  | _, [] => none
  | .outside, c :: text => if c = 0x27 then scan (.inside []) text else none
  | .inside read, c :: text =>
    if c = 0x27 then scan (.behindQuote read) text else scan (.inside (c :: read)) text
  | .behindQuote read, c :: text =>
    if c = 0x27 then scan (.inside (0x27 :: read)) text
    else if c = 0x2C then
      (scan .outside text).map fun (values, rest) => (Text.ofPoints read.reverse :: values, rest)
    else if c = 0x29 then some ([Text.ofPoints read.reverse], text)
    else none

/-- The values of a condition on a column; nothing for a text that is no such condition. -/
def values? (column : String) (text : Text) : Option (List Text) :=
  if (front column).isPrefixOf text.points then
    match scan .outside (text.points.drop (front column).length) with
    | some (values, []) => some values
    | _ => none
  else none

/-- Doubling quotes encloses any code points. -/
theorem enclosed_doubleQuotes (cs : List Nat) : Enclosed (doubleQuotes cs) cs := by
  induction cs with
  | nil => exact .nil
  | cons c cs ih =>
    by_cases hc : c = 0x27
    · subst hc
      exact .quote ih
    · have heq : doubleQuotes (c :: cs) = c :: doubleQuotes cs := by simp [doubleQuotes, hc]
      rw [heq]
      exact .plain hc ih

/-- Rendered literals are a list of their values. -/
theorem listed_literals {values : List Text} (h : values ≠ []) :
    Listed (literals values ++ [0x29]) values := by
  induction values with
  | nil => exact absurd rfl h
  | cons v rest ih =>
    have hv := enclosed_doubleQuotes v.points
    cases rest with
    | nil => simpa [literals, literal] using Listed.last hv
    | cons w rest => simpa [literals, literal] using Listed.cons hv (ih (by simp))

/-- Enclosed text is read up to the quote behind it. -/
theorem scan_inside {text content : List Nat} (h : Enclosed text content)
    (read rest : List Nat) :
    scan (.inside read) (text ++ 0x27 :: rest) =
      scan (.behindQuote (content.reverse ++ read)) rest := by
  induction h generalizing read with
  | nil => simp [scan]
  | plain hc _ ih => simp [scan, hc, ih]
  | quote _ ih => simp [scan, ih]

/-- **What the grammar allows is read**, whatever follows it. -/
theorem scan_of_listed {text : List Nat} {values : List Text} (h : Listed text values)
    (rest : List Nat) : scan .outside (text ++ rest) = some (values, rest) := by
  induction h with
  | last h => simp [scan, scan_inside h]
  | cons h _ ih => simp [scan, scan_inside h, ih]

/-- What stands between a literal and the end of its list. -/
def continuation : List Text → List Nat
  | [] => []
  | v :: values => 0x2C :: literals (v :: values)

/-- A list of literals is its first one and what follows it. -/
theorem literals_cons (v : Text) (values : List Text) :
    literals (v :: values) = 0x27 :: doubleQuotes v.points ++ 0x27 :: continuation values := by
  cases values with
  | nil => rfl
  | cons w values => simp [literals, literal, continuation]

/-- What a reader that stands at a place has in front of it, when it reads `values` and hands
back `rest`. -/
def Ahead (values : List Text) (rest : List Nat) : Place → List Nat → Prop
  | .outside, text => values ≠ [] ∧ text = literals values ++ 0x29 :: rest
  | .inside read, text => ∃ (content : List Nat) (others : List Text),
      values = Text.ofPoints (read.reverse ++ content) :: others ∧
      text = doubleQuotes content ++ 0x27 :: continuation others ++ 0x29 :: rest
  | .behindQuote read, text =>
      (∃ others : List Text, values = Text.ofPoints read.reverse :: others ∧
        text = continuation others ++ 0x29 :: rest) ∨
      ∃ (content : List Nat) (others : List Text),
        values = Text.ofPoints (read.reverse ++ 0x27 :: content) :: others ∧
        text = 0x27 :: doubleQuotes content ++ 0x27 :: continuation others ++ 0x29 :: rest

/-- From every place, only what rendering writes is read. -/
theorem ahead_of_scan {place : Place} {text rest : List Nat} {values : List Text}
    (h : scan place text = some (values, rest)) : Ahead values rest place text := by
  fun_induction scan place text generalizing values rest with
  | case1 place => cases h
  | case2 text ih =>
    obtain ⟨content, others, rfl, rfl⟩ := ih h
    exact ⟨by simp, by simp [literals_cons]⟩
  | case3 => cases h
  | case4 read text ih =>
    rcases ih h with ⟨others, rfl, rfl⟩ | ⟨content, others, rfl, rfl⟩
    · exact ⟨[], others, by simp, by simp [doubleQuotes]⟩
    · exact ⟨0x27 :: content, others, rfl, by simp [doubleQuotes]⟩
  | case5 read c text hc ih =>
    obtain ⟨content, others, rfl, rfl⟩ := ih h
    exact ⟨c :: content, others, by simp, by simp [doubleQuotes, hc]⟩
  | case6 read text ih =>
    obtain ⟨content, others, rfl, rfl⟩ := ih h
    exact .inr ⟨content, others, by simp, by simp⟩
  | case7 read text _ ih =>
    obtain ⟨⟨others, tail⟩, hscan, heq⟩ := Option.map_eq_some_iff.mp h
    cases heq
    obtain ⟨hne, rfl⟩ := ih hscan
    cases others with
    | nil => exact absurd rfl hne
    | cons w others => exact .inl ⟨w :: others, rfl, rfl⟩
  | case8 read text =>
    cases h
    exact .inl ⟨[], rfl, rfl⟩
  | case9 => cases h

/-- **Nothing is read but what rendering writes.** -/
theorem eq_literals_of_scan {text rest : List Nat} {values : List Text}
    (h : scan .outside text = some (values, rest)) :
    values ≠ [] ∧ text = literals values ++ 0x29 :: rest :=
  ahead_of_scan h

/-- A rendered condition: what stands in front of the literals, and the literals. -/
theorem points_render (p : MembershipPredicate) :
    p.render.points = front p.column ++ (literals p.values ++ [0x29]) := by
  simp [render, front]

/-- A text is read as values exactly when it is the condition that renders them. -/
theorem values?_eq_some_iff (p : MembershipPredicate) (text : Text) :
    values? p.column text = some p.values ↔ text = p.render := by
  constructor
  · intro h
    unfold values? at h
    split at h
    · rename_i hfront
      split at h
      · rename_i values hscan
        cases h
        obtain ⟨-, hrest⟩ := eq_literals_of_scan hscan
        obtain ⟨behind, hbehind⟩ := List.isPrefixOf_iff_prefix.mp hfront
        rw [← hbehind, List.drop_left] at hrest
        apply Text.points_injective
        rw [points_render, ← hbehind, hrest]
      · cases h
    · cases h
  · rintro rfl
    have hprefix : (front p.column).isPrefixOf
        (front p.column ++ (literals p.values ++ [0x29])) = true :=
      List.isPrefixOf_iff_prefix.mpr (List.prefix_append _ _)
    have hscan := scan_of_listed (listed_literals p.nonempty) []
    rw [List.append_nil] at hscan
    simp only [values?, points_render, hprefix, if_true, List.drop_left, hscan]

/-- **A rendered condition has no other reading than its values.** It is the only text that is
read as its values; behind what stands in front of its literals the grammar derives exactly these
values, in order, whatever quotes, commas and parentheses they hold; and a condition on the same
column with other values renders to another text. -/
theorem render_determines_values (p : MembershipPredicate) :
    (∀ text, values? p.column text = some p.values ↔ text = p.render) ∧
      (∃ list, p.render.points = front p.column ++ list ∧
        scan .outside list = some (p.values, []) ∧
        ∀ values, Listed list values ↔ values = p.values) ∧
      ∀ q : MembershipPredicate, q.column = p.column →
        (q.render = p.render ↔ q.values = p.values) := by
  have hlisted := listed_literals p.nonempty
  have hscan : scan .outside (literals p.values ++ [0x29]) = some (p.values, []) := by
    simpa using scan_of_listed hlisted []
  refine ⟨values?_eq_some_iff p, ⟨literals p.values ++ [0x29], points_render p, hscan, ?_⟩, ?_⟩
  · intro values
    constructor
    · intro h
      have hother := scan_of_listed h []
      rw [List.append_nil, hscan] at hother
      exact (congrArg Prod.fst (Option.some.inj hother)).symm
    · rintro rfl
      exact hlisted
  · intro q hcolumn
    constructor
    · intro hrender
      have hread := (values?_eq_some_iff q p.render).mpr hrender.symm
      rw [hcolumn, (values?_eq_some_iff p p.render).mpr rfl] at hread
      exact (Option.some.inj hread).symm
    · intro hvalues
      simp only [render, hcolumn, hvalues]

/-- A value that tries to end its literal and to open another list is one value. -/
example : values? "DataID" "DataID in ('a'') or DataID in (''b','')" =
    some [.wellFormed "a') or DataID in ('b", .wellFormed ""] := by decide +kernel

end DocAccess.MembershipPredicate
