import DocAccess.Proofs.Remote.History
import Mathlib.Data.List.Forall2

/-!
# What a query makes of an answer

A query that is answered with status 200 is decided by the body of the answer. When the body lists
items, each of them has to list a document, and then the rows are those of the items, in order;
one item that lists none spoils the whole answer. When the body lists no items, the query fails,
but for two values that count as a list without items, and for bodies that are nested too deeply.
The failure keeps an excerpt of the text of the answer; where that cannot be decoded, the query
raises instead.

## Main definitions

* `Rows.Lists`, `Rows.Permits` — the document and the permission that an item has.
* `Rows.Shows` — a row says what its item has.
* `Response.Itemizes`, `Response.Vacant` — a body that lists items, or has an empty value instead.
* `Remote.Answered` — a query is sent and answered with status 200.
* `Remote.Rejected` — an answer is refused as a whole.

## Main statements

* `Rows.row?_eq_some_iff` — an item is read as the row that says what it has.
* `Remote.decides_of_answered` — the rows in the body decide the query.
* `Remote.rows_of_items` — what a query makes of an answer that lists items.
* `Remote.rows_of_no_items` — what a query makes of any other answer.
-/
namespace DocAccess

/-- Only objects have members. -/
theorem Json.get?_eq_some_iff {item v : Json} {key : Text} :
    item.get? key = some v ↔ ∃ members, item = .object members ∧ lookup members key = some v := by
  cases item <;> simp [Json.get?]

namespace Rows

variable {column : String} {others : List String} {item : Json} {items : List Json} {id : Text}

/-! ## Items -/

/-- The item is an object with an identifier in the column: a string, or the digits of a whole
number. -/
def Lists (column : String) (item : Json) (id : Text) : Prop :=
  ∃ members cell, item = .object members ∧ Json.lookup members column = some cell ∧
    (cell = .string id ∨ ∃ n : Int, cell = .int n ∧ id = .wellFormed (toString n))

/-- The item is an object with a permission: there is a second column, its name is not empty, and
the value in it is there and not null. -/
def Permits (others : List String) (item : Json) (permission : Text) : Prop :=
  ∃ members second value, item = .object members ∧ others.head? = some second ∧ second ≠ "" ∧
    Json.lookup members second = some value ∧ value ≠ .null ∧ permission = value.spelled

/-- The row says which document and which permission the item has. -/
structure Shows (column : String) (others : List String) (item : Json) (row : Row) : Prop where
  document : Lists column item row.docId
  permission : ∀ p, row.permissionId = some p ↔ Permits others item p

theorem documentId?_eq_some_iff {cell : Json} :
    documentId? cell = some id ↔
      cell = .string id ∨ ∃ n : Int, cell = .int n ∧ id = .wellFormed (toString n) := by
  cases cell <;> simp [documentId?, eq_comm]

theorem lists_iff :
    Lists column item id ↔ ∃ cell, item.get? column = some cell ∧ documentId? cell = some id := by
  simp only [Lists, Json.get?_eq_some_iff, documentId?_eq_some_iff]
  constructor
  · rintro ⟨members, cell, hitem, hcell, hid⟩
    exact ⟨cell, ⟨members, hitem, hcell⟩, hid⟩
  · rintro ⟨cell, ⟨members, hitem, hcell⟩, hid⟩
    exact ⟨members, cell, hitem, hcell, hid⟩

theorem permissionId_of_named {second : String} (h : second ≠ "") {p : Text} :
    permissionId item (some second) = some p ↔
      ∃ value, item.get? second = some value ∧ value ≠ .null ∧ p = value.spelled := by
  unfold permissionId
  split
  · rename_i hnone
    cases hnone
  · rename_i hempty
    exact absurd (Option.some.inj hempty) h
  · rename_i hsecond
    cases hsecond
    split
    · rename_i hget
      simp [hget]
    · rename_i hget
      simp [hget]
    · rename_i value hvalue hget
      have hvalue : value ≠ .null := hvalue
      simp only [hget, Option.some.injEq]
      constructor
      · rintro rfl
        exact ⟨value, rfl, hvalue, rfl⟩
      · rintro ⟨_, rfl, -, rfl⟩
        rfl

theorem permits_iff {p : Text} :
    Permits others item p ↔ permissionId item others.head? = some p := by
  unfold Permits
  cases others.head? with
  | none => simp [permissionId]
  | some second =>
    by_cases h : second = ""
    · simp [permissionId, h]
    · rw [permissionId_of_named h]
      simp only [Json.get?_eq_some_iff]
      constructor
      · rintro ⟨members, _, value, hitem, ⟨⟩, -, hvalue, hnull, hp⟩
        exact ⟨value, ⟨members, hitem, hvalue⟩, hnull, hp⟩
      · rintro ⟨value, ⟨members, hitem, hvalue⟩, hnull, hp⟩
        exact ⟨members, second, value, hitem, rfl, h, hvalue, hnull, hp⟩

/-- **An item is read as the row that says what it has.** -/
theorem row?_eq_some_iff {row : Row} :
    row? column others.head? item = some row ↔ Shows column others item row := by
  constructor
  · intro h
    obtain ⟨cell, hcell, h⟩ := Option.bind_eq_some_iff.mp h
    obtain ⟨id, hid, h⟩ := Option.bind_eq_some_iff.mp h
    cases h
    exact ⟨lists_iff.mpr ⟨cell, hcell, hid⟩, fun p => permits_iff.symm⟩
  · intro h
    obtain ⟨cell, hcell, hid⟩ := lists_iff.mp h.document
    have hpermission : permissionId item others.head? = row.permissionId :=
      Option.ext fun p => (permits_iff.symm.trans (h.permission p).symm)
    simp [row?, hcell, hid, hpermission]

/-- An item that lists a document is read. -/
theorem exists_shows (h : Lists column item id) : ∃ row, Shows column others item row :=
  ⟨⟨id, permissionId item others.head?⟩, h, fun _ => permits_iff.symm⟩

/-! ## Lists of items -/

/-- A list is read item by item. -/
theorem mapM_row?_eq_some_iff {rows : List Row} :
    items.mapM (row? column others.head?) = some rows ↔
      List.Forall₂ (Shows column others) items rows := by
  induction items generalizing rows with
  | nil => simp [eq_comm]
  | cons item items ih =>
    rw [List.mapM_cons]
    constructor
    · intro h
      obtain ⟨row, hrow, h⟩ := Option.bind_eq_some_iff.mp h
      obtain ⟨rest, hrest, h⟩ := Option.bind_eq_some_iff.mp h
      cases h
      exact .cons (row?_eq_some_iff.mp hrow) (ih.mp hrest)
    · rintro (_ | ⟨hrow, hrest⟩)
      simp [row?_eq_some_iff.mpr hrow, ih.mpr hrest]

/-- A list is read exactly if every item lists a document. -/
theorem exists_forall₂_shows_iff :
    (∃ rows, List.Forall₂ (Shows column others) items rows) ↔
      ∀ item ∈ items, ∃ id, Lists column item id := by
  induction items with
  | nil => simp
  | cons item items ih =>
    rw [List.forall_mem_cons, ← ih]
    constructor
    · rintro ⟨_, _ | ⟨hrow, hrest⟩⟩
      exact ⟨⟨_, hrow.document⟩, _, hrest⟩
    · rintro ⟨⟨id, hid⟩, rows, hrest⟩
      obtain ⟨row, hrow⟩ : ∃ row, Shows column others item row := exists_shows hid
      exact ⟨row :: rows, .cons hrow hrest⟩

/-- A payload lists the items of its member `rows`; two values count as empty lists. -/
theorem items?_eq_some_iff {payload : Json} :
    items? payload = some items ↔
      payload.get? "rows" = some (.array items) ∨
      items = [] ∧ (payload.get? "rows" = some (.object []) ∨
        payload.get? "rows" = some (.string "")) := by
  unfold items?
  split
  · rename_i hrows
    simp [hrows, eq_comm]
  · rename_i hrows
    simp [hrows, eq_comm]
  · rename_i hrows
    simp [hrows, eq_comm]
  · -- None of the three shapes that count as a list.
    rename_i harray hobject hstring
    refine ⟨fun h => (Option.some_ne_none _ h.symm).elim, ?_⟩
    rintro (h | ⟨-, h | h⟩)
    · exact absurd h (harray items)
    · exact absurd h hobject
    · exact absurd h hstring

end Rows

/-! ## Bodies -/

namespace Response

variable {codec : Codec} {column : String} {others : List String} {r : Response}
  {items : List Json}

/-- A response of status 200 with a text. -/
def ofText (text contentType : String) : Response := ⟨200, text.toUTF8.data.toList, contentType⟩

/-- The body is an object whose member `rows` is a list of the items. -/
def Itemizes (codec : Codec) (r : Response) (items : List Json) : Prop :=
  ∃ members, r.json codec = .ok (some (.object members)) ∧
    Json.lookup members "rows" = some (.array items)

/-- The body is an object whose member `rows` is an empty object or an empty string. -/
def Vacant (codec : Codec) (r : Response) : Prop :=
  ∃ members, r.json codec = .ok (some (.object members)) ∧
    (Json.lookup members "rows" = some (.object []) ∨
      Json.lookup members "rows" = some (.string ""))

/-- The rows in the body: nothing when it is malformed, a fault when it is nested too deeply. -/
def rows? (codec : Codec) (column : String) (others : List String) (r : Response) :
    Except Fault (Option (List Row)) :=
  (r.json codec).map (·.bind (Rows.ofPayload? column others.head?))

/-- A body that is a list of items has the rows of the items. -/
theorem Itemizes.rows?_eq (h : r.Itemizes codec items) :
    r.rows? codec column others = .ok (items.mapM (Rows.row? column others.head?)) := by
  obtain ⟨members, hjson, hrows⟩ := h
  simp [rows?, hjson, Except.map, Rows.ofPayload?, Rows.items?, Json.get?, hrows]

/-- An empty object or an empty string counts as no rows. -/
theorem Vacant.rows?_eq (h : r.Vacant codec) :
    r.rows? codec column others = .ok (some []) := by
  obtain ⟨members, hjson, hrows | hrows⟩ := h <;>
    simp [rows?, hjson, Except.map, Rows.ofPayload?, Rows.items?, Json.get?, hrows]

/-- Any other body that is not nested too deeply is malformed. -/
theorem rows?_eq_none (hread : ∀ f, r.json codec ≠ .error f)
    (hitems : ¬ ∃ items, r.Itemizes codec items) (hvacant : ¬ r.Vacant codec) :
    r.rows? codec column others = .ok none := by
  unfold rows?
  cases hjson : r.json codec with
  | error f => exact absurd hjson (hread f)
  | ok payload? =>
    cases payload? with
    | none => rfl
    | some payload =>
      have hnone : Rows.items? payload = none := by
        refine Option.eq_none_iff_forall_ne_some.mpr fun items h => ?_
        simp only [Rows.items?_eq_some_iff, Json.get?_eq_some_iff] at h
        rcases h with ⟨members, rfl, h⟩ | ⟨-, ⟨members, rfl, h⟩ | ⟨members, rfl, h⟩⟩
        · exact hitems ⟨items, members, hjson, h⟩
        · exact hvacant ⟨members, hjson, .inl h⟩
        · exact hvacant ⟨members, hjson, .inr h⟩
      simp [Except.map, Rows.ofPayload?, hnone]

theorem kind_of_json_fault {f : Fault} (h : r.json codec = .error f) : f.kind = .recursion := by
  unfold json at h
  split at h <;> cases h <;> rfl

end Response

namespace Remote

variable {config : RemoteConfig} {w : Remote} {number : Nat} {request : QueryRequest}
  {column : String} {others : List String} {r : Response}

/-! ## Answered queries -/

/-- The next query on the session is sent, and answered with a response of status 200. -/
structure Answered (config : RemoteConfig) (w : Remote) (number : Nat) (request : QueryRequest)
    (r : Response) : Prop where
  sent : ∃ token url, w.Serves number token ∧
    prepared config (sessionPath token "/queries") (queryBody request) = .ok url
  reply : w.next.reply = .respond r
  status : r.status = 200

/-- What a query ends with. -/
abbrev QueryOutcome := Except Fault (Except RepositoryError (List Row))

/-- The failure of an answer that is refused as a whole. -/
def malformedAnswer (config : RemoteConfig) (details : Json) : RepositoryError :=
  queryFailure config .invalidResponse "Repository returned a malformed query response"
    (some details) false

/-- The answer is refused as a whole. The failure keeps an excerpt of the text of the answer; where
the text cannot be decoded, the fault of decoding it is raised instead. -/
structure Rejected (config : RemoteConfig) (r : Response) (outcome : QueryOutcome) : Prop where
  failure : ∀ text, config.codec.text r = .ok text →
    ∃ details, r.details config.codec = .ok details ∧
      outcome = .ok (.error (malformedAnswer config details))
  fault : ∀ f, config.codec.text r = .error f → outcome = .error f

/-- A refusal of a malformed answer. -/
theorem rejected_of_refused (r : Response) (notices : List Event) (v : Remote) :
    Rejected config r (refused config r (malformedAnswer config) notices v).outcome where
  failure text h := by
    simp [refused, Response.details, Response.excerpt, h, Except.map]
  fault f h := by
    simp [refused, Response.details, Response.excerpt, h, Except.map]

/-- No rows are left of an answer that is refused. -/
theorem Rejected.ne_rows {outcome : QueryOutcome} (h : Rejected config r outcome)
    (rows : List Row) : outcome ≠ .ok (.ok rows) := by
  intro hrows
  cases htext : config.codec.text r with
  | ok text =>
    obtain ⟨details, -, houtcome⟩ := h.failure text htext
    cases houtcome.symm.trans hrows
  | error f => cases (h.fault f htext).symm.trans hrows

/-- How the rows in the body of an answer decide the query. -/
inductive Decides (config : RemoteConfig) (r : Response) :
    Except Fault (Option (List Row)) → QueryOutcome → Prop
  | nested (f : Fault) : Decides config r (.error f) (.error f)
  | rows (rows : List Row) : Decides config r (.ok (some rows)) (.ok (.ok rows))
  | malformed {outcome : QueryOutcome} (h : Rejected config r outcome) :
    Decides config r (.ok none) outcome

/-- A response is decided by the rows in its body. -/
theorem decides_readRows (hcolumns : request.columns = column :: others) (s : RemoteSession)
    (v : Remote) :
    Decides config r (r.rows? config.codec column others)
      (readRows config s request r v).outcome := by
  simp only [readRows, hcolumns, Response.rows?]
  cases r.json config.codec with
  | error f => exact .nested f
  | ok payload? =>
    cases payload? with
    | none => exact .malformed (rejected_of_refused r _ v)
    | some payload =>
      simp only [Except.map, Option.bind_some]
      cases Rows.ofPayload? column others.head? payload with
      | none => exact .malformed (rejected_of_refused r _ v)
      | some rows => exact .rows rows

/-- A query that is answered with status 200 is decided by the rows in the body. -/
theorem decides_of_answered (h : Answered config w number request r)
    (hcolumns : request.columns = column :: others) :
    Decides config r (r.rows? config.codec column others)
      ((repository config).perform (.query number request) w).outcome := by
  obtain ⟨token, url, hserves, hprepared⟩ := h.sent
  rw [Repository.perform, start_query]
  rcases post_cases config hserves "/queries" (queryBody request) (finishQuery config · request)
    with ⟨f, hf, -⟩ | ⟨s, call, -, hstart⟩
  · cases hprepared.symm.trans hf
  · simp only [hstart, h.reply, finishQuery, h.status, if_true]
    exact decides_readRows hcolumns s _

section Decides

variable {read : Except Fault (Option (List Row))} {outcome : QueryOutcome}

/-- A query succeeds with the rows in the body. -/
theorem Decides.rows_iff (h : Decides config r read outcome) (rows : List Row) :
    outcome = .ok (.ok rows) ↔ read = .ok (some rows) := by
  cases h with
  | nested f => simp
  | rows others => simp
  | malformed h => simp [h.ne_rows rows]

theorem Decides.of_fault {f : Fault} (h : Decides config r (.error f) outcome) :
    outcome = .error f := by
  cases h
  rfl

theorem Decides.of_none (h : Decides config r (.ok none) outcome) : Rejected config r outcome := by
  cases h with
  | malformed h => exact h

end Decides

/-- What a query makes of an answer that lists items. -/
structure ReadsItems (config : RemoteConfig) (column : String) (others : List String)
    (r : Response) (items : List Json) (outcome : QueryOutcome) : Prop where
  /-- It succeeds exactly if every item lists a document. -/
  succeeds_iff : (∃ rows, outcome = .ok (.ok rows)) ↔
    ∀ item ∈ items, ∃ id, Rows.Lists column item id
  /-- The rows are those of the items, in order. -/
  rows_iff : ∀ rows, outcome = .ok (.ok rows) ↔ List.Forall₂ (Rows.Shows column others) items rows
  /-- One item that lists no document spoils the whole answer. -/
  spoiled : (∃ item ∈ items, ∀ id, ¬ Rows.Lists column item id) → Rejected config r outcome

/-- **Each item of an answer is a row, or the answer is refused.** An item is a row exactly if it
has a string or a whole number in the first column; the second column says its permission. -/
theorem rows_of_items {items : List Json} (h : Answered config w number request r)
    (hcolumns : request.columns = column :: others) (hitems : r.Itemizes config.codec items) :
    ReadsItems config column others r items
      ((repository config).perform (.query number request) w).outcome := by
  have hdecides := decides_of_answered h hcolumns
  rw [hitems.rows?_eq] at hdecides
  have hrows : ∀ rows, ((repository config).perform (.query number request) w).outcome =
      .ok (.ok rows) ↔ List.Forall₂ (Rows.Shows column others) items rows := by
    intro rows
    rw [hdecides.rows_iff, Except.ok.injEq, Rows.mapM_row?_eq_some_iff]
  refine ⟨?_, hrows, ?_⟩
  · simp only [hrows, Rows.exists_forall₂_shows_iff]
  · rintro ⟨item, hmem, hlists⟩
    -- Were the list read at all, then every item of it would be.
    have hnone : items.mapM (Rows.row? column others.head?) = none := by
      refine Option.eq_none_iff_forall_ne_some.mpr fun rows hread => ?_
      have hforall := Rows.mapM_row?_eq_some_iff.mp hread
      obtain ⟨id, hid⟩ := Rows.exists_forall₂_shows_iff.mp ⟨rows, hforall⟩ item hmem
      exact hlists id hid
    rw [hnone] at hdecides
    exact hdecides.of_none

/-- A repository with one open session, whose server has one more response. -/
def serving (r : Response) : Remote :=
  ⟨[⟨.immediate, .respond r⟩], [], [⟨"s", .whole 30, false, true⟩], 1, 0⟩

/-- The response answers a query on the session, which is prepared. -/
theorem answered_serving {url : String}
    (hurl : prepared config (sessionPath "s" "/queries") (queryBody request) = .ok url)
    (h : r.status = 200) : Answered config (serving r) 0 request r where
  sent := ⟨"s", url, ⟨_, rfl, rfl, rfl⟩, hurl⟩
  reply := rfl
  status := h

/-- A query for one document. -/
def oneDocument : QueryRequest where
  predicate := ⟨"DataID", ["1"], by decide⟩

/-- The query is sent below the plain address. -/
theorem prepared_oneDocument :
    prepared plainConfig (sessionPath "s" "/queries") (queryBody oneDocument) =
      .ok "https://r/api/sessions/s/queries" := by
  decide +kernel

/-- Two documents, one of them by a number and without a permission. -/
def twoDocuments : Response :=
  .ofText ("\x7b\"rows\":[\x7b\"DataID\":7,\"PermID\":null\x7d," ++
    "\x7b\"DataID\":\"a\",\"PermID\":true\x7d]\x7d") "application/json"

/-- A number stands for its digits, and null for no permission. -/
theorem rows_of_two_documents :
    Answered plainConfig (serving twoDocuments) 0 oneDocument twoDocuments ∧
      oneDocument.columns = ["DataID", "PermID"] ∧
      (∃ items, twoDocuments.Itemizes plainConfig.codec items) ∧
      ((repository plainConfig).perform (.query 0 oneDocument) (serving twoDocuments)).outcome =
        .ok (.ok [⟨"7", none⟩, ⟨"a", some "True"⟩]) := by
  have hanswered := answered_serving (r := twoDocuments) prepared_oneDocument rfl
  have hitems : twoDocuments.Itemizes plainConfig.codec
      [.object [("DataID", .int 7), ("PermID", .null)],
        .object [("DataID", .str "a"), ("PermID", .bool true)]] := ⟨_, rfl, rfl⟩
  refine ⟨hanswered, rfl, ⟨_, hitems⟩, ?_⟩
  refine ((rows_of_items hanswered rfl hitems).rows_iff _).mpr ?_
  exact Rows.mapM_row?_eq_some_iff.mp rfl

/-- A codec that reads answers that say that they are UTF-16 as such. They have to say their octet
order too. -/
def orderingCodec : Codec :=
  { Codec.utf8 960 with
    text := fun r =>
      if r.contentType = "application/json; charset=utf-16" then
        match r.body with
        | 0xFF :: 0xFE :: _ | 0xFE :: 0xFF :: _ =>
          .ok (.ofPoints ((Charset.utf16 none).decodeLossy r.body))
        | _ => .error ⟨.decoding, "UTF-16 stream does not start with BOM"⟩
      else (Codec.utf8 960).text r }

/-- The server at a plain address, with that codec. -/
def orderingConfig : RemoteConfig := { plainConfig with codec := orderingCodec }

/-- An item without a document, in a text that does not say its octet order. -/
def unmarkedItem : Response :=
  .ofText "\x7b\"rows\":[\x7b\"DataID\":true\x7d]\x7d" "application/json; charset=utf-16"

/-- **An item without a document may raise**, since a failure keeps an excerpt of the text. -/
theorem unmarked_item_raises :
    Answered orderingConfig (serving unmarkedItem) 0 oneDocument unmarkedItem ∧
      unmarkedItem.Itemizes orderingCodec [.object [("DataID", .bool true)]] ∧
      ((repository orderingConfig).perform (.query 0 oneDocument)
        (serving unmarkedItem)).outcome =
          .error ⟨.decoding, "UTF-16 stream does not start with BOM"⟩ := by
  have hanswered : Answered orderingConfig (serving unmarkedItem) 0 oneDocument unmarkedItem :=
    answered_serving prepared_oneDocument rfl
  have hmalformed : unmarkedItem.rows? orderingCodec "DataID" ["PermID"] = .ok none := rfl
  have hdecides : Decides orderingConfig unmarkedItem
      (unmarkedItem.rows? orderingCodec "DataID" ["PermID"])
      ((repository orderingConfig).perform (.query 0 oneDocument) (serving unmarkedItem)).outcome :=
    decides_of_answered hanswered rfl
  rw [hmalformed] at hdecides
  exact ⟨hanswered, ⟨_, rfl, rfl⟩, hdecides.of_none.fault _ rfl⟩

/-! ## Answers that list no items -/

/-- What a query makes of an answer that lists no items. -/
structure ReadsNoItems (config : RemoteConfig) (r : Response) (outcome : QueryOutcome) : Prop where
  /-- It succeeds exactly if there is an empty object or an empty string in place of the list. -/
  succeeds_iff : (∃ rows, outcome = .ok (.ok rows)) ↔ r.Vacant config.codec
  /-- Then there are no rows. -/
  rows_eq : ∀ rows, outcome = .ok (.ok rows) → rows = []
  /-- A body that is nested too deeply raises. -/
  nested : ∀ f, r.json config.codec = .error f → f.kind = .recursion ∧ outcome = .error f
  /-- Any other answer is refused. -/
  rejected : (∀ f, r.json config.codec ≠ .error f) → ¬ r.Vacant config.codec →
    Rejected config r outcome

/-- **An answer that lists no items is refused**, unless it is nested too deeply or has one of the
two values that count as empty lists. -/
theorem rows_of_no_items (h : Answered config w number request r)
    (hcolumns : request.columns = column :: others)
    (hitems : ¬ ∃ items, r.Itemizes config.codec items) :
    ReadsNoItems config r ((repository config).perform (.query number request) w).outcome := by
  have hdecides := decides_of_answered h hcolumns
  have hvacant : ∀ rows, ((repository config).perform (.query number request) w).outcome =
      .ok (.ok rows) ↔ r.Vacant config.codec ∧ rows = [] := by
    intro rows
    rw [hdecides.rows_iff]
    constructor
    · intro hrows
      -- A body that is read is not nested too deeply; one without items or empty value is not read.
      by_cases hvacant : r.Vacant config.codec
      · rw [hvacant.rows?_eq] at hrows
        cases hrows
        exact ⟨hvacant, rfl⟩
      · have hread : ∀ f, r.json config.codec ≠ .error f := by
          intro f hf
          simp [Response.rows?, hf, Except.map] at hrows
        rw [Response.rows?_eq_none hread hitems hvacant] at hrows
        cases hrows
    · rintro ⟨hvacant, rfl⟩
      exact hvacant.rows?_eq
  refine ⟨?_, fun rows hrows => ((hvacant rows).mp hrows).2, ?_, ?_⟩
  · simp [hvacant]
  · intro f hf
    rw [Response.rows?, hf] at hdecides
    exact ⟨Response.kind_of_json_fault hf, hdecides.of_fault⟩
  · intro hread hvacant
    rw [Response.rows?_eq_none hread hitems hvacant] at hdecides
    exact hdecides.of_none

/-- A null in place of the list. -/
def nullRows : Response := .ofText "\x7b\"rows\":null\x7d" "application/json"

/-- A null is no empty list. -/
theorem null_rows_rejected :
    Answered plainConfig (serving nullRows) 0 oneDocument nullRows ∧
      oneDocument.columns = ["DataID", "PermID"] ∧
      (¬ ∃ items, nullRows.Itemizes plainConfig.codec items) ∧
      ∃ details, nullRows.details plainConfig.codec = .ok details ∧
        ((repository plainConfig).perform (.query 0 oneDocument) (serving nullRows)).outcome =
          .ok (.error (malformedAnswer plainConfig details)) := by
  have hanswered := answered_serving (r := nullRows) prepared_oneDocument rfl
  have hjson : nullRows.json plainConfig.codec =
      .ok (some (.object [("rows", .null)])) := rfl
  have hitems : ¬ ∃ items, nullRows.Itemizes plainConfig.codec items := by
    rintro ⟨items, members, hmembers, hrows⟩
    cases hjson.symm.trans hmembers
    cases hrows
  have hvacant : ¬ nullRows.Vacant plainConfig.codec := by
    rintro ⟨members, hmembers, hrows⟩
    cases hjson.symm.trans hmembers
    rcases hrows with hrows | hrows <;> cases hrows
  have hread : ∀ f, nullRows.json plainConfig.codec ≠ .error f := by
    intro f hf
    cases hjson.symm.trans hf
  refine ⟨hanswered, rfl, hitems, ?_⟩
  exact ((rows_of_no_items hanswered rfl hitems).rejected hread hvacant).failure _ rfl

/-- An empty object in place of the list. -/
def emptyObject : Response := .ofText "\x7b\"rows\":\x7b\x7d\x7d" "application/json"

/-- **An empty object is read as no rows.** -/
theorem empty_object_succeeds :
    Answered plainConfig (serving emptyObject) 0 oneDocument emptyObject ∧
      (¬ ∃ items, emptyObject.Itemizes plainConfig.codec items) ∧
      ((repository plainConfig).perform (.query 0 oneDocument) (serving emptyObject)).outcome =
        .ok (.ok []) := by
  have hanswered := answered_serving (r := emptyObject) prepared_oneDocument rfl
  have hjson : emptyObject.json plainConfig.codec =
      .ok (some (.object [("rows", .object [])])) := rfl
  have hvacant : emptyObject.Vacant plainConfig.codec := ⟨_, hjson, .inl rfl⟩
  refine ⟨hanswered, ?_, ?_⟩
  · rintro ⟨items, members, hmembers, hrows⟩
    cases hjson.symm.trans hmembers
    cases hrows
  · exact ((decides_of_answered hanswered rfl).rows_iff []).mpr hvacant.rows?_eq

end Remote
end DocAccess
