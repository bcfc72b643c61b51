import MadeToOrder.Proofs.Catalog.Naming
import MadeToOrder.Proofs.Catalog.Serving
import MadeToOrder.Proofs.Catalog.Shuffled

/-!
# Documents as tables

The rows of a document can stand in tables, one for each section and each collection of options.
The defaults of the lines then have a table of their own, whose rows carry the ids of their lines.
From a remote that keeps these tables comes the snapshot of the document.
-/

set_option autoImplicit false

namespace MadeToOrder

open Value (entry)
open Client.Task (gives_pure gives_ofExcept)

namespace Assembly

def SameEntries (record record' : Value) : Prop :=
  ∃ fs fs', record = .object fs ∧ record' = .object fs' ∧
    ∀ key, Keyed.get? fs key = Keyed.get? fs' key

variable {table : FieldTable}

theorem readLine_of_sameEntries {record record' : Value} (same : SameEntries record record') :
    readLine table record = readLine table record' := by
  obtain ⟨fs, fs', rfl, rfl, same⟩ := same
  simp only [readLine, nameOf, Value.fields, Value.field, Value.entry, Value.entryOr, same, bind,
    Except.bind]
  rfl

theorem readLines_of_sameEntries {records records' : List Value}
    (same : List.Forall₂ SameEntries records records') (lines : Keyed ProductLine) :
    readLines table lines records = readLines table lines records' := by
  induction same generalizing lines with
  | nil => rfl
  | cons first _ ih => simp only [readLines, readLine_of_sameEntries first, ih]

end Assembly

namespace Remote

/-- A row for a default of a line. It carries the id of the line. -/
inductive Attaches (line : Value) : Value → Value → Prop
  | row {fs : List (String × Value)} {collection item : Value}
    (owned : (entry fs "product_lines_id").plain = line.plain)
    (named : Keyed.get? fs "collection" = some collection)
    (listed : Keyed.get? fs "item" = some item) :
    Attaches line (CatalogFile.defaultRow collection item) (.object fs)

variable {line : Value} {defaults rows behind : List Value}

theorem attachedTo_own (own : List.Forall₂ (Attaches line) defaults rows) {others : List Value}
    (later : attachedTo line.plain behind = .ok others) :
    attachedTo line.plain (rows ++ behind) = .ok (defaults ++ others) := by
  induction own with
  | nil => exact later
  | cons first _ ih =>
    obtain ⟨owned, named, listed⟩ := first
    simp only [List.cons_append, attachedTo, Value.fields, Value.field, named, listed, ih]
    exact if_pos owned

theorem attachedTo_foreign (own : List.Forall₂ (Attaches line) defaults rows) {other : String}
    (apart : line.plain ≠ other) : attachedTo other (rows ++ behind) = attachedTo other behind := by
  induction own with
  | nil => rfl
  | cons first _ ih =>
    obtain ⟨owned, _, _⟩ := first
    rw [List.cons_append, attachedTo, ih]
    exact if_neg (owned ▸ apart)

def attach (rows : List Value) (record : Value) : Except Fault Value := do
  let fs ← record.spread
  let id ← record.field "id"
  let defaults ← attachedTo id.plain rows
  return .object (Keyed.put fs "default_options" (.list defaults))

theorem attach_of_attached {fs : List (String × Value)} (named : Keyed.get? fs "id" = some line)
    (attached : attachedTo line.plain rows = .ok defaults) : attach rows (.object fs) =
      .ok (.object (Keyed.put fs "default_options" (.list defaults))) := by
  apply bind_eq_ok.mpr
  refine ⟨fs, rfl, bind_eq_ok.mpr ⟨line, Value.field_eq_ok.mpr ⟨fs, rfl, named⟩, ?_⟩⟩
  exact bind_eq_ok.mpr ⟨defaults, attached, rfl⟩

end Remote

namespace CatalogFile

inductive Split : List Value → List Value → List Value → Prop
  | nil : Split [] [] []
  | cons {fs : List (String × Value)} {id : Value} {defaults rows : List Value}
    {records bare others : List Value} (named : Keyed.get? fs "id" = some id)
    (listed : defaultRows (entry fs "default_options") = .ok defaults)
    (moved : List.Forall₂ (Remote.Attaches id) defaults rows) (rest : Split records bare others) :
    Split (.object fs :: records) (.object (Keyed.erase fs "default_options") :: bare)
      (rows ++ others)

variable {records bare attached : List Value}

/-- The rows of other lines attach nothing to a line. -/
theorem Split.attachedTo_foreign (split : Split records bare attached) {line : String}
    (apart : ∀ record ∈ records, ∀ id, record.field "id" = .ok id → id.plain ≠ line) :
    Remote.attachedTo line attached = .ok [] := by
  induction split with
  | nil => rfl
  | cons named _ moved _ ih =>
    obtain ⟨here, apart⟩ := List.forall_mem_cons.mp apart
    rw [Remote.attachedTo_foreign moved (here _ (Value.field_eq_ok.mpr ⟨_, rfl, named⟩))]
    exact ih apart

/-- Each line gets its own defaults back. -/
theorem Split.exists_attached (split : Split records bare attached)
    (distinct : DistinctIds records) (before : List Value)
    (foreign : ∀ record ∈ records, ∀ id, record.field "id" = .ok id → ∀ behind,
      Remote.attachedTo id.plain (before ++ behind) = Remote.attachedTo id.plain behind) :
    ∃ given own, bare.mapM (Remote.attach (before ++ attached)) = .ok given ∧
      records.mapM lineRecord = .ok own ∧ List.Forall₂ Assembly.SameEntries given own := by
  -- `before` holds the rows of the lines that were met already.
  induction split generalizing before with
  | nil => exact ⟨[], [], rfl, rfl, .nil⟩
  | @cons fs id defaults rows records bare others named listed moved rest ih =>
    obtain ⟨here, distinct⟩ := List.pairwise_cons.mp distinct
    obtain ⟨passed, foreign⟩ := List.forall_mem_cons.mp foreign
    have field : (Value.object fs).field "id" = .ok id := Value.field_eq_ok.mpr ⟨fs, rfl, named⟩
    have apart : ∀ record ∈ records, ∀ other, record.field "id" = .ok other →
        id.plain ≠ other.plain := fun record listed other => here record listed id other field
    obtain ⟨given, own, attached, recorded, same⟩ := ih distinct (before ++ rows) (by
      intro record listed other found behind
      rw [List.append_assoc, foreign record listed other found]
      exact Remote.attachedTo_foreign moved (apart record listed other found))
    rw [List.append_assoc] at attached
    have back : Remote.attachedTo id.plain (before ++ (rows ++ others)) = .ok defaults := by
      rw [passed id field, Remote.attachedTo_own moved (rest.attachedTo_foreign
        fun record listed other found => (apart record listed other found).symm), List.append_nil]
    have bareId : Keyed.get? (Keyed.erase fs "default_options") "id" = some id :=
      (Keyed.get?_erase_of_ne fs (by decide)).trans named
    have written : lineRecord (.object fs) =
        .ok (.object (Keyed.put fs "default_options" (.list defaults))) :=
      bind_eq_ok.mpr ⟨fs, rfl, bind_eq_ok.mpr ⟨defaults, listed, rfl⟩⟩
    refine ⟨_, _, mapM_cons_eq_ok (Remote.attach_of_attached bareId back) attached,
      mapM_cons_eq_ok written recorded, .cons ⟨_, _, rfl, rfl, fun key => ?_⟩ same⟩
    by_cases own : key = "default_options"
    · rw [own, Keyed.get?_put_self, Keyed.get?_put_self]
    · rw [Keyed.get?_put_of_ne _ _ own, Keyed.get?_put_of_ne _ _ own,
        Keyed.get?_erase_of_ne _ own]

end CatalogFile

namespace Remote

variable {r : Remote} {records given rows : List Value} {client : Client}

section

variable (kept : r.Keeps "product_lines_default_options" rows) (positive : 1 ≤ r.pageSize)
  (tried : 0 ≤ r.maxRetries)

include kept positive tried

/-- The rows that attach defaults are those that are kept now, unless a client remembers others. -/
theorem exists_on_attachments
    (fresh : client.attachments = none ∨ client.attachments = some rows) :
    ∃ after, r.attachments.on client = (.ok rows, after) ∧ after.attachments = some rows := by
  rcases fresh with unknown | known
  · obtain ⟨requests, items⟩ := kept.exists_on_items positive tried (.sorted ["id"]) client
    refine ⟨{ client.after requests with attachments := some rows }, ?_, rfl⟩
    have asked : (get : Client.Task Client).on client = (.ok client, client) := rfl
    rw [attachments, Client.Task.on_bind_ok asked, unknown]
    dsimp only
    rw [Client.Task.on_bind_ok items]
    rfl
  · refine ⟨client, ?_, known⟩
    have asked : (get : Client.Task Client).on client = (.ok client, client) := rfl
    rw [attachments, Client.Task.on_bind_ok asked, known]
    rfl

theorem exists_on_withDefaults (attached : records.mapM (attach rows) = .ok given)
    (client : Client)
    (fresh : client.attachments = none ∨ client.attachments = some rows) :
    ∃ after, (r.withDefaults records).on client = (.ok given, after) := by
  have all := mapM_eq_ok_iff.mp attached
  clear attached
  induction all generalizing client with
  | nil => exact ⟨client, rfl⟩
  | @cons record given records others first rest ih =>
    obtain ⟨fs, shape, first⟩ := bind_eq_ok.mp first
    obtain ⟨id, named, first⟩ := bind_eq_ok.mp first
    obtain ⟨defaults, found, first⟩ := bind_eq_ok.mp first
    obtain rfl := Except.ok.inj first
    obtain ⟨between, rowsAsked, remembered⟩ := exists_on_attachments kept positive tried fresh
    obtain ⟨after, later⟩ := ih between (Or.inr remembered)
    have defaultsAsked : (r.defaultsOf id).on client = (.ok defaults, between) := by
      rw [defaultsOf, Client.Task.on_bind_ok rowsAsked, Client.Task.on_ofExcept, found]
    refine ⟨after, ?_⟩
    rw [withDefaults, shape, named, Client.Task.on_bind_ok (Client.Task.on_ofExcept _),
      Client.Task.on_bind_ok (Client.Task.on_ofExcept _), Client.Task.on_bind_ok defaultsAsked,
      Client.Task.on_bind_ok later]
    rfl

/-- Rows that were fetched for an earlier listing are not used again. -/
theorem gives_lines (keptLines : r.Keeps "product_lines" records)
    (attached : records.mapM (attach rows) = .ok given) : r.lines.Gives given := by
  intro client
  let forgotten : Client := { client with attachments := none }
  have cleared : (modify (fun client => { client with attachments := none }) :
      Client.Task PUnit).on client = (.ok ⟨⟩, forgotten) := rfl
  obtain ⟨requests, items⟩ := keptLines.exists_on_items positive tried .active forgotten
  obtain ⟨after, listed⟩ := exists_on_withDefaults kept positive tried attached
    (forgotten.after requests) (Or.inl rfl)
  refine ⟨after, ?_⟩
  rw [lines, Client.Task.on_bind_ok cleared, Client.Task.on_bind_ok items, listed]

end

end Remote

section

variable {source : Source Client.Task} {own : Source (Except Fault)} {table : FieldTable}

theorem gives_fetchOptions {specs : List FieldSpec} {collections : Keyed (Keyed CatalogOption)}
    (options : ∀ spec ∈ specs, spec.isLine = false → ∀ rows,
      own.options spec.collection = .ok rows → (source.options spec.collection).Gives rows)
    (fetched : Assembly.fetchOptions own specs = .ok collections) :
    Client.Task.Gives (Assembly.fetchOptions source specs) collections := by
  induction specs generalizing collections with
  | nil =>
    obtain rfl := Except.ok.inj fetched
    exact gives_pure _
  | cons spec rest ih =>
    obtain ⟨here, options⟩ := List.forall_mem_cons.mp options
    unfold Assembly.fetchOptions at fetched ⊢
    by_cases line : spec.isLine = true
    · rw [if_pos line] at fetched ⊢
      exact ih options fetched
    · rw [if_neg line] at fetched ⊢
      obtain ⟨records, delivered, fetched⟩ := bind_eq_ok.mp fetched
      obtain ⟨read, readsTo, fetched⟩ := bind_eq_ok.mp fetched
      obtain ⟨others, later, fetched⟩ := bind_eq_ok.mp fetched
      obtain rfl := Except.ok.inj fetched
      rw [Answering.ofExcept_eq] at readsTo
      apply (here (by simpa using line) records delivered).bind
      apply (gives_ofExcept readsTo).bind
      exact (ih options later).bind (gives_pure _)

/-- A client is given the snapshot of another source if it is given the rows of that source, and
line records that are read as the same lines. -/
theorem gives_snapshot {s : Snapshot} (parts : Answering.direct.Assembled own table s)
    (lines : ∃ records, source.lines.Gives records ∧
      Assembly.readLines table [] records = .ok s.lines)
    (options : ∀ spec ∈ table.specs, spec.isLine = false → ∀ rows,
      own.options spec.collection = .ok rows → (source.options spec.collection).Gives rows)
    (products : ∀ rows, own.products = .ok rows → source.products.Gives rows)
    (overrides : ∀ rows, own.overrides = .ok rows → source.overrides.Gives rows)
    (rules : ∀ rows, own.rules = .ok rows → source.rules.Gives rows)
    (codeFields : ∀ rows, own.codeFields = .ok rows → source.codeFields.Gives rows)
    (asOf : String) : (source.snapshot table asOf).Gives { s with asOf := asOf } := by
  obtain ⟨lineRecords, linesGiven, linesRead⟩ := lines
  obtain ⟨collections, fetched, filed⟩ := parts.options
  obtain ⟨productRecords, delivered, productsRead⟩ := parts.products
  have productsGiven := products productRecords delivered
  obtain ⟨overrideRecords, delivered, overridesRead⟩ := parts.overrides
  have overridesGiven := overrides overrideRecords delivered
  obtain ⟨ruleRecords, delivered, rulesRead⟩ := parts.rules
  have rulesGiven := rules ruleRecords delivered
  obtain ⟨fieldRecords, delivered, fieldsRead⟩ := parts.codeFields
  have fieldsGiven := codeFields fieldRecords delivered
  rw [filed, parts.table_eq]
  apply linesGiven.bind
  apply (gives_ofExcept linesRead).bind
  apply (gives_fetchOptions options fetched).bind
  apply productsGiven.bind
  apply (gives_ofExcept productsRead).bind
  apply overridesGiven.bind
  apply (gives_ofExcept overridesRead).bind
  apply rulesGiven.bind
  apply (gives_ofExcept rulesRead).bind
  apply fieldsGiven.bind
  apply (gives_ofExcept fieldsRead).bind
  exact gives_pure _

end

def FieldTable.asked (table : FieldTable) : List String :=
  ["product_lines", "product_lines_default_options", "products", "products_options_overrides",
    "rules", "sku_code_order"] ++
    (table.specs.filter (fun spec => !spec.isLine)).map FieldSpec.collection

/-- Tables with the rows of a document, in which no two lines have the same id. -/
structure CatalogFile.Tabled (file : CatalogFile) (table : FieldTable)
    (tables : String → List Value) : Prop where
  lines : ∃ records, file.rows "product_lines" = .ok records ∧ DistinctIds records ∧
    Split records (tables "product_lines") (tables "product_lines_default_options")
  options : ∀ spec ∈ table.specs, spec.isLine = false →
    file.options spec.collection = .ok (tables spec.collection)
  products : file.products = .ok (tables "products")
  overrides : file.overrides = .ok (tables "products_options_overrides")
  rules : file.rules = .ok (tables "rules")
  codeFields : file.codeFields = .ok (tables "sku_code_order")

namespace Remote

variable {r : Remote} {table : FieldTable} {file file' : CatalogFile}
  {tables tables' : String → List Value} {s s' : Snapshot}

theorem gives_snapshot_of_document (positive : 1 ≤ r.pageSize) (tried : 0 ≤ r.maxRetries)
    (tabled : file.Tabled table tables)
    (kept : ∀ collection ∈ table.asked, r.Keeps collection (tables collection)) {asOf : String}
    (built : file.snapshot table asOf = .ok s) (stamp : String) :
    (r.snapshot table stamp).Gives { s with asOf := stamp } := by
  have parts := Answering.direct.assembled built
  have items : ∀ collection ∈ table.asked, ∀ (held : Except Fault (List Value)) (q : Query),
      held = .ok (tables collection) → ∀ rows, held = .ok rows →
        (r.items collection q).Gives rows := by
    rintro collection asked _ q holds rows rfl
    rw [Except.ok.inj holds]
    exact (kept collection asked).gives_items positive tried q
  apply gives_snapshot parts
  case lines =>
    obtain ⟨records, listed, distinct, split⟩ := tabled.lines
    obtain ⟨given, own, attached, recorded, same⟩ :=
      split.exists_attached distinct [] (fun _ _ _ _ _ => rfl)
    obtain ⟨delivered, lines, read⟩ := parts.lines
    have all : file.lines = .ok own := bind_eq_ok.mpr ⟨records, listed, recorded⟩
    obtain rfl := Except.ok.inj (Eq.trans (Eq.symm all) lines)
    rw [← Assembly.readLines_of_sameEntries same] at read
    have keptLines := kept "product_lines" (by simp [FieldTable.asked])
    have keptRows := kept "product_lines_default_options" (by simp [FieldTable.asked])
    exact ⟨given, gives_lines keptRows positive tried keptLines attached, read⟩
  case options =>
    intro spec listed other
    apply items spec.collection _ _ _ (tabled.options spec listed other)
    apply List.mem_append_right
    exact List.mem_map_of_mem (List.mem_filter.mpr ⟨listed, by simp [other]⟩)
  case products => exact items "products" (by simp [FieldTable.asked]) _ _ tabled.products
  case overrides =>
    exact items "products_options_overrides" (by simp [FieldTable.asked]) _ _ tabled.overrides
  case rules => exact items "rules" (by simp [FieldTable.asked]) _ _ tabled.rules
  case codeFields =>
    exact items "sku_code_order" (by simp [FieldTable.asked]) _ _ tabled.codeFields

/-- A client of a remote that keeps the tables of a document builds the snapshot of the document,
and after the tables became those of another document it builds the snapshot of that one. The time
of a snapshot is its own. -/
theorem snapshots_follow_documents (positive : 1 ≤ r.pageSize) (tried : 0 ≤ r.maxRetries)
    (tabled : file.Tabled table tables)
    (kept : ∀ collection ∈ table.asked, r.Keeps collection (tables collection))
    {asOf asOf' : String} (built : file.snapshot table asOf = .ok s)
    {later : Nat → Request → Reply}
    (tabled' : file'.Tabled table tables')
    (kept' : ∀ collection ∈ table.asked,
      Keeps { r with network := later } collection (tables' collection))
    (built' : file'.snapshot table asOf' = .ok s') (stamp stamp' : String) (client : Client) :
    ∃ between last,
      (r.snapshot table stamp).on client = (.ok { s with asOf := stamp }, between) ∧
      (snapshot { r with network := later } table stamp').on between =
        (.ok { s' with asOf := stamp' }, last) := by
  obtain ⟨between, first⟩ :=
    gives_snapshot_of_document positive tried tabled kept built stamp client
  obtain ⟨last, second⟩ := gives_snapshot_of_document (r := { r with network := later }) positive
    tried tabled' kept' built' stamp' between
  exact ⟨between, last, first, second⟩

def numberIn (request : Request) (name : String) : Option Nat :=
  (Keyed.get? request.params name).map (fun text => Nat.ofDigitChars 10 text.toList 0)

def pageReply (tables : String → List Value) (request : Request) : Reply :=
  match numberIn request "limit", numberIn request "page" with
  | some limit, some page =>
    let rows := tables (String.ofList (request.path.toList.drop "/items/".length))
    sheet ((rows.drop (limit * (page - 1))).take limit)
  | _, _ => .answer 400 (.error .malformed)

def desk (retries : Int) (tables : String → List Value) : Remote where
  baseUrl := "https://catalog.example.com"
  token := none
  pageSize := 2
  maxRetries := retries
  network _ := pageReply tables
  patience := 3

theorem pageReply_request {url : Url} {name : String} (place : url.location = "/items/" ++ name)
    (retries : Int) (q : Query) (k : Nat) :
    pageReply tables ((desk retries tables).request url q (k + 1)) =
      sheet (((tables name).drop (2 * k)).take 2) := by
  have limit : numberIn ((desk retries tables).request url q (k + 1)) "limit" = some 2 :=
    congrArg some (show Nat.ofDigitChars 10 (toString (2 : Nat)).toList 0 = 2 by simp)
  have page : numberIn ((desk retries tables).request url q (k + 1)) "page" = some (k + 1) :=
    congrArg some (by simp)
  have path : ((desk retries tables).request url q (k + 1)).path = "/items/" ++ name := place
  have rest : ("/items/" ++ name).toList.drop "/items/".length = name.toList := by
    rw [String.toList_append]
    exact List.drop_left' String.length_toList
  rw [pageReply, limit, page, path, rest, String.ofList_toList]
  rfl

theorem keeps_desk {retries : Int} {collection name : String} {own : Url} {query : Option String}
    (plain : IsPlain name) (found : collectionUrl collection = .ok own)
    (place : own.below bareUrl = itemsUrl name query) (few : (tables name).length < 6) :
    (desk retries tables).Keeps collection (tables name) where
  pages := by
    refine ⟨itemsUrl name query, ⟨⟨bareUrl, own, connection_of_bare rfl rfl, found, place⟩, rfl⟩,
      fun n q k => ?_⟩
    have reply : (desk retries tables).network n ((desk retries tables).request
        (itemsUrl name query) q (k + 1)) = _ :=
      pageReply_request (location_itemsUrl plain query) retries q k
    rw [reply]
    exact delivers_sheet _
  patient := Nat.div_lt_of_lt_mul few

def sizes : List Value :=
  [.object [("id", .text "small"), ("sku_code", .text "S")],
    .object [("id", .text "large"), ("sku_code", .text "L")]]

def oneProduct : List Value := [.object [("id", .int 1), ("product_line", .text "deco")]]

def sized (name item : String) : CatalogFile :=
  .document (.object [
    ("product_lines", .list [
      .object [("id", .text "deco"), ("default_options", .object [(name, .list [.text item])])],
      .object [("id", .int 2), ("default_options",
        .list [.object [("collection", .text name), ("item", .text "small")]])]]),
    ("options", .object [(name, .list sizes)]), ("products", .list oneProduct)])

def sizedShelves (name item : String) : Keyed (List Value) := [
  ("product_lines", [.object [("id", .text "deco")], .object [("id", .int 2)]]),
  ("product_lines_default_options", [
    .object [("product_lines_id", .text "deco"), ("collection", .text name),
      ("item", .text item)],
    .object [("product_lines_id", .int 2), ("collection", .text name), ("item", .text "small")]]),
  ("products", oneProduct), ("products_options_overrides", []), ("rules", []),
  ("sku_code_order", []), (name, sizes)]

def sizedTables (name item collection : String) : List Value :=
  (Keyed.get? (sizedShelves name item) collection).getD []

theorem few_sizedTables (name item collection : String) :
    (sizedTables name item collection).length < 6 := by
  have all : ∀ e ∈ sizedShelves name item, e.2.length < 6 := by
    simp [sizedShelves, sizes, oneProduct]
  unfold sizedTables
  cases found : Keyed.get? (sizedShelves name item) collection with
  | none => decide
  | some rows => exact all _ (Keyed.mem_of_get? found)

def sizedTable (name : String) (other : name ≠ lineCollection) : FieldTable where
  specs := [⟨lineCollection, "product_line", "product_line", "Line", true, false, false⟩,
    ⟨name, "size", "size", "Size", false, false, false⟩]
  collections_nodup := by simpa using other.symm
  fields_nodup := by simp
  contextKeys_nodup := by simp

def sizesTable : FieldTable := sizedTable "sizes" (by decide)

theorem tabled_sized {name item : String} (other : name ≠ lineCollection)
    (own : sizedTables name item name = sizes) :
    (sized name item).Tabled (sizedTable name other) (sizedTables name item) where
  lines := by
    refine ⟨_, rfl, List.pairwise_pair.mpr ?_, ?_⟩
    · rintro i j ⟨⟩ ⟨⟩
      decide
    · exact .cons rfl rfl (.cons (.row rfl rfl rfl) .nil)
        (.cons rfl rfl (.cons (.row rfl rfl rfl) .nil) .nil)
  options := by
    intro spec listed notLine
    rcases List.mem_cons.mp listed with rfl | listed
    · cases notLine
    · obtain rfl := List.mem_singleton.mp listed
      have found : Value.entryOr [(name, .list sizes)] name (.list []) = .list sizes := by
        simp [Value.entryOr, Keyed.get?]
      show (Value.entryOr [(name, .list sizes)] name (.list [])).iterate = _
      rw [found, own]
      rfl
  products := rfl
  overrides := rfl
  rules := rfl
  codeFields := rfl

theorem keeps_sized (retries : Int) (item : String) :
    ∀ collection ∈ sizesTable.asked,
      (desk retries (sizedTables "sizes" item)).Keeps collection
        (sizedTables "sizes" item collection) := by
  have plain : ∀ collection ∈ sizesTable.asked, IsPlain collection := by decide +kernel
  intro collection asked
  exact keeps_desk (plain collection asked) (collectionUrl_of_plain (plain collection asked))
    (below_bareUrl (plain collection asked)) (few_sizedTables _ _ _)

/-- The default of a line is changed between two snapshots. -/
theorem changed_default_is_delivered :
    ∃ s s' : Snapshot,
      (sized "sizes" "small").snapshot sizesTable "" = .ok s ∧
      (sized "sizes" "large").snapshot sizesTable "" = .ok s' ∧
      (Keyed.get? s.lines "deco").map ProductLine.defaults = some [("sizes", "small")] ∧
      (Keyed.get? s'.lines "deco").map ProductLine.defaults = some [("sizes", "large")] ∧
      ∃ between last,
        ((desk 1 (sizedTables "sizes" "small")).snapshot sizesTable "monday").on Client.fresh =
          (.ok { s with asOf := "monday" }, between) ∧
        ((desk 1 (sizedTables "sizes" "large")).snapshot sizesTable "tuesday").on between =
          (.ok { s' with asOf := "tuesday" }, last) := by
  have built : ∃ s, (sized "sizes" "small").snapshot sizesTable "" = .ok s ∧
      (Keyed.get? s.lines "deco").map ProductLine.defaults = some [("sizes", "small")] :=
    ⟨_, rfl, rfl⟩
  have rebuilt : ∃ s, (sized "sizes" "large").snapshot sizesTable "" = .ok s ∧
      (Keyed.get? s.lines "deco").map ProductLine.defaults = some [("sizes", "large")] :=
    ⟨_, rfl, rfl⟩
  obtain ⟨s, built, default⟩ := built
  obtain ⟨s', rebuilt, changed⟩ := rebuilt
  exact ⟨s, s', built, rebuilt, default, changed,
    snapshots_follow_documents (r := desk 1 (sizedTables "sizes" "small")) (by decide) (by decide)
      (tabled_sized (by decide) rfl) (keeps_sized 1 "small") built (tabled_sized (by decide) rfl)
      (keeps_sized 1 "large") rebuilt _ _ _⟩

def oddTable : FieldTable := sizedTable "a?b" (by decide)

/-- A name is not escaped in an address, so a question mark ends it, and the rows of another table
come back. Without an attempt none come at all. -/
theorem question_mark_ends_the_name :
    (∃ s, (sized "a?b" "small").snapshot oddTable "" = .ok s ∧
      (sized "a?b" "small").Tabled oddTable (sizedTables "a?b" "small") ∧
      ∀ after, ((desk 1 (sizedTables "a?b" "small")).snapshot oddTable "").on Client.fresh ≠
        (.ok s, after)) ∧
    ∃ s, (sized "sizes" "small").snapshot sizesTable "" = .ok s ∧
      (sized "sizes" "small").Tabled sizesTable (sizedTables "sizes" "small") ∧
      (∀ collection ∈ sizesTable.asked, (desk (-1) (sizedTables "sizes" "small")).Keeps collection
        (sizedTables "sizes" "small" collection)) ∧
      ∀ after, ((desk (-1) (sizedTables "sizes" "small")).snapshot sizesTable "").on
        Client.fresh ≠ (.ok s, after) := by
  constructor
  · have built : ∃ s, (sized "a?b" "small").snapshot oddTable "" = .ok s ∧
        ∃ options, ("a?b", options) ∈ s.options ∧ options ≠ [] :=
      ⟨_, rfl, _, List.mem_cons_self, List.cons_ne_nil _ _⟩
    obtain ⟨s, built, options, filed, filled⟩ := built
    refine ⟨s, built, tabled_sized (by decide) rfl, fun after delivered => ?_⟩
    have found : Url.parse? ("/items/" ++ "a?b") =
        some { Url.ofPath "/items/a" with query := some "b" } := by decide +kernel
    have address : collectionUrl "a?b" =
        .ok { Url.ofPath "/items/a" with query := some "b" } := by rw [collectionUrl, found]
    have place : Url.below { Url.ofPath "/items/a" with query := some "b" } bareUrl =
        itemsUrl "a" (some "b") := by decide +kernel
    have elsewhere : (desk 1 (sizedTables "a?b" "small")).Keeps "a?b"
        (sizedTables "a?b" "small" "a") := keeps_desk (by decide) address place (by decide)
    have parts := Answering.task.assembled ⟨_, _, delivered⟩
    rcases parts.mem_options _ filed with ⟨records, answered, read⟩ | ⟨same, _⟩
    · obtain rfl : records = [] :=
        (elsewhere.gives_items (by decide) (by decide) _).eq_of_answers answered
      exact filled (Except.ok.inj read).symm
    · exact absurd (show "a?b" = lineCollection from same) (by decide)
  · obtain ⟨s, built⟩ : ∃ s, (sized "sizes" "small").snapshot sizesTable "" = .ok s := ⟨_, rfl⟩
    refine ⟨s, built, tabled_sized (by decide) rfl, keeps_sized _ _, fun after delivered => ?_⟩
    have parts := Answering.task.assembled ⟨_, _, delivered⟩
    obtain ⟨rows, answered, _⟩ := parts.rules
    exact absurd (located_of_answers_items answered).2 (by decide)

end Remote

end MadeToOrder
