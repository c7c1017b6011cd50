import AccessNotices.Proofs.Caller.Canonical
import AccessNotices.Proofs.Lookup.Cases
import AccessNotices.Proofs.Record.Assembly
import AccessNotices.Proofs.Store.Matches
/-!
Who sees which requests.

With the built-in statements a caller sees a request exactly when it is the caller's own on the
caller's side, when its resource is on the caller's server, and when the other party has an account
(`Visible`). What the record of such a request carries is given by `Shows`. Main statement:
`access_of_builtIn`, for every store with the three tables.
-/

namespace AccessNotices

open Text

/-! ### Sides -/

namespace Perspective

/-- The column of a request that names the party of a side. -/
def idColumn : Perspective → String
  | consumer => "user_id"
  | provider => "owner_id"

/-- Neither side is told by the identifier of the request. -/
theorem idColumn_ne (p : Perspective) : p.idColumn ≠ Table.idColumn := by
  cases p <;> decide

/-- The built-in statement of a side finds requests by the side's own column and joins the other
party. -/
theorem builtIn_selector (p : Perspective) :
    Select.builtIn p.selector =
      .lookup ⟨.request, p.idColumn⟩ ⟨.request, p.opposite.idColumn⟩
        (Select.partyOutputs p.columns.firstName p.columns.lastName p.columns.email) := by
  cases p <;> rfl

/-- The columns of the rows that a side gets. -/
def outputs (p : Perspective) : List (Column × String) :=
  (Select.builtIn p.selector).outputs.flatten

/-- No two columns of a row have one name. -/
theorem outputs_distinct (p : Perspective) : (p.outputs.map Prod.snd).Nodup := by
  cases p <;> decide

end Perspective

/-- The side on which a caller stands. -/
def Caller.side (caller : Caller) : Perspective :=
  Perspective.classify caller.role

/-! ### Rows of matches -/

namespace Match

/-- The row that a side gets for a match. -/
def row (p : Perspective) (m : Match) : Row :=
  Store.project (Select.builtIn p.selector) m.combination

theorem entries_row (p : Perspective) (m : Match) :
    (m.row p).entries =
      p.outputs.map fun (column, name) => (name, m.combination.column column) := by
  refine OrderedMap.entries_ofList ?_
  rw [List.map_map]
  exact p.outputs_distinct

theorem keys_row (p : Perspective) (m : Match) : (m.row p).keys = p.outputs.map Prod.snd := by
  rw [OrderedMap.keys, entries_row, List.map_map]
  rfl

theorem get?_row {p : Perspective} {column : Column} {name : String}
    (output : (column, name) ∈ p.outputs) (m : Match) :
    (m.row p).get? name = some (m.combination.column column) := by
  rw [← OrderedMap.mem_entries_iff, entries_row]
  exact List.mem_map.mpr ⟨(column, name), output, rfl⟩

/-- A row carries what the match holds in the column behind the name. -/
theorem column_row {p : Perspective} {column : Column} {name : String}
    (output : (column, name) ∈ p.outputs) (m : Match) :
    (m.row p).column name = m.combination.column column := by
  rw [Row.column, get?_row output]
  rfl

/-- What a match holds of the account. -/
theorem column_account (m : Match) {name : String} (noId : name ≠ Table.idColumn) :
    m.combination.column ⟨.account, name⟩ = m.account.2.held name :=
  Binding.column_of_ne ⟨.account, m.account.1, m.account.2⟩ noId

/-- What a match holds of the request. -/
theorem column_request (m : Match) {name : String} (noId : name ≠ Table.idColumn) :
    m.combination.column ⟨.request, name⟩ = m.request.2.held name :=
  Binding.column_of_ne ⟨.request, m.request.1, m.request.2⟩ noId

/-- The object of the other party of a row: the account, with the identifier by which the request
names it. -/
theorem counterpartObject_row {p : Perspective} {m : Match}
    (names : m.request.2.text? p.opposite.idColumn = some m.account.1)
    (texts : ∀ name ∈ nameColumns, m.account.2.HoldsText name) :
    (m.row p).counterpartObject p =
      .ok (Party.objectOfTexts (m.account.2.text? "email_id") (m.account.2.text? "first_name")
        (m.account.2.text? "last_name") (some m.account.1)) := by
  have firstName : (⟨.account, "first_name"⟩, p.columns.firstName) ∈ p.outputs := by
    cases p <;> decide
  have lastName : (⟨.account, "last_name"⟩, p.columns.lastName) ∈ p.outputs := by
    cases p <;> decide
  have email : (⟨.account, "email_id"⟩, p.columns.email) ∈ p.outputs := by
    cases p <;> decide
  have id : (⟨.request, p.opposite.idColumn⟩, p.columns.id) ∈ p.outputs := by
    cases p <;> decide
  rw [Row.counterpartObject_eq_ok_iff, column_row firstName, column_row lastName, column_row email,
    column_row id, column_account m (by decide), column_account m (by decide),
    column_account m (by decide), column_request m p.opposite.idColumn_ne,
    Cells.text?_eq_some_iff.mp names, texts "first_name" (by decide),
    texts "last_name" (by decide), texts "email_id" (by decide)]
  exact ⟨some m.account.1, rfl, Party.toJson_of_texts _ _ _ _⟩

end Match

/-! ### Visible requests and their records -/

/-- A caller sees a request that is stored, if the caller is its party on the caller's side, its
resource is on the caller's server, and the party on the other side has an account. -/
structure Visible (tables : Tables) (caller : Caller) (request : String × Cells) : Prop where
  stored : request ∈ tables.requests.entries
  own : request.2.text? caller.side.idColumn = some (String.ofList (lower caller.id.text.toList))
  resource : ∃ item entity, request.2.text? "item_id" = some item ∧
    tables.resources.get? item = some entity ∧
    entity.text? "resource_server_url" = some caller.resourceServerUrl
  counterpart : ∃ party account, request.2.text? caller.side.opposite.idColumn = some party ∧
    tables.accounts.get? party = some account

/-- The columns of a request that its record carries, with their names there. -/
def recordColumns : List (String × String) :=
  [("item_id", "itemId"), ("status", "status"), ("expiry_at", "expiryAt"),
   ("constraints", "constraints"), ("additional_info", "additionalInfo"),
   ("created_at", "createdAt"), ("updated_at", "updatedAt")]

/-- The columns of a record. -/
def recordKeys (p : Perspective) : List String :=
  ["requestId", "itemId", "itemType", "status", "expiryAt", "constraints", "additionalInfo",
   "createdAt", "updatedAt", "resourceServerURL", p.text, p.opposite.text]

/-- What the record of a request shows to a caller: the columns of the request, the kind of its
resource, the server, the caller on the caller's side, and on the other side the account that is
stored for the other party. -/
structure Shows (tables : Tables) (caller : Caller) (request : String × Cells) (record : Row) :
    Prop where
  keys_eq : record.keys = recordKeys caller.side
  requestId_eq : record.get? "requestId" = some (.text request.1)
  columns_eq : ∀ c ∈ recordColumns, record.get? c.2 = some (request.2.held c.1)
  itemType_eq : ∃ item entity, request.2.text? "item_id" = some item ∧
    tables.resources.get? item = some entity ∧
    record.get? "itemType" = some (entity.held "item_type")
  server_eq : record.get? "resourceServerURL" = some (.text caller.resourceServerUrl)
  own_eq : record.get? caller.side.text =
    some (Party.identity caller.email caller.firstName caller.lastName caller.id.text)
  counterpart_eq : ∃ party account, request.2.text? caller.side.opposite.idColumn = some party ∧
    tables.accounts.get? party = some account ∧
    record.get? caller.side.opposite.text =
      some (Party.identity (account.text? "email_id") (account.text? "first_name")
        (account.text? "last_name") party)

namespace Match

def record (caller : Caller) (m : Match) : Row :=
  (m.row caller.side).recordOf caller.side (.text caller.resourceServerUrl)
    (Party.identity caller.email caller.firstName caller.lastName caller.id.text)
    (Party.identity (m.account.2.text? "email_id") (m.account.2.text? "first_name")
      (m.account.2.text? "last_name") m.account.1)

variable {caller : Caller} {m : Match}

/-- The row of a match can always be assembled. -/
theorem assemble_row (names : m.request.2.text? caller.side.opposite.idColumn = some m.account.1)
    (texts : ∀ name ∈ nameColumns, m.account.2.HoldsText name) :
    (m.row caller.side).assemble caller.party caller.side (.text caller.resourceServerUrl) =
      .ok (m.record caller) := by
  rw [Row.assemble_of_ok (Party.toJson_caller caller) (counterpartObject_row names texts),
    Party.toValue_objectOfTexts, Party.toValue_objectOfTexts]
  rfl

/-- The columns of a record do not depend on its match. -/
theorem keys_record (caller : Caller) (m : Match) :
    (m.record caller).keys = recordKeys caller.side := by
  rw [record, Row.keys_recordOf_of_new, keys_row]
  · cases caller.side <;> decide
  · rw [keys_row]
    cases caller.side <;> decide

/-- A column of a row that its record keeps under its name. -/
structure Kept (p : Perspective) (column : Column) (name : String) : Prop where
  output : (column, name) ∈ p.outputs
  new : name ∉ [Row.resourceServerColumn, p.text, p.opposite.text]
  notDropped : p.columns.dropped.contains name = false

instance (p : Perspective) (column : Column) (name : String) : Decidable (Kept p column name) :=
  decidable_of_iff (_ ∧ _ ∧ _) ⟨fun h => ⟨h.1, h.2.1, h.2.2⟩, fun h => ⟨h.1, h.2, h.3⟩⟩

/-- A column that is kept shows what the match holds. -/
theorem get?_record {column : Column} {name : String} (kept : Kept caller.side column name) :
    (m.record caller).get? name = some (m.combination.column column) := by
  obtain ⟨output, new, notDropped⟩ := kept
  simp only [List.mem_cons, List.not_mem_nil, or_false, not_or] at new
  obtain ⟨notServer, notOwn, notOther⟩ := new
  rw [record, Row.get?_recordOf, if_neg notOther, if_neg notOwn, if_neg notServer, notDropped,
    get?_row output]
  rfl

/-- Both sides keep the identifier and the columns of the request, and the kind of its resource. -/
theorem kept_columns (p : Perspective) :
    Kept p ⟨.request, "_id"⟩ "requestId" ∧ Kept p ⟨.resource, "item_type"⟩ "itemType" ∧
      ∀ c ∈ recordColumns, Kept p ⟨.request, c.1⟩ c.2 := by
  cases p <;> decide

/-- The record of a match shows its request. -/
theorem shows_record {tables : Tables} {p : Parameters}
    (account : tables.accounts.get? m.account.1 = some m.account.2)
    (resource : tables.resources.get? m.resource.1 = some m.resource.2)
    (holds : m.Holds caller.side.idColumn caller.side.opposite.idColumn p) :
    Shows tables caller m.request (m.record caller) where
  keys_eq := keys_record caller m
  requestId_eq := get?_record (kept_columns caller.side).1
  columns_eq := by
    intro c mem
    have other : ∀ c ∈ recordColumns, c.1 ≠ Table.idColumn := by decide
    rw [get?_record ((kept_columns caller.side).2.2 c mem), column_request m (other c mem)]
  itemType_eq :=
    ⟨m.resource.1, m.resource.2, holds.item_eq, resource, get?_record (kept_columns _).2.1⟩
  server_eq := by
    rw [record, Row.get?_recordOf]
    cases caller.side <;> rfl
  own_eq := by
    rw [record, Row.get?_recordOf]
    cases caller.side <;> rfl
  counterpart_eq := by
    refine ⟨m.account.1, m.account.2, holds.other_eq, account, ?_⟩
    rw [record, Row.get?_recordOf, if_pos rfl]

end Match

/-! ### A store with one request -/

def accountOf (caller : Caller) : Cells :=
  .ofList
    [("email_id", Caller.textValue caller.email), ("first_name", Caller.textValue caller.firstName),
     ("last_name", Caller.textValue caller.lastName)]

theorem held_accountOf (caller : Caller) :
    (accountOf caller).held "email_id" = Caller.textValue caller.email ∧
      (accountOf caller).held "first_name" = Caller.textValue caller.firstName ∧
      (accountOf caller).held "last_name" = Caller.textValue caller.lastName :=
  ⟨rfl, rfl, rfl⟩

/-- The account of a caller may stand in a store. -/
theorem holdsText_accountOf (caller : Caller) :
    ∀ name ∈ nameColumns, (accountOf caller).HoldsText name := by
  obtain ⟨email, firstName, lastName⟩ := held_accountOf caller
  simp only [nameColumns, List.forall_mem_cons]
  exact ⟨Cells.holdsText_of_held email, Cells.holdsText_of_held firstName,
    Cells.holdsText_of_held lastName, fun _ none => absurd none List.not_mem_nil⟩

/-- When the request below was changed. -/
def lastChange : Calendar.Moment :=
  ⟨⟨2024, 5, 1, by decide, by decide, by decide⟩, 12, 30, 0, 0, none, by decide, by decide,
    by decide⟩

def oneRequest : Cells :=
  .ofList
    [("user_id", .text consumerCaller.id.text), ("item_id", .text "item"),
     ("owner_id", .text providerCaller.id.text), ("status", .text "PENDING"),
     ("updated_at", .moment lastChange)]

def bothAccounts : Rows :=
  .ofList
    [(consumerCaller.id.text, accountOf consumerCaller),
     (providerCaller.id.text, accountOf providerCaller)]

theorem consumerId_ne : consumerCaller.id.text ≠ providerCaller.id.text := by
  decide +kernel

theorem bothAccounts_entries :
    bothAccounts.entries =
      [(consumerCaller.id.text, accountOf consumerCaller),
       (providerCaller.id.text, accountOf providerCaller)] :=
  OrderedMap.entries_ofList (by simp [consumerId_ne])

/-- The tables with this request, its resource, and the accounts of both parties. -/
def oneRequestTables : Tables where
  requests := .ofList [("request", oneRequest)]
  accounts := bothAccounts
  resources :=
    .ofList
      [("item", .ofList
        [("item_type", .text "RESOURCE"), ("resource_server_url", .text "rs://a")])]
  named := by
    intro account mem
    rw [bothAccounts_entries, List.mem_cons, List.mem_singleton] at mem
    rcases mem with rfl | rfl
    · exact holdsText_accountOf consumerCaller
    · exact holdsText_accountOf providerCaller

theorem consumer_stored :
    oneRequestTables.accounts.get? consumerCaller.id.text = some (accountOf consumerCaller) := by
  rw [← OrderedMap.mem_entries_iff]
  exact bothAccounts_entries ▸ List.mem_cons_self

theorem provider_stored :
    oneRequestTables.accounts.get? providerCaller.id.text = some (accountOf providerCaller) := by
  rw [← OrderedMap.mem_entries_iff]
  exact bothAccounts_entries ▸ List.mem_cons_of_mem _ List.mem_cons_self

/-- The identifiers of the callers are in lower case. -/
theorem ofList_lower_ofUuid (u : Uuid) :
    String.ofList (lower (UserId.ofUuid u).text.toList) = (UserId.ofUuid u).text := by
  rw [UserId.lower_ofUuid, String.ofList_toList]

theorem visible_to_consumer : Visible oneRequestTables consumerCaller ("request", oneRequest) where
  stored := List.mem_singleton.mpr rfl
  own := congrArg some (ofList_lower_ofUuid _).symm
  resource := ⟨"item", _, rfl, rfl, rfl⟩
  counterpart := ⟨_, _, rfl, provider_stored⟩

theorem visible_to_provider : Visible oneRequestTables providerCaller ("request", oneRequest) where
  stored := List.mem_singleton.mpr rfl
  own := congrArg some (ofList_lower_ofUuid _).symm
  resource := ⟨"item", _, rfl, rfl, rfl⟩
  counterpart := ⟨_, _, rfl, consumer_stored⟩

/-! ### Answers -/

/-- The envelope that records make: without any it is the failure that names the server. -/
def Envelope.ofRecords (url : String) : List Row → Envelope
  | [] => .failure (.notFound url)
  | records => .success records

namespace Lookup

/-- The parameters of a caller's query. -/
def parametersFor (caller : Caller) : Parameters :=
  ⟨String.ofList (lower caller.id.text.toList), caller.resourceServerUrl⟩

/-- A caller's query is the built-in statement of the caller's side, for the identifier in lower
case. -/
theorem queryFor_builtIn (caller : Caller) :
    queryFor caller .builtIn =
      ⟨.whole (Select.builtIn caller.side.selector).sql, parametersFor caller⟩ := by
  have statement (selector : Selector) :
      Statements.builtIn.get selector = .whole (Select.builtIn selector).sql := by
    cases selector <;> rfl
  rw [queryFor, statement, caller.id.toString_uuid]
  rfl

/-- The matches of a caller's requests, in an order that SQL allows. -/
abbrev MatchesFor (collation : Collation) (tables : Tables) (caller : Caller) (ms : List Match) :
    Prop :=
  tables.Selects collation caller.side.idColumn caller.side.opposite.idColumn
    (parametersFor caller) ms

section Answers

variable {collation : Collation} {tables : Tables} {caller : Caller} {ms : List Match}

/-- An engine that serves the tables gives a caller the rows of the caller's matches. -/
theorem exists_matches {engine : Engine} (serves : engine.Serves collation tables.store)
    (caller : Caller) :
    ∃ ms, MatchesFor collation tables caller ms ∧
      (engine (queryFor caller .builtIn)).Reads (ms.map (Match.row caller.side)) := by
  obtain ⟨rows, reads, answer⟩ := serves caller.side.selector (parametersFor caller)
  rw [caller.side.builtIn_selector] at answer
  obtain ⟨ms, selects, rfl⟩ := Tables.exists_selects caller.side.idColumn_ne
    caller.side.opposite.idColumn_ne answer
  refine ⟨ms, selects, ?_⟩
  rw [queryFor_builtIn]
  unfold Match.row
  rw [caller.side.builtIn_selector] at reads ⊢
  exact reads

/-- The records of a caller's rows are those of the matches. -/
theorem recordsFor_matches (found : MatchesFor collation tables caller ms) :
    recordsFor caller (ms.map (Match.row caller.side)) = .ok (ms.map (Match.record caller)) := by
  refine Row.assembleAll_eq_ok_iff.mpr ?_
  rw [List.forall₂_map_left_iff, List.forall₂_map_right_iff, List.forall₂_same]
  intro m mem
  obtain ⟨-, account, -, holds⟩ := (found.mem_iff m).mp mem
  refine Match.assemble_row holds.other_eq ?_
  exact tables.named (m.account.1, m.account.2) ((OrderedMap.mem_entries_iff ..).mpr account)

/-- An engine that serves the tables gives a caller the records of the caller's matches. -/
theorem build_matches {engine : Engine} (serves : engine.Serves collation tables.store)
    (caller : Caller) :
    ∃ ms, MatchesFor collation tables caller ms ∧
      (build engine caller .builtIn).result =
        .ok (.ofRecords caller.resourceServerUrl (ms.map (Match.record caller))) := by
  obtain ⟨ms, found, reads⟩ := exists_matches serves caller
  have assembled := recordsFor_matches found
  refine ⟨ms, found, ?_⟩
  cases ms with
  | nil =>
    rw [build_of_nothing reads]
    rfl
  | cons m rest =>
    rw [build_of_records reads (List.cons_ne_nil _ _) assembled]
    rfl

/-- The record of each of a caller's matches shows its request. -/
theorem shows_of_mem (found : MatchesFor collation tables caller ms) {m : Match} (mem : m ∈ ms) :
    Shows tables caller m.request (m.record caller) := by
  obtain ⟨-, account, resource, holds⟩ := (found.mem_iff m).mp mem
  exact Match.shows_record account resource holds

/-- The requests of a caller's matches are the ones that the caller sees. -/
theorem mem_requests_iff (found : MatchesFor collation tables caller ms)
    (request : String × Cells) : request ∈ ms.map Match.request ↔ Visible tables caller request := by
  rw [List.mem_map]
  constructor
  · rintro ⟨m, mem, rfl⟩
    obtain ⟨stored, account, resource, holds⟩ := (found.mem_iff m).mp mem
    exact {
      stored := stored
      own := holds.own_eq
      resource := ⟨m.resource.1, m.resource.2, holds.item_eq, resource, holds.server_eq⟩
      counterpart := ⟨m.account.1, m.account.2, holds.other_eq, account⟩ }
  · rintro ⟨stored, own, ⟨item, entity, named, resource, server⟩, ⟨party, account, other, known⟩⟩
    refine ⟨⟨request, (party, account), (item, entity)⟩, ?_, rfl⟩
    exact (found.mem_iff _).mpr ⟨stored, known, resource, own, other, named, server⟩

end Answers

/-- **Who sees which requests.** On every store with the three tables, however its columns are
ordered and with every engine that gives it the answers that SQL asks for, the answer to a caller
has one record for each request that the caller sees, and no other: what the record shows is the
request's own, and no record comes before one with a later change. Without such a request the answer
is the failure that names the server. -/
theorem access_of_builtIn {collation : Collation} {engine : Engine} {tables : Tables}
    (serves : engine.Serves collation tables.store) (caller : Caller) :
    ∃ found records, (build engine caller .builtIn).result =
        .ok (.ofRecords caller.resourceServerUrl records) ∧
      List.Forall₂ (Shows tables caller) found records ∧
      (found.map Prod.fst).Nodup ∧
      (∀ request, request ∈ found ↔ Visible tables caller request) ∧
      found.Pairwise fun a b =>
        collation.descending (a.2.held "updated_at") (b.2.held "updated_at") = true := by
  obtain ⟨ms, found, result⟩ := build_matches serves caller
  refine ⟨ms.map Match.request, ms.map (Match.record caller), result, ?_, ?_,
    mem_requests_iff found, ?_⟩
  · rw [List.forall₂_map_left_iff, List.forall₂_map_right_iff, List.forall₂_same]
    exact fun m mem => shows_of_mem found mem
  · rw [List.map_map]
    exact found.nodup
  · rw [List.pairwise_map]
    exact found.sorted

/-- In a store with one request the consumer's answer shows it, also where the nulls of a column
are greater than all else. -/
theorem access_of_one_request :
    let collation : Collation := { Collation.embedded with nullsGreatest := true }
    let engine := oneRequestTables.store.engine collation
    engine.Serves collation oneRequestTables.store ∧
    ∃ found records, (build engine consumerCaller .builtIn).result =
        .ok (.ofRecords "rs://a" records) ∧
      List.Forall₂ (Shows oneRequestTables consumerCaller) found records ∧
      ("request", oneRequest) ∈ found := by
  intro collation engine
  have serves := oneRequestTables.engine_serves collation
  obtain ⟨found, records, result, shows, -, visible, -⟩ := access_of_builtIn serves consumerCaller
  exact ⟨serves, found, records, result, shows, (visible _).mpr visible_to_consumer⟩

end Lookup

end AccessNotices
