import AccessNotices.Proofs.Store.Answer
import AccessNotices.Proofs.Store.Join
import AccessNotices.Proofs.Store.Texts
import Mathlib.Data.List.Perm.Basic
/-!
What the store selects for a lookup.

A lookup selects at most one combination for each request: its `Match`, the request with the account
of one party and with the resource that it is for (`combinations_lookup`). So an answer to a lookup
has a row for each match (`exists_selects`), and no request is matched twice (`Selects.nodup`).
-/

namespace AccessNotices

/-! ### Matches -/

/-- The columns of an account that name its owner. -/
def nameColumns : List String := ["email_id", "first_name", "last_name"]

/-- The three tables of a store. The names and emails of accounts are texts, as they are in every
store that is made from nothing (`Store.exists_tables`); of what the other columns hold nothing is
assumed. -/
structure Tables where
  requests : Rows
  accounts : Rows
  resources : Rows
  named : ∀ account ∈ accounts.entries, ∀ name ∈ nameColumns, account.2.HoldsText name

def Tables.store (tables : Tables) : Store :=
  ⟨some tables.requests, some tables.accounts, some tables.resources⟩

/-- A store that is made from nothing and has all its tables is one of three tables. -/
theorem Store.exists_tables {s : Store} (made : Relation.ReflTransGen Store.Change .empty s)
    (all : ∀ t, (s.table? t).isSome = true) : ∃ tables : Tables, tables.store = s := by
  obtain ⟨requests, accounts, resources⟩ := s
  obtain ⟨requests, rfl⟩ := Option.isSome_iff_exists.mp (all .request)
  obtain ⟨accounts, rfl⟩ := Option.isSome_iff_exists.mp (all .account)
  obtain ⟨resources, rfl⟩ := Option.isSome_iff_exists.mp (all .resource)
  have texts := Store.holdsTexts_of_changes made .account accounts rfl
  have noTimes : ∀ name ∈ nameColumns, timeColumns.contains name = false := by decide
  exact ⟨⟨requests, accounts, resources, fun account mem name named =>
    texts account mem name (noTimes name named)⟩, rfl⟩

/-- A request with the account of a party and the resource that it is for, each with its
identifier. -/
structure Match where
  request : String × Cells
  account : String × Cells
  resource : String × Cells

namespace Match

/-- The bound rows of a match, the last joined first. -/
def combination (m : Match) : Combination :=
  [⟨.resource, m.resource.1, m.resource.2⟩, ⟨.account, m.account.1, m.account.2⟩,
   ⟨.request, m.request.1, m.request.2⟩]

/-- The first match has no earlier change than the second. -/
def notBefore (collation : Collation) (a b : Match) : Bool :=
  collation.descending (a.request.2.held "updated_at") (b.request.2.held "updated_at")

/-- The columns that a lookup goes by: the request is a party's own by one column, names the other
party in another, and is for a resource of a server. -/
structure Holds (own other : String) (p : Parameters) (m : Match) : Prop where
  own_eq : m.request.2.text? own = some p.requesterId
  other_eq : m.request.2.text? other = some m.account.1
  item_eq : m.request.2.text? "item_id" = some m.resource.1
  server_eq : m.resource.2.text? "resource_server_url" = some p.resourceServerUrl

end Match

namespace Tables

variable (tables : Tables) (own other : String) (p : Parameters)

/-- A request with the account and the resource that it names. -/
def resolve? (request : String × Cells) : Option Match := do
  let party ← request.2.text? other
  let account ← tables.accounts.get? party
  let item ← request.2.text? "item_id"
  let resource ← tables.resources.get? item
  some ⟨request, (party, account), (item, resource)⟩

/-- The match of a request, if it has one. -/
def match? (request : String × Cells) : Option Match :=
  (tables.resolve? other request).filter fun m =>
    decide (m.request.2.text? own = some p.requesterId ∧
      m.resource.2.text? "resource_server_url" = some p.resourceServerUrl)

variable {tables own other p}

theorem resolve?_eq_some_iff {request : String × Cells} {m : Match} :
    tables.resolve? other request = some m ↔
      m.request = request ∧ request.2.text? other = some m.account.1 ∧
        tables.accounts.get? m.account.1 = some m.account.2 ∧
        request.2.text? "item_id" = some m.resource.1 ∧
        tables.resources.get? m.resource.1 = some m.resource.2 := by
  simp only [resolve?, Option.bind_eq_bind, Option.bind_eq_some_iff, Option.some.injEq]
  constructor
  · rintro ⟨party, other, account, found, item, named, resource, found', rfl⟩
    exact ⟨rfl, other, found, named, found'⟩
  · obtain ⟨request', ⟨party, account⟩, ⟨item, resource⟩⟩ := m
    rintro ⟨rfl, other, found, named, found'⟩
    exact ⟨party, other, account, found, item, named, resource, found', rfl⟩

/-- **The match of a request**: its account and its resource are stored under the identifiers that
it names, and the columns hold what the lookup asks for. -/
theorem match?_eq_some_iff {request : String × Cells} {m : Match} :
    tables.match? own other p request = some m ↔
      m.request = request ∧ tables.accounts.get? m.account.1 = some m.account.2 ∧
        tables.resources.get? m.resource.1 = some m.resource.2 ∧ m.Holds own other p := by
  rw [match?, Option.filter_eq_some_iff, resolve?_eq_some_iff, decide_eq_true_iff]
  constructor
  · rintro ⟨⟨rfl, other, account, item, resource⟩, own, server⟩
    exact ⟨rfl, account, resource, own, other, item, server⟩
  · rintro ⟨rfl, account, resource, own, other, item, server⟩
    exact ⟨⟨rfl, other, account, item, resource⟩, own, server⟩

end Tables

/-! ### Lookups -/

/-- The filters of a lookup ask for the party's own column and for the server. -/
theorem Match.filters_eq {own : String} (noId : own ≠ Table.idColumn) (other : Column)
    (party : List (Column × String)) (p : Parameters) (m : Match) :
    (Select.lookup ⟨.request, own⟩ other party).filters.all
      (fun (column, parameter) =>
        sqlEqual (m.combination.column column) (.text (p.value parameter))) =
      decide (m.request.2.text? own = some p.requesterId ∧
        m.resource.2.text? "resource_server_url" = some p.resourceServerUrl) := by
  have compare : ∀ (cells : Cells) (name s : String),
      sqlEqual (cells.held name) (.text s) = decide (cells.text? name = some s) := by
    intro cells name s
    rw [Cells.text?]
    cases cells.held name with
    | text t => exact Bool.eq_iff_iff.mpr (by simp [sqlEqual])
    | _ => simp [sqlEqual]
  have ownColumn : m.combination.column ⟨.request, own⟩ = m.request.2.held own :=
    Binding.column_of_ne ⟨.request, m.request.1, m.request.2⟩ noId
  change (sqlEqual (m.combination.column ⟨.request, own⟩) _ &&
    (sqlEqual (m.resource.2.held "resource_server_url") _ && true)) = _
  rw [ownColumn, compare, compare, Bool.and_true, ← Bool.decide_and]
  rfl

namespace Tables

variable (tables : Tables) {own other : String} (p : Parameters)

/-- Both joins of a lookup, one after the other, resolve a request. -/
theorem extend_extend (noId : other ≠ Table.idColumn) (request : String × Cells) :
    (Combination.extend .account tables.accounts ⟨.request, other⟩
      [⟨.request, request.1, request.2⟩]).bind
        (Combination.extend .resource tables.resources ⟨.request, "item_id"⟩) =
      (tables.resolve? other request).map Match.combination := by
  have column : Combination.column [⟨.request, request.1, request.2⟩] ⟨.request, other⟩ =
      request.2.held other := by
    rw [Combination.column_head ⟨.request, request.1, request.2⟩ [], Binding.column_of_ne _ noId]
  have item (b : Binding) (account : b.table = .account) :
      Combination.column [b, ⟨.request, request.1, request.2⟩] ⟨.request, "item_id"⟩ =
        request.2.held "item_id" :=
    Combination.column_tail (by rw [account]; decide) _
  rw [Combination.extend, column, resolve?, Cells.text?]
  cases request.2.held other with
  | text party =>
    cases found : tables.accounts.get? party with
    | none => simp [found]
    | some account =>
      simp only [Option.map_some, found, Option.bind_some, Option.bind_eq_bind]
      rw [Combination.extend, item ⟨.account, party, account⟩ rfl, Cells.text?]
      cases request.2.held "item_id" with
      | text item =>
        cases found' : tables.resources.get? item with
        | none => simp [found']
        | some resource => simp [found', Match.combination]
      | _ => rfl
  | _ => rfl

/-- The joins of a lookup resolve each request that can be resolved. -/
theorem foldlM_joins (noId : other ≠ Table.idColumn) (own : Column)
    (party : List (Column × String)) :
    (Select.lookup own ⟨.request, other⟩ party).joins.foldlM tables.store.joinWith
      ((Store.bindings .request tables.requests).map ([·])) =
      .ok ((tables.requests.entries.filterMap (tables.resolve? other)).map Match.combination) := by
  have accounts (cs : List Combination) : tables.store.joinWith cs
      ⟨.account, ⟨.account, Table.idColumn⟩, ⟨.request, other⟩⟩ =
      .ok (cs.filterMap (Combination.extend .account tables.accounts ⟨.request, other⟩)) :=
    Store.joinWith_id rfl (by intro h; cases h) cs
  have resources (cs : List Combination) : tables.store.joinWith cs
      ⟨.resource, ⟨.resource, Table.idColumn⟩, ⟨.request, "item_id"⟩⟩ =
      .ok (cs.filterMap (Combination.extend .resource tables.resources ⟨.request, "item_id"⟩)) :=
    Store.joinWith_id rfl (by intro h; cases h) cs
  change (tables.store.joinWith _ ⟨.account, ⟨.account, Table.idColumn⟩, ⟨.request, other⟩⟩ >>=
    fun cs => tables.store.joinWith cs
      ⟨.resource, ⟨.resource, Table.idColumn⟩, ⟨.request, "item_id"⟩⟩ >>= pure) = _
  rw [accounts]
  change tables.store.joinWith _ ⟨.resource, ⟨.resource, Table.idColumn⟩, ⟨.request, "item_id"⟩⟩ = _
  rw [resources, List.filterMap_filterMap, List.filterMap_map, Store.bindings, List.filterMap_map,
    List.map_filterMap]
  exact congrArg (fun f => Except.ok (List.filterMap f _)) (funext (tables.extend_extend noId))

/-- **The combinations of a lookup** are the matches of the requests, in the order of the
requests. -/
theorem combinations_lookup (noId : own ≠ Table.idColumn) (noId' : other ≠ Table.idColumn)
    (party : List (Column × String)) :
    tables.store.combinations (.lookup ⟨.request, own⟩ ⟨.request, other⟩ party) p =
      .ok ((tables.requests.entries.filterMap (tables.match? own other p)).map
        Match.combination) := by
  have present : tables.store.rowsOf Table.request = .ok tables.requests := rfl
  have checked : tables.store.checkTables
      (.lookup ⟨.request, own⟩ ⟨.request, other⟩ party) = .ok () := rfl
  have joined := tables.foldlM_joins noId' ⟨.request, own⟩ party
  rw [Store.combinations_of_joined p checked present joined, List.filter_map,
    List.filter_filterMap]
  refine congrArg (fun f => Except.ok ((List.filterMap f _).map _)) (funext fun request => ?_)
  exact congrArg (Option.filter · _) (funext (Match.filters_eq noId ⟨.request, other⟩ party p))

/-- Every lookup has an answer. -/
theorem exists_combinations (selector : Selector) :
    ∃ selected, tables.store.combinations (Select.builtIn selector) p = .ok selected := by
  cases selector with
  | consumerNotifications => exact ⟨_, tables.combinations_lookup p (by decide) (by decide) _⟩
  | providerNotifications => exact ⟨_, tables.combinations_lookup p (by decide) (by decide) _⟩

/-- **The store's own engine** serves the tables, by any collation. -/
theorem engine_serves (collation : Collation) :
    (tables.store.engine collation).Serves collation tables.store :=
  Store.engine_serves (fun selector p => tables.exists_combinations p selector) collation

end Tables

/-! ### Selections -/

/-- A list whose entries are, up to their order, the images of a list is the image of that list in
another order. -/
theorem exists_map_of_perm {α β : Type} {f : α → β} {l : List α} {images : List β}
    (perm : images.Perm (l.map f)) : ∃ l' : List α, images = l'.map f ∧ l'.Perm l := by
  have each : List.Forall₂ (fun b a => b = f a) (l.map f) l := by
    rw [List.forall₂_map_left_iff, List.forall₂_same]
    exact fun a _ => rfl
  obtain ⟨l', same, perm'⟩ := List.perm_comp_forall₂ perm each
  refine ⟨l', ?_, perm'⟩
  rwa [← List.forall₂_map_right_iff, List.forall₂_eq_eq_eq] at same

namespace Tables

variable (collation : Collation) (tables : Tables) (own other : String) (p : Parameters)

/-- The matches of all requests, the latest change first. -/
structure Selects (ms : List Match) : Prop where
  perm : ms.Perm (tables.requests.entries.filterMap (tables.match? own other p))
  sorted : ms.Pairwise fun a b => a.notBefore collation b = true

variable {collation tables own other p}

/-- **An answer to a lookup** has a row for each match of a request, the latest change first. -/
theorem exists_selects (noId : own ≠ Table.idColumn) (noId' : other ≠ Table.idColumn)
    {party : List (Column × String)} {rows : List Row}
    (answer : tables.store.IsAnswer collation (.lookup ⟨.request, own⟩ ⟨.request, other⟩ party) p
      rows) :
    ∃ ms, tables.Selects collation own other p ms ∧
      rows = ms.map fun m =>
        Store.project (.lookup ⟨.request, own⟩ ⟨.request, other⟩ party) m.combination := by
  obtain ⟨selected, ordered, combinations, perm, sorted, rfl⟩ := answer
  rw [tables.combinations_lookup p noId noId' party] at combinations
  cases combinations
  obtain ⟨ms, rfl, perm'⟩ := exists_map_of_perm perm
  refine ⟨ms, ⟨perm', List.pairwise_map.mp sorted⟩, ?_⟩
  rw [List.map_map]
  rfl

/-- The requests of matches are among the requests that are looked at, in their order. -/
theorem map_request_sublist (tables : Tables) (own other : String) (p : Parameters)
    (entries : List (String × Cells)) :
    ((entries.filterMap (tables.match? own other p)).map Match.request).Sublist entries := by
  induction entries with
  | nil => exact .slnil
  | cons request rest ih =>
    rw [List.filterMap_cons]
    cases found : tables.match? own other p request with
    | none => exact ih.cons request
    | some m =>
      obtain ⟨rfl, -⟩ := match?_eq_some_iff.mp found
      exact ih.cons_cons m.request

namespace Selects

variable {ms : List Match}

theorem mem_iff (selects : tables.Selects collation own other p ms) (m : Match) :
    m ∈ ms ↔
      m.request ∈ tables.requests.entries ∧ tables.accounts.get? m.account.1 = some m.account.2 ∧
        tables.resources.get? m.resource.1 = some m.resource.2 ∧ m.Holds own other p := by
  rw [selects.perm.mem_iff, List.mem_filterMap]
  constructor
  · rintro ⟨request, mem, found⟩
    obtain ⟨rfl, stored⟩ := match?_eq_some_iff.mp found
    exact ⟨mem, stored⟩
  · rintro ⟨mem, stored⟩
    exact ⟨m.request, mem, match?_eq_some_iff.mpr ⟨rfl, stored⟩⟩

/-- No request is matched twice. -/
theorem nodup (selects : tables.Selects collation own other p ms) :
    (ms.map fun m => m.request.1).Nodup := by
  refine (selects.perm.map fun m => m.request.1).nodup_iff.mpr ?_
  have sub := (map_request_sublist tables own other p tables.requests.entries).map Prod.fst
  rw [List.map_map] at sub
  exact tables.requests.nodup.sublist sub

end Selects

end Tables

end AccessNotices
