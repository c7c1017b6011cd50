import AccessNotices.Proofs.Store.Access
import Mathlib.Data.List.Nodup
/-!
The two sides of a request see the same record.

A consumer and a provider on one server face each other when each has an account with the names and
the email that the caller carries (`Facing`). A match of the one that names the other has a mirror
image among the matches of the other (`mirror_mem`), and the records of the two are the same mapping
(`Shows.same`). The matches with a mirror image are about the requests that both callers see
(`mem_requests_naming_iff`). Main statement: `views_agree`, for every store with the three tables.
-/

namespace AccessNotices

open Text

/-! ### Records as mappings -/

/-- Two records are the same mapping: they have the same columns, each with the same value. -/
def Row.SameMapping (a b : Row) : Prop :=
  ∀ name, a.get? name = b.get? name

/-- The identifier of a party of a record. -/
def Row.partyId? (p : Perspective) (record : Row) : Option String :=
  match record.get? p.text with
  | some (.map entries) => (Value.field? entries "id").bind Value.asText?
  | _ => none

/-- Does a record have a party with this identifier? -/
def Row.hasParty (p : Perspective) (id : String) (record : Row) : Bool :=
  record.partyId? p == some id

/-- The identifier of an identity can be read off it. -/
theorem Row.partyId?_of_identity {p : Perspective} {record : Row}
    {email firstName lastName : Option String} {id : String}
    (party : record.get? p.text = some (Party.identity email firstName lastName id)) :
    record.partyId? p = some id := by
  rw [partyId?, party]
  rfl

/-! ### Callers that face each other -/

/-- A caller whose account holds the caller's own names and email, with an identifier in lower
case. -/
structure Registered (tables : Tables) (caller : Caller) (account : Cells) : Prop where
  lower_eq : lower caller.id.text.toList = caller.id.text.toList
  stored : tables.accounts.get? caller.id.text = some account
  email_eq : account.text? "email_id" = caller.email
  firstName_eq : account.text? "first_name" = caller.firstName
  lastName_eq : account.text? "last_name" = caller.lastName

/-- Two callers on the two sides of one server, both with their accounts. -/
structure Facing (tables : Tables) (a b : Caller) (accountA accountB : Cells) : Prop where
  opposite : b.side = a.side.opposite
  server : b.resourceServerUrl = a.resourceServerUrl
  first : Registered tables a accountA
  second : Registered tables b accountB

namespace Facing

variable {tables : Tables} {a b : Caller} {accountA accountB : Cells}

theorem symm (facing : Facing tables a b accountA accountB) :
    Facing tables b a accountB accountA where
  opposite := by rw [facing.opposite, Perspective.opposite_opposite]
  server := facing.server.symm
  first := facing.second
  second := facing.first

end Facing

/-- A registered caller asks by the identifier that is stored. -/
theorem Registered.requesterId_eq {tables : Tables} {caller : Caller} {account : Cells}
    (registered : Registered tables caller account) :
    (Lookup.parametersFor caller).requesterId = caller.id.text := by
  change String.ofList (lower caller.id.text.toList) = caller.id.text
  rw [registered.lower_eq, String.ofList_toList]

/-- The columns of a record, by what fills them. -/
theorem mem_recordKeys_iff (p : Perspective) (name : String) :
    name ∈ recordKeys p ↔ name = "requestId" ∨ name = "itemType" ∨
      (∃ c ∈ recordColumns, name = c.2) ∨ name = "resourceServerURL" ∨ name = p.text ∨
        name = p.opposite.text := by
  simp only [recordKeys, recordColumns, List.mem_cons, List.not_mem_nil, or_false, exists_eq_or_imp,
    exists_eq_left]
  grind

/-- The records of both sides have the same columns. -/
theorem mem_recordKeys_opposite (p : Perspective) (name : String) :
    name ∈ recordKeys p.opposite ↔ name ∈ recordKeys p := by
  rw [mem_recordKeys_iff, mem_recordKeys_iff, Perspective.opposite_opposite,
    or_comm (a := name = p.opposite.text)]

namespace Shows

variable {tables : Tables} {a b : Caller} {accountA accountB : Cells} {request : String × Cells}
  {x y : Row}

/-- A record carries the account of the other party, if the other party is registered. -/
theorem counterpart_of_registered (shows : Shows tables a request x)
    (registered : Registered tables b accountB)
    (named : request.2.text? a.side.opposite.idColumn = some b.id.text) :
    x.get? a.side.opposite.text =
      some (Party.identity b.email b.firstName b.lastName b.id.text) := by
  obtain ⟨party, account, named', found, shown⟩ := shows.counterpart_eq
  cases named.symm.trans named'
  cases registered.stored.symm.trans found
  rw [shown, registered.email_eq, registered.firstName_eq, registered.lastName_eq]

/-- **The records of one request for two callers that face each other** are the same mapping. -/
theorem same (facing : Facing tables a b accountA accountB) (first : Shows tables a request x)
    (second : Shows tables b request y)
    (own : request.2.text? a.side.idColumn = some a.id.text)
    (other : request.2.text? b.side.idColumn = some b.id.text) : x.SameMapping y := by
  have opposite' := facing.symm.opposite
  have otherA := first.counterpart_of_registered facing.second (facing.opposite ▸ other)
  have otherB := second.counterpart_of_registered facing.first (opposite' ▸ own)
  have keys : y.keys = recordKeys a.side.opposite := facing.opposite ▸ second.keys_eq
  intro name
  by_cases mem : name ∈ x.keys
  · rw [first.keys_eq, mem_recordKeys_iff] at mem
    rcases mem with rfl | rfl | ⟨c, column, rfl⟩ | rfl | rfl | rfl
    · rw [first.requestId_eq, second.requestId_eq]
    · obtain ⟨item, entity, named, found, shown⟩ := first.itemType_eq
      obtain ⟨item', entity', named', found', shown'⟩ := second.itemType_eq
      cases named.symm.trans named'
      cases found.symm.trans found'
      rw [shown, shown']
    · rw [first.columns_eq c column, second.columns_eq c column]
    · rw [first.server_eq, second.server_eq, facing.server]
    · rw [first.own_eq, opposite', otherB]
    · rw [otherA, ← facing.opposite, second.own_eq]
  · have mem' : name ∉ y.keys := by
      rw [keys, mem_recordKeys_opposite, ← first.keys_eq]
      exact mem
    have missing : ∀ {z : Row}, name ∉ z.keys → z.get? name = none := by
      intro z none
      rw [OrderedMap.mem_keys_iff] at none
      exact Option.eq_none_iff_forall_ne_some.mpr fun v found => none ⟨v, found⟩
    rw [missing mem, missing mem']

end Shows

/-! ### Mirror images of matches -/

namespace Lookup

/-- The matches whose other party has this identifier. -/
def naming (id : String) (ms : List Match) : List Match :=
  ms.filter fun m => m.account.1 == id

/-- A match with another account for the other party. -/
def mirror (id : String) (account : Cells) (m : Match) : Match :=
  { m with account := (id, account) }

section Mirror

variable {collation : Collation} {tables : Tables} {a b : Caller} {accountA accountB : Cells}
  {ms ms' : List Match}

theorem mem_naming_iff {id : String} {m : Match} :
    m ∈ naming id ms ↔ m ∈ ms ∧ m.account.1 = id := by
  rw [naming, List.mem_filter, beq_iff_eq]

/-- No request is named twice. -/
theorem naming_nodup (found : MatchesFor collation tables a ms) (id : String) :
    ((naming id ms).map fun m => m.request.1).Nodup :=
  found.nodup.sublist (List.filter_sublist.map _)

/-- In a match of one caller that names the other, both are named by the columns of their sides. -/
theorem columns_of_mem (facing : Facing tables a b accountA accountB)
    (found : MatchesFor collation tables a ms) {m : Match} (mem : m ∈ naming b.id.text ms) :
    m.request.2.text? a.side.idColumn = some a.id.text ∧
      m.request.2.text? b.side.idColumn = some b.id.text := by
  obtain ⟨mem, names⟩ := mem_naming_iff.mp mem
  obtain ⟨-, -, -, holds⟩ := (found.mem_iff m).mp mem
  constructor
  · rw [holds.own_eq, facing.first.requesterId_eq]
  · rw [facing.opposite, holds.other_eq, names]

/-- **Mirror images**: a match of one caller that names the other is, with the first caller's
account for the other party, a match of the second caller that names the first. -/
theorem mirror_mem (facing : Facing tables a b accountA accountB)
    (found : MatchesFor collation tables a ms) (found' : MatchesFor collation tables b ms')
    {m : Match} (mem : m ∈ naming b.id.text ms) :
    mirror a.id.text accountA m ∈ naming a.id.text ms' := by
  obtain ⟨own, other⟩ := columns_of_mem facing found mem
  obtain ⟨mem, -⟩ := mem_naming_iff.mp mem
  obtain ⟨stored, -, resource, holds⟩ := (found.mem_iff m).mp mem
  refine mem_naming_iff.mpr ⟨(found'.mem_iff _).mpr ?_, rfl⟩
  refine ⟨stored, facing.first.stored, resource, ?_⟩
  exact {
    own_eq := other.trans (congrArg some facing.second.requesterId_eq.symm)
    other_eq := facing.symm.opposite ▸ own
    item_eq := holds.item_eq
    server_eq := holds.server_eq.trans (congrArg some facing.server.symm) }

/-- A mirror image of a mirror image is the match itself. -/
theorem mirror_mirror (facing : Facing tables a b accountA accountB)
    (found : MatchesFor collation tables b ms) {m : Match} (mem : m ∈ naming a.id.text ms) :
    mirror a.id.text accountA (mirror b.id.text accountB m) = m := by
  obtain ⟨mem, names⟩ := mem_naming_iff.mp mem
  obtain ⟨-, account, -, -⟩ := (found.mem_iff m).mp mem
  rw [names, facing.first.stored] at account
  obtain ⟨request, ⟨id, cells⟩, resource⟩ := m
  cases names
  cases account
  rfl

/-- The matches of one caller that name the other are, up to their order, the mirror images of the
other's. -/
theorem map_mirror_perm (facing : Facing tables a b accountA accountB)
    (found : MatchesFor collation tables a ms) (found' : MatchesFor collation tables b ms') :
    ((naming b.id.text ms).map (mirror a.id.text accountA)).Perm (naming a.id.text ms') := by
  have images : (((naming b.id.text ms).map (mirror a.id.text accountA)).map
      fun m => m.request.1).Nodup := by
    rw [List.map_map]
    exact naming_nodup found b.id.text
  have distinct := List.Nodup.of_map _ (naming_nodup found' a.id.text)
  refine (List.perm_ext_iff_of_nodup (List.Nodup.of_map _ images) distinct).mpr fun m => ?_
  rw [List.mem_map]
  constructor
  · rintro ⟨image, mem, rfl⟩
    exact mirror_mem facing found found' mem
  · intro mem
    exact ⟨mirror b.id.text accountB m, mirror_mem facing.symm found' found mem,
      mirror_mirror facing found' mem⟩

/-! ### Both views -/

/-- The records whose other party has an identifier are those of the matches that name it. -/
theorem filter_records (caller : Caller) (id : String) (ms : List Match) :
    (ms.map (Match.record caller)).filter (Row.hasParty caller.side.opposite id) =
      (naming id ms).map (Match.record caller) := by
  rw [List.filter_map, naming]
  refine congrArg (List.map _) (List.filter_congr fun m _ => ?_)
  have party : (m.record caller).partyId? caller.side.opposite = some m.account.1 :=
    Row.partyId?_of_identity ((Row.get?_recordOf ..).trans (if_pos rfl))
  change ((m.record caller).partyId? caller.side.opposite == some id) = (m.account.1 == id)
  rw [party]
  rfl

/-- No two records are about one request. -/
theorem requestIds_nodup (found : MatchesFor collation tables a ms) (id : String) :
    (((naming id ms).map (Match.record a)).map fun record => record.get? "requestId").Nodup := by
  have ids : ((naming id ms).map (Match.record a)).map (fun record => record.get? "requestId") =
      ((naming id ms).map fun m => m.request.1).map fun id => some (.text id) := by
    rw [List.map_map, List.map_map]
    refine List.map_congr_left fun m mem => ?_
    exact (shows_of_mem found (mem_naming_iff.mp mem).1).requestId_eq
  rw [ids]
  refine (naming_nodup found id).map ?_
  intro id id' same
  cases same
  rfl

/-- A record of one caller and the record of its mirror image are the same mapping. -/
theorem same_of_mem (facing : Facing tables a b accountA accountB)
    (found : MatchesFor collation tables a ms) (found' : MatchesFor collation tables b ms')
    {m : Match} (mem : m ∈ naming b.id.text ms) :
    (m.record a).SameMapping ((mirror a.id.text accountA m).record b) := by
  obtain ⟨own, other⟩ := columns_of_mem facing found mem
  have image := (mem_naming_iff.mp (mirror_mem facing found found' mem)).1
  exact (shows_of_mem found (mem_naming_iff.mp mem).1).same facing (shows_of_mem found' image) own
    other

/-- The matches of one caller that name the other are about the requests that both callers see. -/
theorem mem_requests_naming_iff (facing : Facing tables a b accountA accountB)
    (found : MatchesFor collation tables a ms) (found' : MatchesFor collation tables b ms')
    (request : String × Cells) :
    request ∈ (naming b.id.text ms).map Match.request ↔
      Visible tables a request ∧ Visible tables b request := by
  rw [List.mem_map]
  constructor
  · rintro ⟨m, mem, rfl⟩
    have image := mirror_mem facing found found' mem
    exact ⟨(mem_requests_iff found _).mp (List.mem_map_of_mem (mem_naming_iff.mp mem).1),
      (mem_requests_iff found' _).mp
        (List.mem_map.mpr ⟨mirror a.id.text accountA m, (mem_naming_iff.mp image).1, rfl⟩)⟩
  · rintro ⟨visible, visible'⟩
    obtain ⟨m, mem, rfl⟩ := List.mem_map.mp ((mem_requests_iff found _).mpr visible)
    obtain ⟨-, -, -, holds⟩ := (found.mem_iff m).mp mem
    have named := visible'.own
    rw [facing.opposite, holds.other_eq, facing.second.lower_eq, String.ofList_toList] at named
    exact ⟨m, mem_naming_iff.mpr ⟨mem, Option.some.inj named⟩, rfl⟩

end Mirror

/-- **The two sides of a request see the same record.** On every store with the three tables and
with every engine that gives it the answers that SQL asks for, for a consumer and someone who is not
one, on one server and both with their accounts: the records of the consumer's answer whose provider
is the other are, as mappings and up to their order, the records of the other's answer whose
consumer is the first. There is one for each request that both of them see, and no other. -/
theorem views_agree {collation : Collation} {engine : Engine} {tables : Tables}
    (serves : engine.Serves collation tables.store) {consumer provider : Caller}
    {account account' : Cells}
    (asks : Perspective.classify consumer.role = .consumer)
    (grants : Perspective.classify provider.role ≠ .consumer)
    (server : provider.resourceServerUrl = consumer.resourceServerUrl)
    (registered : Registered tables consumer account)
    (registered' : Registered tables provider account') :
    ∃ asked granted,
      (build engine consumer .builtIn).result =
        .ok (.ofRecords consumer.resourceServerUrl asked) ∧
      (build engine provider .builtIn).result =
        .ok (.ofRecords provider.resourceServerUrl granted) ∧
      ∃ found shared, shared.Perm (granted.filter (Row.hasParty .consumer consumer.id.text)) ∧
        List.Forall₂ Row.SameMapping (asked.filter (Row.hasParty .provider provider.id.text))
          shared ∧
        (shared.map fun record => record.get? "requestId").Nodup ∧
        List.Forall₂ (Shows tables provider) found shared ∧ (found.map Prod.fst).Nodup ∧
        ∀ request, request ∈ found ↔
          Visible tables consumer request ∧ Visible tables provider request := by
  have sideC : consumer.side = .consumer := asks
  have sideP : provider.side = .provider := by
    cases side : provider.side with
    | consumer => exact absurd side grants
    | provider => rfl
  have facing : Facing tables consumer provider account account' :=
    ⟨by rw [sideC, sideP]; rfl, server, registered, registered'⟩
  obtain ⟨ms, found, asked⟩ := build_matches serves consumer
  obtain ⟨ms', found', granted⟩ := build_matches serves provider
  have askedOf := filter_records consumer provider.id.text ms
  have grantedOf := filter_records provider consumer.id.text ms'
  rw [sideC] at askedOf
  rw [sideP] at grantedOf
  have images := map_mirror_perm facing found found'
  refine ⟨_, _, asked, granted, (naming provider.id.text ms).map Match.request,
    ((naming provider.id.text ms).map (mirror consumer.id.text account)).map
      (Match.record provider), ?_, ?_, ?_, ?_, ?_, mem_requests_naming_iff facing found found'⟩
  · exact (images.map _).trans (.of_eq grantedOf.symm)
  · refine (congrArg (List.Forall₂ Row.SameMapping · _) askedOf).mpr ?_
    rw [List.forall₂_map_left_iff, List.forall₂_map_right_iff, List.forall₂_map_right_iff,
      List.forall₂_same]
    exact fun m mem => same_of_mem facing found found' mem
  · exact ((images.map _).map _).symm.nodup (requestIds_nodup found' consumer.id.text)
  · rw [List.forall₂_map_left_iff, List.forall₂_map_right_iff, List.forall₂_map_right_iff,
      List.forall₂_same]
    intro m mem
    exact shows_of_mem found' (mem_naming_iff.mp (mirror_mem facing found found' mem)).1
  · rw [List.map_map]
    exact naming_nodup found provider.id.text

/-- The account that is stored for a caller with an identifier in lower case is the caller's own. -/
theorem registered_accountOf {caller : Caller}
    (isLower : lower caller.id.text.toList = caller.id.text.toList)
    (stored : oneRequestTables.accounts.get? caller.id.text = some (accountOf caller)) :
    Registered oneRequestTables caller (accountOf caller) where
  lower_eq := isLower
  stored := stored
  email_eq := Cells.text?_of_held (held_accountOf caller).1
  firstName_eq := Cells.text?_of_held (held_accountOf caller).2.1
  lastName_eq := Cells.text?_of_held (held_accountOf caller).2.2

/-- Both callers see the one request, and each has one record that names the other: the record of
that request. -/
theorem views_agree_on_one_request :
    Visible oneRequestTables consumerCaller ("request", oneRequest) ∧
    Visible oneRequestTables providerCaller ("request", oneRequest) ∧
    ∃ asked granted mine theirs,
      (build (oneRequestTables.store.engine .embedded) consumerCaller .builtIn).result =
        .ok (.ofRecords "rs://a" asked) ∧
      (build (oneRequestTables.store.engine .embedded) providerCaller .builtIn).result =
        .ok (.ofRecords "rs://a" granted) ∧
      asked.filter (Row.hasParty .provider providerCaller.id.text) = [mine] ∧
      granted.filter (Row.hasParty .consumer consumerCaller.id.text) = [theirs] ∧
      mine.SameMapping theirs ∧ theirs.get? "requestId" = some (.text "request") := by
  refine ⟨visible_to_consumer, visible_to_provider, ?_⟩
  have consumer : Registered oneRequestTables consumerCaller (accountOf consumerCaller) :=
    registered_accountOf (UserId.lower_ofUuid _) consumer_stored
  have provider : Registered oneRequestTables providerCaller (accountOf providerCaller) :=
    registered_accountOf (UserId.lower_ofUuid _) provider_stored
  have server : providerCaller.resourceServerUrl = consumerCaller.resourceServerUrl := rfl
  obtain ⟨asked, granted, answer, answer', found, shared, perm, same, -, shows, distinct,
    visible⟩ := views_agree (oneRequestTables.engine_serves .embedded) rfl (by decide) server
      consumer provider
  -- The one request is found, and nothing else is stored.
  have one : found = [("request", oneRequest)] := by
    refine List.perm_singleton.mp ((List.perm_ext_iff_of_nodup (List.Nodup.of_map _ distinct)
      (List.nodup_singleton _)).mpr fun request => ?_)
    rw [visible, List.mem_singleton]
    constructor
    · rintro ⟨seen, -⟩
      exact List.mem_singleton.mp seen.stored
    · rintro rfl
      exact ⟨visible_to_consumer, visible_to_provider⟩
  subst one
  obtain ⟨theirs, rest, shown, none, rfl⟩ := List.forall₂_cons_left_iff.mp shows
  cases none
  obtain ⟨mine, rest, alike, none, mineOf⟩ := List.forall₂_cons_right_iff.mp same
  cases none
  exact ⟨asked, granted, mine, theirs, answer, answer', mineOf,
    List.perm_singleton.mp perm.symm, alike, shown.requestId_eq⟩

end Lookup

end AccessNotices
