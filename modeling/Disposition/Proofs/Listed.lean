import Disposition.Proofs.Dangling

/-!
# What is written is what is listed

A request that makes or changes a row is answered with the row. Listings show rows, too, and where a
rule is shown, the name of its destination is found another way: a write looks the destination up, a
listing goes through the destinations that are listed. Both show the same of the same row, and a
listing has each row once. So what a client was answered with is what it will find.

Results:
* `Server.Shows`: what is shown of a row.
* `Server.Wrote.shows`: what a write is answered with.
* `Server.listedName?_eq`: the two ways to the name of a destination.
* `Server.Shows.listed`: what is shown of a row is what a listing has, once.
* `Server.written_is_listed`: all of it.
-/

namespace Disposition

/-- The listing that shows what is written at an endpoint. -/
def Endpoint.listing? : Endpoint → Option Endpoint
  | destinations | destination _ => some destinations
  | rules | rule _ => some rules
  | _ => none

/-- To make and to change is to write. -/
theorem Endpoint.writes_of_allows {place collection : Endpoint}
    (hlisting : place.listing? = some collection) {method : String}
    (hmethod : method = "POST" ∨ method = "PATCH") (hallows : place.allows method = true) :
    place.writes method = true := by
  rcases hmethod with rfl | rfl <;> cases place with
  | about | health | validate | route | manual => cases hlisting
  | destinations | rules | destination | rule =>
    first
    | rfl
    | exact absurd hallows Bool.false_ne_true

/-- The identifier in the path of an endpoint. -/
def Endpoint.id? : Endpoint → Option String
  | destination id | rule id => some id
  | _ => none

/-- The value is an object with that identifier. -/
def Value.hasId (id : String) : Value → Bool
  | object members =>
    match members.lookup "id" with
    | some (text s) => s = id
    | _ => false
  | _ => false

namespace Server

/-- What is shown of the row of a shop with an identifier, and the listing that shows it. The name
of its destination is shown of a rule, unless the shop does not have the destination. -/
inductive Shows (store : Store) (shop id : String) : Endpoint → Value → Prop
  /-- A destination. -/
  | destination {row : DestinationRow} (h : store.destination? shop id = some row) :
      Shows store shop id .destinations row.toValue
  /-- A rule. -/
  | rule {row : RuleRow} (h : store.rule? shop id = some row) :
      Shows store shop id .rules
        (row.toValue ((store.destination? shop row.destinationId).map (·.name)))

/-! ## Writing -/

/-- **A write is answered with what is shown of the row**: the one that the path names, or else the
one that got the fresh identifier. -/
theorem Wrote.shows {fresh : Stamp} {request : Request} {store after : Store}
    {response : Response} (h : Wrote fresh request store response after) (hs : after.Sound)
    (hkept : request.method ≠ "DELETE") {place collection : Endpoint}
    (hplace : request.endpoint? = some place) (hlisting : place.listing? = some collection) :
    ∃ entry, response.body = .data entry ∧
      Shows after request.shop (place.id?.getD fresh.id) collection entry := by
  cases h with
  | @madeDestination data row hasks hrow hnew =>
    have hfits := hasks.isBounded.1
    cases hasks with
    | createDestination hat hmethod hdata =>
      obtain rfl := Option.some.inj (hplace.symm.trans hat)
      obtain rfl := Option.some.inj hlisting
      have hkey := DestinationRow.key_of_fits hfits hrow
      refine ⟨_, rfl, .destination (Table.find?_of_mem hs.destinations ?_ hkey)⟩
      exact List.mem_append_right _ List.mem_cons_self
  | @changedDestination id data old row hasks hold hrow =>
    cases hasks with
    | updateDestination hat hmethod hdata =>
      obtain rfl := Option.some.inj (hplace.symm.trans hat)
      obtain rfl := Option.some.inj hlisting
      have hsame := (DestinationRow.patch_ok hrow).1
      have hkey := Table.key_of_find?_some hold
      have hstands :=
        DestinationRow.mem_map_giveWay_kept data (Table.find?_some hold).1 hkey
      exact ⟨_, rfl, .destination (Table.find?_of_mem hs.destinations
        ((Table.mem_replace hstands (congrArg Prod.fst hsame)).mpr (.inl rfl))
        (hsame.trans hkey))⟩
  -- a write of a rule leaves the destinations, so the name of its destination stays
  | @madeRule data destination row hasks hnamed hrow hnew =>
    have hfits := hasks.isBounded.1
    have hfound : Store.destination? { store with rules := store.rules ++ [row] } request.shop
        row.destinationId = some destination :=
      destination?_of_named hnamed (RuleRow.ofData_ok hrow).2.2.2
    cases hasks with
    | createRule hat hmethod hdata =>
      obtain rfl := Option.some.inj (hplace.symm.trans hat)
      obtain rfl := Option.some.inj hlisting
      have hkey := RuleRow.key_of_fits hfits hrow
      have hshows : Shows _ request.shop fresh.id .rules _ :=
        .rule (Table.find?_of_mem hs.rules (List.mem_append_right _ List.mem_cons_self) hkey)
      rw [hfound] at hshows
      exact ⟨_, rfl, hshows⟩
  | @changedRule id data old row hasks hknown hold hrow =>
    cases hasks with
    | updateRule hat hmethod hdata =>
      obtain rfl := Option.some.inj (hplace.symm.trans hat)
      obtain rfl := Option.some.inj hlisting
      have hsame := (RuleRow.patch_ok hrow).1
      exact ⟨_, rfl, .rule (Table.find?_of_mem hs.rules
        ((Table.mem_replace (Table.find?_some hold).1 (congrArg Prod.fst hsame)).mpr (.inl rfl))
        (hsame.trans (Table.key_of_find?_some hold)))⟩
  | deletedDestination hasks hold =>
    cases hasks with
    | deleteDestination hat hmethod => exact absurd hmethod hkept
  | deletedRule hasks hold =>
    cases hasks with
    | deleteRule hat hmethod => exact absurd hmethod hkept

/-! ## Listing -/

/-- **Listings find the names of destinations** as they are stored. -/
theorem listedName?_eq {store : Store} (hs : store.Sound) (shop id : String) :
    listedName? (store.listDestinations shop) id = (store.destination? shop id).map (·.name) :=
  congrArg (Option.map fun row : DestinationRow => row.name)
    (Store.find?_listDestinations hs shop id)

/-- The values of rows that have an identifier are the values of the rows that have it. -/
theorem filter_hasId {ρ : Type} [ShopRow ρ] {rows : List ρ} (hd : Table.Distinct rows)
    {value : ρ → Value} (hvalue : ∀ id row, (value row).hasId id = decide (ShopRow.id row = id))
    {row : ρ} (hm : row ∈ rows) :
    (rows.map value).filter (Value.hasId (ShopRow.id row)) = [value row] := by
  rw [List.filter_map]
  have hids : (Value.hasId (ShopRow.id row) ∘ value) =
      fun other => decide (ShopRow.id other = ShopRow.id row) :=
    funext fun other => hvalue (ShopRow.id row) other
  rw [hids, hd.filter_id hm]
  rfl

section List

variable (settings : ServerSettings) (store : Store) {call : Call}

theorem answer_listDestinations (hplace : call.request.endpoint? = some .destinations)
    (hmethod : call.request.method = "GET") :
    (answer settings store call).1.status = 200 ∧
      (answer settings store call).1.body =
        .data (listing ((store.listDestinations call.request.shop).map (·.toValue))) := by
  have hhandle : handle call.fresh call.request .destinations =
      listDestinations call.request.shop := by
    unfold handle
    simp only [hmethod]
    rfl
  exact answer_found settings store _ hplace hmethod rfl
    (congrArg (Work.session · store) hhandle)

/-- Rules are listed with the names that their destinations have in the shop. -/
theorem answer_listRules (hs : store.Sound) (hplace : call.request.endpoint? = some .rules)
    (hmethod : call.request.method = "GET") :
    (answer settings store call).1.status = 200 ∧
      (answer settings store call).1.body =
        .data (listing ((store.listRules call.request.shop false).map fun row => row.toValue
          ((store.destination? call.request.shop row.destinationId).map (·.name)))) := by
  have hhandle : handle call.fresh call.request .rules = listRules call.request.shop := by
    unfold handle
    simp only [hmethod]
    rfl
  have hfound := answer_found settings store _ hplace hmethod rfl
    (congrArg (Work.session · store) hhandle)
  simp only [listedName?_eq hs] at hfound
  exact hfound

variable {settings store}

/-- **A listing has what is shown of a row**, and has it once. -/
theorem Shows.listed {id : String} {collection : Endpoint} {entry : Value}
    (h : Shows store call.request.shop id collection entry) (hs : store.Sound)
    (hplace : call.request.endpoint? = some collection) (hmethod : call.request.method = "GET") :
    (answer settings store call).1.status = 200 ∧
      ∃ entries, (answer settings store call).1.body = .data (listing entries) ∧
        entries.filter (Value.hasId id) = [entry] := by
  cases h with
  | @destination row hrow =>
    obtain ⟨hstatus, hbody⟩ := answer_listDestinations settings store hplace hmethod
    obtain ⟨hm, rfl, hshop⟩ := Table.find?_some hrow
    exact ⟨hstatus, _, hbody, filter_hasId (hs.distinct_listDestinations _) (fun _ _ => rfl)
      (Store.mem_listDestinations.mpr ⟨hm, hshop⟩)⟩
  | @rule row hrow =>
    obtain ⟨hstatus, hbody⟩ := answer_listRules settings store hs hplace hmethod
    obtain ⟨hm, rfl, hshop⟩ := Table.find?_some hrow
    exact ⟨hstatus, _, hbody, filter_hasId (hs.distinct_listRules _ false) (fun _ _ => rfl)
      (Store.mem_listRules.mpr ⟨hm, hshop, fun h => absurd h Bool.false_ne_true⟩)⟩

/-- A write that succeeds is answered with what is shown of its row. -/
theorem shows_of_isSuccess {response : Response} {after : Store}
    (hanswer : answer settings store call = (response, after)) (hs : after.Sound)
    {place collection : Endpoint} (hplace : call.request.endpoint? = some place)
    (hlisting : place.listing? = some collection) (hwrites : call.request.writes = true)
    (hkept : call.request.method ≠ "DELETE") (hsuccess : response.isSuccess = true) :
    ∃ entry, response.body = .data entry ∧
      Shows after call.request.shop (place.id?.getD call.fresh.id) collection entry := by
  have hcases := answer_cases settings store call
  rw [hanswer] at hcases
  rcases hcases with ⟨written, hwrote, hmark⟩ | ⟨-, hrefused⟩
  · obtain ⟨entry, hbody, hshows⟩ := hwrote.shows hs hkept hplace hlisting
    refine ⟨entry, ?_, hshows⟩
    rw [← hbody, ← mark_body settings call.request written, ← hmark]
  · rw [hrefused hwrites] at hsuccess
    cases hsuccess

end List

/-- **What is written is what is listed.** After any run of calls, a call that makes or changes a
row, and succeeds, is answered with an entry, and the listing that the shop is shown next has that
entry for the identifier of the row, and no other. For a rule this entry says the name that the
destination of the rule has in the shop, or none if the shop does not have it. -/
theorem written_is_listed (settings : ServerSettings) (calls : List Call) (call list : Call)
    {place collection : Endpoint} (hplace : call.request.endpoint? = some place)
    (hlisting : place.listing? = some collection)
    (hmethod : call.request.method = "POST" ∨ call.request.method = "PATCH")
    (hsuccess : (answer settings (stores settings {} calls) call).1.isSuccess = true)
    (hlist : list.request.endpoint? = some collection) (hget : list.request.method = "GET")
    (hshop : list.request.shop = call.request.shop) :
    let written := answer settings (stores settings {} calls) call
    let listed := (answer settings written.2 list).1
    ∃ entry entries, written.1.body = .data entry ∧
      Shows written.2 call.request.shop (place.id?.getD call.fresh.id) collection entry ∧
        listed.status = 200 ∧ listed.body = .data (listing entries) ∧
          entries.filter (Value.hasId (place.id?.getD call.fresh.id)) = [entry] := by
  have hother : ∀ {method}, method ≠ "POST" → method ≠ "PATCH" → call.request.method ≠ method := by
    rintro _ hpost hpatch rfl
    exact hmethod.elim hpost hpatch
  -- the two methods can be had at other endpoints than those that write, but are no success there
  have hallows := allows_of_isSuccess hplace (hother (by decide) (by decide)) hsuccess
  have hwrites : call.request.writes = true :=
    Request.writes_iff.mpr ⟨place, hplace, Endpoint.writes_of_allows hlisting hmethod hallows⟩
  have hreach := reachable_stores settings .empty (calls ++ [call])
  rw [stores_concat] at hreach
  obtain ⟨entry, hbody, hshows⟩ := shows_of_isSuccess (Prod.eta _).symm hreach.sound hplace hlisting
    hwrites (hother (by decide) (by decide)) hsuccess
  have hsame := hshows
  rw [← hshop] at hsame
  obtain ⟨hstatus, entries, hentries, hfilter⟩ := hsame.listed hreach.sound hlist hget
  exact ⟨entry, entries, hbody, hshows, hstatus, hentries, hfilter⟩

/-- A request for the rules of a shop. -/
def askRules : Request where
  method := "GET"
  target := "/api/routing/rules"

/-- A rule whose destination was deleted gets another priority, and is listed as it was answered
with. -/
theorem written_is_listed_lostPlace :
    let written := answer {} (stores {} {} lostPlace) ⟨.named "", newPriority 5⟩
    let listed := (answer {} written.2 ⟨.named "", askRules⟩).1
    ∃ entry entries, written.1.body = .data entry ∧
      Shows written.2 (newPriority 5).shop "r1" .rules entry ∧
        listed.status = 200 ∧ listed.body = .data (listing entries) ∧
          entries.filter (Value.hasId "r1") = [entry] := by
  have hplace : (newPriority 5).endpoint? = some (.rule "r1") := by decide +kernel
  have hsuccess :
      (answer {} (stores {} {} lostPlace) ⟨.named "", newPriority 5⟩).1.isSuccess = true := by
    rw [stores_lostPlace]
    decide +kernel
  exact written_is_listed {} lostPlace ⟨.named "", newPriority 5⟩ ⟨.named "", askRules⟩ hplace rfl
    (.inr rfl) hsuccess (by decide +kernel) rfl (by decide +kernel)

end Server

end Disposition
