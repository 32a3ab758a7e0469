import Disposition.Proofs.Acceptance
import Disposition.Proofs.Verdict

/-!
# Rules whose destinations were deleted

A rule keeps the identifier of its destination when the destination is deleted. Nothing in the
store keeps the two together: a rule is only made and changed while its shop has the destination
that it is to name, and destinations get new identifiers. So a rule names a destination that its
shop once made, and the report on the shop names the rule if and only if that destination was
deleted since.

What was made and deleted is read off the responses (`Exchange.effect?`), and what it does to the
store is `Server.Changes`.

Results:
* `Server.changes_answer`: what a client learns of a call is what it did to the store.
* `Server.mem_keys_iff_not_deleted`: a destination that was made is there until it is deleted.
* `Server.exists_made`: the destination that a rule names was made.
* `Server.exists_later`: a rule keeps its destination until it is deleted or changed to another one.
* `Server.dangling_iff_deleted`: what the report says of rules.
-/

namespace Disposition

/-! ## What responses say -/

/-- What a client learns of a success. -/
inductive Effect
  /-- A destination was made. -/
  | madeDestination (id shop : String)
  /-- A destination was changed. -/
  | changedDestination (id shop : String)
  /-- A destination was deleted. -/
  | deletedDestination (id shop : String)
  /-- A rule was made, to a destination. -/
  | madeRule (id shop destinationId : String)
  /-- A rule was changed, and now is to a destination. -/
  | changedRule (id shop destinationId : String)
  /-- A rule was deleted. -/
  | deletedRule (id shop : String)
  deriving DecidableEq, Repr

/-- A text in the data of a response. -/
def Response.text? (response : Response) (name : String) : Option String :=
  match response.body with
  | .data (.object members) =>
    match members.lookup name with
    | some (.text s) => some s
    | _ => none
  | _ => none

/-- What a client learns of an exchange. -/
def Exchange.effect? (exchange : Exchange) : Option Effect :=
  let shop := exchange.request.shop
  let method := exchange.request.method
  let id? := exchange.response.text? "id"
  let destinationId? := exchange.response.text? "destination_id"
  if exchange.response.isSuccess then
    match exchange.request.endpoint? with
    | some .destinations =>
      if method = "POST" then id?.map fun id => .madeDestination id shop else none
    | some (.destination id) =>
      if method = "PATCH" then some (.changedDestination id shop)
      else if method = "DELETE" then some (.deletedDestination id shop)
      else none
    | some .rules =>
      if method = "POST" then
        id?.bind fun id => destinationId?.map fun destinationId => .madeRule id shop destinationId
      else none
    | some (.rule id) =>
      if method = "PATCH" then
        destinationId?.map fun destinationId => .changedRule id shop destinationId
      else if method = "DELETE" then some (.deletedRule id shop)
      else none
    | _ => none
  else none

/-- The identifier that a destination got, if one was made. -/
def Exchange.issued? (exchange : Exchange) : Option String :=
  match exchange.effect? with
  | some (.madeDestination id _) => some id
  | _ => none

namespace Server

open DestinationRow (giveWay)

/-- A change of the store, and what a client learns of it. -/
inductive Changes (store : Store) : Option Effect → Store → Prop
  /-- A destination is made. -/
  | madeDestination {data : Data} (row : DestinationRow) :
      Changes store (some (.madeDestination row.id row.shop))
        { store with
          destinations := store.destinations.map (giveWay data row.shop none) ++ [row] }
  /-- A destination is changed. -/
  | changedDestination {data : Data} {old row : DestinationRow} (hold : old ∈ store.destinations)
      (hsame : Table.key row = Table.key old) :
      Changes store (some (.changedDestination row.id row.shop))
        { store with
          destinations :=
            Table.replace (store.destinations.map (giveWay data row.shop (some row.id))) row }
  /-- A destination is deleted. -/
  | deletedDestination (id shop : String) :
      Changes store (some (.deletedDestination id shop))
        { store with destinations := Table.erase store.destinations shop id }
  /-- A rule is made to a destination that its shop has. -/
  | madeRule {row : RuleRow}
      (hknown : (row.destinationId, row.shop) ∈ Table.keys store.destinations) :
      Changes store (some (.madeRule row.id row.shop row.destinationId))
        { store with rules := store.rules ++ [row] }
  /-- A rule is changed, and keeps its destination or gets one that its shop has. -/
  | changedRule {old row : RuleRow} (hold : old ∈ store.rules)
      (hsame : Table.key row = Table.key old)
      (hknown : row.destinationId = old.destinationId ∨
        (row.destinationId, row.shop) ∈ Table.keys store.destinations) :
      Changes store (some (.changedRule row.id row.shop row.destinationId))
        { store with rules := Table.replace store.rules row }
  /-- A rule is deleted. -/
  | deletedRule (id shop : String) :
      Changes store (some (.deletedRule id shop))
        { store with rules := Table.erase store.rules shop id }
  /-- Nothing is changed. -/
  | nothing : Changes store none store

theorem known_of_changedBy {store : Store} {shop : String} {data : Data} {old row : RuleRow}
    (hknown : namesUnknown store shop data = false) (h : old.ChangedBy data row) :
    row.destinationId = old.destinationId ∨
      (row.destinationId, shop) ∈ Table.keys store.destinations := by
  have hturns := Data.text_of_turns h.destinationId
  unfold namesUnknown Data.cell at hknown
  cases hl : data.lookup "destination_id" with
  | none =>
    rw [hl] at hturns
    exact .inl hturns
  | some cell =>
    simp only [hl, Option.getD_some] at hturns hknown
    rw [hturns, Option.any_some, Option.isNone_eq_false_iff] at hknown
    exact .inr (Table.find?_isSome_iff.mp hknown)

theorem effect?_mark (call : Call) (settings : ServerSettings) (response : Response) :
    Exchange.effect? { call with response := CrossOrigin.mark settings call.request response } =
      Exchange.effect? { call with response } := by
  unfold Exchange.effect? Response.text?
  rw [isSuccess_mark, mark_body]

/-- **What a client learns of a write is what it did.** -/
theorem Wrote.changes {call : Call} {store after : Store} {response : Response}
    (h : Wrote call.fresh call.request store response after) :
    Changes store (Exchange.effect? { call with response }) after := by
  unfold Exchange.effect?
  cases h with
  | @madeDestination data row hasks hrow hnew =>
    obtain ⟨hshop, -⟩ := DestinationRow.ofData_ok hrow
    cases hasks with
    | createDestination hplace hmethod =>
      have hchange := @Changes.madeDestination store data row
      simp only [hplace, hmethod, if_true]
      rwa [hshop] at hchange
  | @changedDestination id data old row hasks hold hrow =>
    obtain ⟨hm, hid, hshop⟩ := Table.find?_some hold
    obtain ⟨hsame, -⟩ := DestinationRow.patch_ok hrow
    have hrowid : row.id = id := (congrArg Prod.fst hsame).trans hid
    have hrowshop : row.shop = call.request.shop := (congrArg Prod.snd hsame).trans hshop
    cases hasks with
    | updateDestination hplace hmethod =>
      have hchange := @Changes.changedDestination store data old row hm hsame
      simp only [hplace, hmethod, if_true]
      rwa [hrowid, hrowshop] at hchange
  | @deletedDestination id old hasks hold =>
    cases hasks with
    | deleteDestination hplace hmethod =>
      simp only [hplace, hmethod, String.reduceEq, if_false, if_true]
      exact .deletedDestination id call.request.shop
  | @madeRule data destination row hasks hnamed hrow hnew =>
    obtain ⟨hshop, -, -, hfilled⟩ := RuleRow.ofData_ok hrow
    have hfound := destination?_of_named hnamed hfilled
    have hknown := Table.find?_isSome_iff.mp (Option.isSome_of_eq_some hfound)
    cases hasks with
    | createRule hplace hmethod =>
      rw [← hshop] at hknown
      have hchange := Changes.madeRule hknown
      simp only [hplace, hmethod, if_true]
      rwa [hshop] at hchange
  | @changedRule id data old row hasks hknown hold hrow =>
    obtain ⟨hm, hid, hshop⟩ := Table.find?_some hold
    obtain ⟨hsame, -, hchanged⟩ := RuleRow.patch_ok hrow
    have hrowid : row.id = id := (congrArg Prod.fst hsame).trans hid
    have hrowshop : row.shop = call.request.shop := (congrArg Prod.snd hsame).trans hshop
    have hnamed := known_of_changedBy hknown hchanged
    cases hasks with
    | updateRule hplace hmethod =>
      rw [← hrowshop] at hnamed
      have hchange := Changes.changedRule hm hsame hnamed
      simp only [hplace, hmethod, if_true]
      rwa [hrowid, hrowshop] at hchange
  | @deletedRule id old hasks hold =>
    cases hasks with
    | deleteRule hplace hmethod =>
      simp only [hplace, hmethod, String.reduceEq, if_false, if_true]
      exact .deletedRule id call.request.shop

/-- There is nothing to learn of a response unless the request wrote. -/
theorem effect?_eq_none {exchange : Exchange}
    (h : exchange.request.writes = true → exchange.response.isSuccess = false) :
    exchange.effect? = none := by
  unfold Exchange.effect?
  cases hsuccess : exchange.response.isSuccess with
  | false => rfl
  | true =>
    have hwrites : ¬exchange.request.writes = true := fun hw => by
      rw [h hw] at hsuccess
      cases hsuccess
    have hnot : ∀ endpoint, exchange.request.endpoint? = some endpoint →
        ¬endpoint.writes exchange.request.method = true := fun endpoint hplace hw =>
      hwrites (Request.writes_iff.mpr ⟨endpoint, hplace, hw⟩)
    simp only [if_true]
    cases hplace : exchange.request.endpoint? with
    | none => rfl
    | some endpoint =>
      have hmethod := hnot endpoint hplace
      cases endpoint with
      | destinations | rules => exact if_neg fun h => hmethod (decide_eq_true h)
      | destination id | rule id =>
        simp only [Endpoint.writes, Bool.or_eq_true, decide_eq_true_eq, not_or] at hmethod
        simp only [if_neg hmethod.1, if_neg hmethod.2]
      | about | health | validate | route | manual => rfl

/-- **What a client learns of a call is what it did to the store.** -/
theorem changes_answer (settings : ServerSettings) (store : Store) (call : Call) :
    Changes store (Exchange.effect? { call with response := (answer settings store call).1 })
      (answer settings store call).2 := by
  rcases answer_cases settings store call with ⟨response, hwrote, hresponse⟩ | ⟨hsame, hrefused⟩
  · rw [hresponse, effect?_mark]
    exact hwrote.changes
  · have hnone : Exchange.effect? { call with response := (answer settings store call).1 } = none :=
      effect?_eq_none hrefused
    rw [hsame, hnone]
    exact .nothing

/-! ## One change -/

section Change

variable {store after : Store} {effect? : Option Effect} (h : Changes store effect? after)

include h

/-- **The destinations after a change**: the one that was made, and those that were there and not
deleted. -/
theorem Changes.mem_keys_iff (hs : store.Sound) {id shop : String} :
    (id, shop) ∈ Table.keys after.destinations ↔
      effect? = some (.madeDestination id shop) ∨
        (id, shop) ∈ Table.keys store.destinations ∧
          effect? ≠ some (.deletedDestination id shop) := by
  cases h with
  | @madeDestination data row =>
    rw [Table.mem_keys_append, Table.keys_map (DestinationRow.giveWay_keeps _ _ _ _), or_comm]
    simp [Table.key, ShopRow.id, ShopRow.shop, eq_comm]
  | @changedDestination data old row hold hsame =>
    have hkey : Table.key old = (row.id, row.shop) := hsame.symm
    rw [DestinationRow.replace_giveWay,
      Table.keys_map (DestinationRow.settle_keeps hs.destinations hold hkey hsame)]
    simp
  | deletedDestination other owner =>
    rw [Table.mem_keys_erase]
    simp [eq_comm]
  | madeRule | changedRule | deletedRule | nothing => simp

/-- A rule after a change names the destination that it or its predecessor named, or one that its
shop had. -/
theorem Changes.named {row : RuleRow} (hm : row ∈ after.rules) :
    (∃ old ∈ store.rules, old.shop = row.shop ∧ old.destinationId = row.destinationId) ∨
      (row.destinationId, row.shop) ∈ Table.keys store.destinations := by
  cases h with
  | madeDestination | changedDestination | deletedDestination | nothing =>
    exact .inl ⟨row, hm, rfl, rfl⟩
  | @madeRule made hknown =>
    rcases List.mem_append.mp hm with hm | hm
    · exact .inl ⟨row, hm, rfl, rfl⟩
    · obtain rfl := List.mem_singleton.mp hm
      exact .inr hknown
  | @changedRule old changed hold hsame hknown =>
    rcases (Table.mem_replace hold (congrArg Prod.fst hsame)).mp hm with rfl | ⟨hm, -⟩
    · rcases hknown with he | hknown
      · exact .inl ⟨old, hold, (congrArg Prod.snd hsame).symm, he.symm⟩
      · exact .inr hknown
    · exact .inl ⟨row, hm, rfl, rfl⟩
  | deletedRule => exact .inl ⟨row, (Table.mem_erase.mp hm).1, rfl, rfl⟩

/-- A rule stays, with its destination, until it is deleted or changed to another destination. -/
theorem Changes.stays {row : RuleRow} (hm : row ∈ store.rules)
    (hdeleted : effect? ≠ some (.deletedRule row.id row.shop))
    (hchanged : ∀ destinationId, effect? = some (.changedRule row.id row.shop destinationId) →
      destinationId = row.destinationId) (hs : store.Sound) :
    ∃ later ∈ after.rules,
      later.id = row.id ∧ later.shop = row.shop ∧ later.destinationId = row.destinationId := by
  cases h with
  | madeDestination | changedDestination | deletedDestination | nothing =>
    exact ⟨row, hm, rfl, rfl, rfl⟩
  | madeRule => exact ⟨row, List.mem_append_left _ hm, rfl, rfl, rfl⟩
  | @changedRule old changed hold hsame _ =>
    have hid : changed.id = old.id := congrArg Prod.fst hsame
    have hshop : changed.shop = old.shop := congrArg Prod.snd hsame
    by_cases he : row.id = changed.id
    · -- it is the changed one
      obtain rfl := hs.rules.eq hm hold (he.trans hid)
      refine ⟨changed, (Table.mem_replace hold hid).mpr (.inl rfl), hid, hshop, ?_⟩
      exact hchanged _ (by rw [hid, hshop])
    · exact ⟨row, (Table.mem_replace hold hid).mpr (.inr ⟨hm, he⟩), rfl, rfl, rfl⟩
  | deletedRule id shop =>
    refine ⟨row, Table.mem_erase.mpr ⟨hm, fun hnamed => hdeleted ?_⟩, rfl, rfl, rfl⟩
    rw [← hnamed.1, ← hnamed.2]
    rfl

end Change

/-! ## Runs -/

section Runs

variable {settings : ServerSettings} {calls : List Call}

theorem exchanges_concat (store : Store) (calls : List Call) (call : Call) :
    exchanges settings store (calls ++ [call]) =
      exchanges settings store calls ++
        [{ call with response := (answer settings (stores settings store calls) call).1 }] :=
  exchanges_append calls [call]

theorem stores_concat (store : Store) (calls : List Call) (call : Call) :
    stores settings store (calls ++ [call]) =
      (answer settings (stores settings store calls) call).2 :=
  stores_append calls [call]

/-- The last of some calls, and what was before it. -/
theorem changes_concat (settings : ServerSettings) (calls : List Call) (call : Call) :
    ∃ last, exchanges settings {} (calls ++ [call]) = exchanges settings {} calls ++ [last] ∧
      Changes (stores settings {} calls) last.effect? (stores settings {} (calls ++ [call])) := by
  refine ⟨_, exchanges_concat {} calls call, ?_⟩
  rw [stores_concat]
  exact changes_answer settings _ call

theorem issued?_of_made {exchange : Exchange} {id shop : String}
    (h : exchange.effect? = some (.madeDestination id shop)) : exchange.issued? = some id := by
  unfold Exchange.issued?
  rw [h]

/-- **A destination that was made is there until it is deleted**, if no identifier is issued
twice. -/
theorem mem_keys_iff_not_deleted
    (hissued : ((exchanges settings {} calls).filterMap Exchange.issued?).Nodup)
    {before later : List Exchange} {making : Exchange} {id shop : String}
    (hsplit : exchanges settings {} calls = before ++ making :: later)
    (hmade : making.effect? = some (.madeDestination id shop)) :
    (id, shop) ∈ Table.keys (stores settings {} calls).destinations ↔
      ∀ exchange ∈ later, exchange.effect? ≠ some (.deletedDestination id shop) := by
  induction calls using List.reverseRecOn generalizing later with
  | nil => exact absurd hsplit (by simp [exchanges])
  | append_singleton calls call ih =>
    obtain ⟨last, hlast, hchange⟩ := changes_concat settings calls call
    have hsound := (reachable_stores settings .empty calls).sound
    rw [hchange.mem_keys_iff hsound]
    rw [hlast] at hissued hsplit
    rcases later.eq_nil_or_concat with rfl | ⟨between, final, rfl⟩
    · -- it was made just now
      obtain ⟨-, rfl⟩ := List.append_singleton_inj.mp hsplit
      exact iff_of_true (.inl hmade) fun _ hm => absurd hm List.not_mem_nil
    · rw [List.concat_eq_append] at hsplit ⊢
      rw [← List.cons_append, ← List.append_assoc] at hsplit
      obtain ⟨hbefore, rfl⟩ := List.append_singleton_inj.mp hsplit
      rw [List.filterMap_append] at hissued
      obtain ⟨hfirst, -, hdiffer⟩ := List.nodup_append.mp hissued
      -- the identifier is not issued again
      have hother : last.effect? ≠ some (.madeDestination id shop) := fun hagain =>
        hdiffer id (List.mem_filterMap.mpr ⟨making, by simp [hbefore], issued?_of_made hmade⟩)
          id (List.mem_filterMap.mpr ⟨last, List.mem_singleton_self _, issued?_of_made hagain⟩) rfl
      rw [ih hfirst hbefore, or_iff_right hother, List.forall_mem_append,
        List.forall_mem_singleton]

/-- What the store names of destinations was made: what is there, and what rules name. -/
theorem exists_made :
    (∀ id shop, (id, shop) ∈ Table.keys (stores settings {} calls).destinations →
        ∃ exchange ∈ exchanges settings {} calls,
          exchange.effect? = some (.madeDestination id shop)) ∧
      ∀ row ∈ (stores settings {} calls).rules,
        ∃ exchange ∈ exchanges settings {} calls,
          exchange.effect? = some (.madeDestination row.destinationId row.shop) := by
  induction calls using List.reverseRecOn with
  | nil => exact ⟨fun _ _ hm => absurd hm List.not_mem_nil, fun _ hm => absurd hm List.not_mem_nil⟩
  | append_singleton calls call ih =>
    obtain ⟨last, hlast, hchange⟩ := changes_concat settings calls call
    have hsound := (reachable_stores settings .empty calls).sound
    rw [hlast]
    refine ⟨fun id shop hm => ?_, fun row hm => ?_⟩
    · rcases (hchange.mem_keys_iff hsound).mp hm with hmade | ⟨hm, -⟩
      · exact ⟨last, List.mem_append_right _ (List.mem_singleton_self _), hmade⟩
      · obtain ⟨exchange, he, hmade⟩ := ih.1 id shop hm
        exact ⟨exchange, List.mem_append_left _ he, hmade⟩
    · have hbefore : ∃ exchange ∈ exchanges settings {} calls,
          exchange.effect? = some (.madeDestination row.destinationId row.shop) := by
        rcases hchange.named hm with ⟨old, hold, hshop, hdestination⟩ | hknown
        · rw [← hshop, ← hdestination]
          exact ih.2 old hold
        · exact ih.1 _ _ hknown
      obtain ⟨exchange, he, hmade⟩ := hbefore
      exact ⟨exchange, List.mem_append_left _ he, hmade⟩

/-- A rule stays through some calls, with its destination, unless it is deleted or changed to
another destination. -/
theorem exists_later {store : Store} (hr : store.Reachable) {more : List Call} {row : RuleRow}
    (hm : row ∈ store.rules)
    (hdeleted : ∀ exchange ∈ exchanges settings store more,
      exchange.effect? ≠ some (.deletedRule row.id row.shop))
    (hchanged : ∀ exchange ∈ exchanges settings store more, ∀ destinationId,
      exchange.effect? = some (.changedRule row.id row.shop destinationId) →
        destinationId = row.destinationId) :
    ∃ later ∈ (stores settings store more).rules,
      later.id = row.id ∧ later.shop = row.shop ∧ later.destinationId = row.destinationId := by
  induction more generalizing store row with
  | nil => exact ⟨row, hm, rfl, rfl, rfl⟩
  | cons call more ih =>
    have hchange := changes_answer settings store call
    obtain ⟨next, hnext, hid, hshop, hdestination⟩ := hchange.stays hm
      (hdeleted _ List.mem_cons_self) (hchanged _ List.mem_cons_self) hr.sound
    have hafter : (answer settings store call).2.Reachable :=
      reachable_stores settings hr [call]
    obtain ⟨later, hlater, hsame⟩ := ih hafter hnext
      (fun exchange he => by
        rw [hid, hshop]
        exact hdeleted exchange (List.mem_cons_of_mem _ he))
      (fun exchange he => by
        rw [hid, hshop, hdestination]
        exact hchanged exchange (List.mem_cons_of_mem _ he))
    rw [hid, hshop, hdestination] at hsame
    exact ⟨later, hlater, hsame⟩

end Runs

end Server

/-! ## Reports -/

theorem Issue.dangling_mem_ofRule_iff {knownIds : List String} {rule : Rule} :
    dangling rule.name ∈ ofRule knownIds rule ↔ ¬isJoined knownIds rule = true := by
  unfold ofRule
  cases isJoined knownIds rule <;> cases isUnreadable rule <;> simp

namespace Store

variable {store : Store} {shop : String}

/-- The problems that the report on a shop names of one of its rules. -/
def issuesOf (store : Store) (shop : String) (row : RuleRow) : List Issue :=
  let destinations := store.loadDestinations shop
  Issue.ofRule (destinations.map (·.id)) (row.toRule destinations)

/-- **A rule is reported to have no destination** if and only if its shop does not have the one that
it names. -/
theorem dangling_mem_issuesOf_iff (hs : store.Sound) {row : RuleRow} :
    Issue.dangling row.name ∈ store.issuesOf shop row ↔
      (row.destinationId, shop) ∉ Table.keys store.destinations := by
  refine Issue.dangling_mem_ofRule_iff.trans (not_congr ?_)
  exact (isJoined_toRule_iff hs row).trans Table.find?_isSome_iff

/-- The problems of a shop are those of its rules one after the other. What is before and after them
is not of single rules. -/
theorem issues_eq (store : Store) (shop : String) :
    ∃ first last : List Issue,
      store.issues shop =
          first ++ (store.listRules shop false).flatMap (store.issuesOf shop) ++ last ∧
        ∀ name, Issue.dangling name ∉ first ++ last := by
  refine ⟨Issue.ofDestinations (store.loadDestinations shop),
    Issue.ofPriorities (store.snapshot shop false).rules, ?_, fun name hm => ?_⟩
  · have hrules : (store.snapshot shop false).rules.flatMap
          (Issue.ofRule ((store.loadDestinations shop).map (·.id))) =
        (store.listRules shop false).flatMap (store.issuesOf shop) := by
      unfold snapshot loadRules
      rw [List.flatMap_map]
      rfl
    rw [← hrules]
    rfl
  · rcases List.mem_append.mp hm with hm | hm
    · unfold Issue.ofDestinations at hm
      split at hm
      · cases List.mem_singleton.mp hm
      · split at hm
        · exact absurd hm List.not_mem_nil
        · cases List.mem_singleton.mp hm
    · obtain ⟨priority, -, he⟩ := List.mem_map.mp hm
      cases he

/-- What a shop has stored can be written: operands are texts, and priorities have 64 bits. -/
theorem isWritable_of_mem_issues (hwords : Server.WordPriorities store) {issue : Issue}
    (hm : issue ∈ store.issues shop) (room : Nat) : issue.IsWritable room := by
  cases issue with
  | noDestinations | noDefault | dangling _ => trivial
  | unreadableThreshold name operand =>
    obtain ⟨rule, hrule, -, -, rfl⟩ := Issue.unreadable_mem_list_iff.mp hm
    obtain ⟨row, -, rfl⟩ := List.mem_map.mp hrule
    exact ⟨Value.areShort_nil, Nat.zero_le room⟩
  | sharedPriority p =>
    have hp := Issue.mem_of_mem_repeated (Issue.sharedPriority_mem_list_iff.mp hm)
    obtain ⟨rule, hrule, rfl⟩ := List.mem_map.mp hp
    obtain ⟨row, hrow, rfl⟩ := List.mem_map.mp (List.mem_of_mem_filter hrule)
    obtain ⟨n, hpriority, hword⟩ := hwords row (mem_listRules.mp hrow).1
    rintro m hm
    obtain rfl : n = m := Priority.integer.inj (hpriority.symm.trans hm)
    exact Value.lt_sizeLimit_of_isWord hword

/-- **There is a report on every shop** that has stored what can be written. -/
theorem exists_validate_of_wordPriorities (hwords : Server.WordPriorities store) (shop : String) :
    ∃ report events, store.validate shop = .ok (report, events) ∧
      List.Forall₂ (fun issue text => issue.text Value.usualRoom = .ok text) (store.issues shop)
        report.issues := by
  obtain ⟨report, hreport⟩ := Report.exists_check_iff.mpr fun issue hm =>
    isWritable_of_mem_issues hwords (show issue ∈ store.issues shop from hm) Value.usualRoom
  exact ⟨report, _, by rw [validate, hreport]; rfl, Report.check_eq_ok_iff.mp hreport⟩

end Store

namespace Server

/-- The answer to who asks for the report on a shop: the problems of its rules one after the other,
and what is not of single rules before and after them. -/
theorem answer_validate (settings : ServerSettings) {store : Store}
    (hwords : WordPriorities store) {call : Call}
    (hplace : call.request.endpoint? = some .validate) (hmethod : call.request.method = "GET") :
    (answer settings store call).1.status = 200 ∧
      ∃ (first last : List Issue) (texts : List String),
        (answer settings store call).1.body = .data (Report.toValue ⟨texts⟩) ∧
          List.Forall₂ (fun issue text => issue.text Value.usualRoom = .ok text)
            (first ++ (store.listRules call.request.shop false).flatMap
              (store.issuesOf call.request.shop) ++ last) texts ∧
          ∀ name, Issue.dangling name ∉ first ++ last := by
  obtain ⟨report, events, hreport, htexts⟩ :=
    store.exists_validate_of_wordPriorities hwords call.request.shop
  have hhandle : (handle call.fresh call.request .validate).session store =
      (found fun _ => (report.toValue, events)).session store := by
    unfold handle validate
    simp only [Work.session_get_bind, hreport]
  obtain ⟨hstatus, hbody⟩ := answer_found settings store _ hplace hmethod rfl hhandle
  obtain ⟨first, last, hissues, hnone⟩ := store.issues_eq call.request.shop
  exact ⟨hstatus, first, last, report.issues, hbody, hissues ▸ htexts, hnone⟩

section Reports

variable {settings : ServerSettings} {calls : List Call} {row : RuleRow}

/-- **The report says of a rule that its destination was deleted** if and only if it was, since it
was made. -/
theorem dangling_iff_exists
    (hissued : ((exchanges settings {} calls).filterMap Exchange.issued?).Nodup)
    {before later : List Exchange} {making : Exchange}
    (hsplit : exchanges settings {} calls = before ++ making :: later)
    (hmade : making.effect? = some (.madeDestination row.destinationId row.shop)) :
    Issue.dangling row.name ∈ (stores settings {} calls).issuesOf row.shop row ↔
      ∃ exchange ∈ later,
        exchange.effect? = some (.deletedDestination row.destinationId row.shop) := by
  have hsound := (reachable_stores settings .empty calls).sound
  rw [Store.dangling_mem_issuesOf_iff hsound, mem_keys_iff_not_deleted hissued hsplit hmade]
  simp only [ne_eq, not_forall, not_not, exists_prop]

/-- The destination that a rule names was made. -/
theorem exists_split (hm : row ∈ (stores settings {} calls).rules) :
    ∃ before making later, exchanges settings {} calls = before ++ making :: later ∧
      making.effect? = some (.madeDestination row.destinationId row.shop) := by
  obtain ⟨making, he, hmade⟩ := exists_made.2 row hm
  obtain ⟨before, later, hsplit⟩ := List.append_of_mem he
  exact ⟨before, making, later, hsplit, hmade⟩

/-- **What the report says of a rule it goes on to say** until the rule is deleted or changed to
another destination. -/
theorem dangling_stays {more : List Call}
    (hissued : ((exchanges settings {} (calls ++ more)).filterMap Exchange.issued?).Nodup)
    (hm : row ∈ (stores settings {} calls).rules)
    (hnow : Issue.dangling row.name ∈ (stores settings {} calls).issuesOf row.shop row)
    (hdeleted : ∀ exchange ∈ exchanges settings (stores settings {} calls) more,
      exchange.effect? ≠ some (.deletedRule row.id row.shop))
    (hchanged : ∀ exchange ∈ exchanges settings (stores settings {} calls) more, ∀ destinationId,
      exchange.effect? = some (.changedRule row.id row.shop destinationId) →
        destinationId = row.destinationId) :
    ∃ later ∈ (stores settings (stores settings {} calls) more).rules,
      later.id = row.id ∧ later.shop = row.shop ∧ later.destinationId = row.destinationId ∧
        Issue.dangling later.name ∈
          (stores settings (stores settings {} calls) more).issuesOf later.shop later := by
  have hr : (stores settings {} calls).Reachable := reachable_stores settings .empty calls
  obtain ⟨last, hlast, hid, hshop, hdestination⟩ := exists_later hr hm hdeleted hchanged
  refine ⟨last, hlast, hid, hshop, hdestination, ?_⟩
  obtain ⟨before, making, later, hsplit, hmade⟩ := exists_split hm
  have hfirst : ((exchanges settings {} calls).filterMap Exchange.issued?).Nodup := by
    rw [exchanges_append, List.filterMap_append] at hissued
    exact (List.nodup_append.mp hissued).1
  -- the deletion is one of all calls, too
  obtain ⟨exchange, hexchange, hgone⟩ := (dangling_iff_exists hfirst hsplit hmade).mp hnow
  have hlonger : exchanges settings {} (calls ++ more) =
      before ++ making :: (later ++ exchanges settings (stores settings {} calls) more) := by
    rw [exchanges_append, hsplit, List.append_assoc, List.cons_append]
  rw [← hshop, ← hdestination] at hmade hgone
  rw [← stores_append]
  exact (dangling_iff_exists hissued hlonger hmade).mpr
    ⟨exchange, List.mem_append_left _ hexchange, hgone⟩

end Reports

/-- **Rules lose their destinations by deletion only.** After any run of calls that issues no
identifier twice for destinations, the destination that a rule names was made for the shop of the
rule, and the report on the shop says of the rule that its destination was deleted if and only if it
was since. Then the report goes on to say so until the rule is deleted or changed to another
destination. -/
theorem dangling_iff_deleted (settings : ServerSettings) (calls : List Call)
    (hissued : ((exchanges settings {} calls).filterMap Exchange.issued?).Nodup) :
    let store := stores settings {} calls
    (∀ call : Call, call.request.endpoint? = some .validate → call.request.method = "GET" →
        (answer settings store call).1.status = 200 ∧
          ∃ (first last : List Issue) (texts : List String),
            (answer settings store call).1.body = .data (Report.toValue ⟨texts⟩) ∧
              List.Forall₂ (fun issue text => issue.text Value.usualRoom = .ok text)
                (first ++ (store.listRules call.request.shop false).flatMap
                  (store.issuesOf call.request.shop) ++ last) texts ∧
              ∀ name, Issue.dangling name ∉ first ++ last) ∧
      ∀ row ∈ store.rules,
        row ∈ store.listRules row.shop false ∧
          (∃ before making later,
            exchanges settings {} calls = before ++ making :: later ∧
              making.effect? = some (.madeDestination row.destinationId row.shop) ∧
                (Issue.dangling row.name ∈ store.issuesOf row.shop row ↔
                  ∃ exchange ∈ later,
                    exchange.effect? = some (.deletedDestination row.destinationId row.shop))) ∧
          (Issue.dangling row.name ∈ store.issuesOf row.shop row →
            ∀ more : List Call,
              ((exchanges settings {} (calls ++ more)).filterMap Exchange.issued?).Nodup →
              (∀ exchange ∈ exchanges settings store more,
                exchange.effect? ≠ some (.deletedRule row.id row.shop)) →
              (∀ exchange ∈ exchanges settings store more, ∀ destinationId,
                exchange.effect? = some (.changedRule row.id row.shop destinationId) →
                  destinationId = row.destinationId) →
              ∃ later ∈ (stores settings store more).rules,
                later.id = row.id ∧ later.shop = row.shop ∧
                  later.destinationId = row.destinationId ∧
                    Issue.dangling later.name ∈
                      (stores settings store more).issuesOf later.shop later) := by
  intro store
  have hwords : WordPriorities store :=
    stores_invariant Wrote.wordPriorities (fun _ hm => absurd hm List.not_mem_nil) calls
  refine ⟨fun call hplace hmethod => answer_validate settings hwords hplace hmethod,
    fun row hm => ⟨?_, ?_, fun hnow more hnever hdeleted hchanged => ?_⟩⟩
  · exact Store.mem_listRules.mpr ⟨hm, rfl, fun h => absurd h Bool.false_ne_true⟩
  · obtain ⟨before, making, later, hsplit, hmade⟩ := exists_split hm
    exact ⟨before, making, later, hsplit, hmade, dangling_iff_exists hissued hsplit hmade⟩
  · exact dangling_stays hnever hm hnow hdeleted hchanged

/-- A destination is made, and a rule to it; then the destination is deleted. -/
def lostPlace : List Call :=
  placeAndRule ++ [⟨.named "", { method := "DELETE", target := "/api/routing/destinations/d1" }⟩]

/-- A request for the report on a shop. -/
def askReport : Request where
  method := "GET"
  target := "/api/routing/validate"

theorem stores_lostPlace : stores {} {} lostPlace = { rules := [madeRule] } := by
  rw [lostPlace, stores_append, stores_placeAndRule.2]
  decide +kernel

/-- The report says that the destination was deleted, also after the rule got another priority. -/
theorem dangling_iff_deleted_lostPlace :
    ((answer {} (stores {} {} lostPlace) ⟨.named "", askReport⟩).1.status = 200 ∧
      ∃ (first last : List Issue) (texts : List String),
        (answer {} (stores {} {} lostPlace) ⟨.named "", askReport⟩).1.body =
            .data (Report.toValue ⟨texts⟩) ∧
          List.Forall₂ (fun issue text => issue.text Value.usualRoom = .ok text)
            (first ++ ((stores {} {} lostPlace).listRules askReport.shop false).flatMap
              ((stores {} {} lostPlace).issuesOf askReport.shop) ++ last) texts ∧
          ∀ name, Issue.dangling name ∉ first ++ last) ∧
      madeRule ∈ (stores {} {} lostPlace).rules ∧
      Issue.dangling madeRule.name ∈ (stores {} {} lostPlace).issuesOf madeRule.shop madeRule ∧
      ∃ later ∈ (stores {} (stores {} {} lostPlace) [⟨.named "", newPriority 5⟩]).rules,
        later.id = madeRule.id ∧ later.shop = madeRule.shop ∧
          later.destinationId = madeRule.destinationId ∧
            Issue.dangling later.name ∈
              (stores {} (stores {} {} lostPlace) [⟨.named "", newPriority 5⟩]).issuesOf later.shop
                later := by
  have hissued : (exchanges {} {} (lostPlace ++ [⟨.named "", newPriority 5⟩])).filterMap
      Exchange.issued? = ["d1"] := by decide +kernel
  have hfirst : (exchanges {} {} lostPlace).filterMap Exchange.issued? = ["d1"] := by
    decide +kernel
  have heffects : (exchanges {} (stores {} {} lostPlace) [⟨.named "", newPriority 5⟩]).map
      Exchange.effect? = [some (.changedRule "r1" "default" "d1")] := by
    rw [stores_lostPlace]
    decide +kernel
  have heffect : ∀ exchange ∈ exchanges {} (stores {} {} lostPlace) [⟨.named "", newPriority 5⟩],
      exchange.effect? = some (.changedRule "r1" "default" "d1") := fun exchange he =>
    List.mem_singleton.mp (heffects ▸ List.mem_map_of_mem he)
  have hm : madeRule ∈ (stores {} {} lostPlace).rules := by
    rw [stores_lostPlace]
    exact List.mem_singleton_self _
  have hnow : Issue.dangling madeRule.name ∈
      (stores {} {} lostPlace).issuesOf madeRule.shop madeRule := by
    rw [stores_lostPlace]
    exact Issue.dangling_mem_ofRule_iff.mpr (by decide +kernel)
  obtain ⟨hreport, hrules⟩ := dangling_iff_deleted {} lostPlace (by rw [hfirst]; decide)
  obtain ⟨-, -, hstays⟩ := hrules madeRule hm
  refine ⟨hreport ⟨.named "", askReport⟩ (by decide +kernel) rfl, hm, hnow,
    hstays hnow [⟨.named "", newPriority 5⟩] (by rw [hissued]; decide) (fun exchange he => ?_)
      fun exchange he destinationId h => ?_⟩
  · rw [heffect exchange he]
    decide
  · rw [heffect exchange he] at h
    cases h
    rfl

end Server

end Disposition
