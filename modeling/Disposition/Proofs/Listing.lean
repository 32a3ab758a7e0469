import Disposition.Proofs.History

/-!
# Listings

A listing of a shop holds the rows that the shop has, each once, and in order: destinations with
the default first and then by name, rules as they are tried. A listing of the active rules is what
is left of the listing of all rules.

The default of a shop can be read in three ways. It is asked for, which takes the first flagged row
in whatever order the rows stand; it is found among the destinations that were loaded for routing;
and it is the first of the listed destinations, if that one is flagged. All three agree, because a
shop has at most one default and the listing starts with it.

Results:
* `Table.lists_of_perm`: the rows of a shop in any order are a listing of it.
* `Store.listDestinations_sorted`: destinations are listed in order.
* `find?_eq_head?_filter`: what stands before all others is found at the start.
* `Store.listings_complete_sorted`: listings in every reachable store, and the default in three
  ways.
-/

namespace Disposition

/-! ## Complete and without repetitions -/

namespace Table

variable {ρ : Type} [ShopRow ρ]

/-- A list holds exactly the rows that are found by their identifiers, each once. -/
structure Lists (get : String → Option ρ) (listed : List ρ) : Prop where
  /-- What is found by an identifier is what is listed with it. -/
  exact : ∀ id row, get id = some row ↔ row ∈ listed ∧ ShopRow.id row = id
  /-- No identifier is listed twice. -/
  once : Distinct listed

/-- **The rows of a shop in any order are a listing of it.** -/
theorem lists_of_perm {rows listed : List ρ} (hd : Distinct rows) {shop : String}
    (hp : listed.Perm (ofShop rows shop)) : Lists (find? rows shop) listed where
  exact id row := by
    rw [find?_eq_some_iff hd, hp.mem_iff, mem_ofShop, and_assoc]
    exact and_congr_right fun _ => and_comm
  once := (hd.ofShop shop).perm hp

end Table

/-! ## Destinations in order -/

namespace DestinationRow

/-- The row stands before the other one, or in the same place: the default before all others, and
rows that are alike in that by their names. -/
def Precedes (row other : DestinationRow) : Prop :=
  (other.isDefault = true → row.isDefault = true) ∧
    (row.isDefault = other.isDefault → row.name ≤ other.name)

theorem listedBefore_iff {row other : DestinationRow} :
    row.listedBefore other = true ↔ row.Precedes other := by
  unfold listedBefore Precedes
  by_cases h : row.isDefault = other.isDefault
  · simp [h]
  · rw [if_neg h]
    -- only one of the two is flagged
    cases hrow : row.isDefault <;> cases hother : other.isDefault <;> simp_all

theorem Precedes.trans {first second third : DestinationRow} (h : first.Precedes second)
    (hn : second.Precedes third) : first.Precedes third := by
  refine ⟨fun hthird => h.1 (hn.1 hthird), fun hends => ?_⟩
  -- if the ends are alike, the one in the middle is like them
  have hmiddle : first.isDefault = second.isDefault := by
    refine Bool.eq_iff_iff.mpr ⟨fun hfirst => ?_, h.1⟩
    exact hn.1 (hends ▸ hfirst)
  exact String.le_trans (h.2 hmiddle) (hn.2 (hmiddle.symm.trans hends))

theorem Precedes.total (row other : DestinationRow) : row.Precedes other ∨ other.Precedes row := by
  unfold Precedes
  cases row.isDefault <;> cases other.isDefault <;> simp [String.le_total row.name other.name]

end DestinationRow

/-- **What stands before all others is found at the start**, if it is there at all. -/
theorem find?_eq_head?_filter {α : Type} {p : α → Bool} {l : List α}
    (h : l.Pairwise fun a b => p b = true → p a = true) : l.find? p = l.head?.filter p := by
  cases l with
  | nil => rfl
  | cons a rest =>
    rw [List.head?_cons, List.find?_cons]
    cases ha : p a with
    | true => simp [Option.filter, ha]
    | false =>
      have hrest : rest.find? p = none := by
        refine List.find?_eq_none.mpr fun b hb hp => ?_
        rw [(List.pairwise_cons.mp h).1 b hb hp] at ha
        cases ha
      simp [Option.filter, ha, hrest]

namespace Store

variable {store : Store}

theorem listDestinations_sorted (store : Store) (shop : String) :
    (store.listDestinations shop).Pairwise DestinationRow.Precedes := by
  unfold listDestinations
  refine pairwise_mergeSort_iff (fun _ _ => ?_) (fun _ _ _ => ?_) DestinationRow.Precedes.total _
  · exact DestinationRow.listedBefore_iff
  · exact DestinationRow.Precedes.trans

/-! ## The default in three ways -/

/-- What there is for a default of a shop, in whatever way it is read. -/
structure ReadsDefault (store : Store) (shop : String) (found : Option DestinationRow) : Prop where
  /-- It is what is asked for. -/
  asked : store.defaultDestination? shop = found
  /-- It is found among the destinations that are loaded for routing. -/
  loaded : Destination.default? (store.loadDestinations shop) = found.map (·.toDestination)
  /-- It is the first of the listed destinations, if that one is flagged. -/
  listed : (store.listDestinations shop).head?.filter (·.isDefault) = found

theorem OneDefault.readsDefault (hone : store.OneDefault) (hs : store.Sound) (shop : String) :
    store.ReadsDefault shop (store.defaultDestination? shop) := by
  have hfound : (store.listDestinations shop).find? (·.isDefault) =
      store.defaultDestination? shop :=
    hone.find?_isDefault_perm hs (fun _ => mem_listDestinations.mp)
      (listDestinations_perm store shop)
  refine ⟨rfl, by rw [default?_loadDestinations, hfound], ?_⟩
  rw [← find?_eq_head?_filter ((listDestinations_sorted store shop).imp And.left), hfound]

/-! ## Every reachable store -/

/-- **Listings are complete, free of repetitions and in order**, and the three ways to read the
default agree. The active rules are the active ones of all rules, in the same order. -/
theorem listings_complete_sorted (hr : store.Reachable) (shop : String) :
    (Table.Lists (store.destination? shop) (store.listDestinations shop) ∧
        (store.listDestinations shop).Pairwise DestinationRow.Precedes) ∧
      (Table.Lists (store.rule? shop) (store.listRules shop false) ∧
        (store.listRules shop false).Pairwise RuleRow.Precedes ∧
        store.listRules shop true = (store.listRules shop false).filter (·.isActive)) ∧
      ∃ found, store.ReadsDefault shop found := by
  have hs := hr.sound
  have hrules : (store.listRules shop false).Perm (Table.ofShop store.rules shop) :=
    (listRules_perm store shop false).trans (.of_eq (List.filter_eq_self.mpr fun _ _ => rfl))
  exact ⟨⟨Table.lists_of_perm hs.destinations (listDestinations_perm store shop),
      listDestinations_sorted store shop⟩,
    ⟨Table.lists_of_perm hs.rules hrules, listRules_sorted false,
      (filter_listRules hs shop false).symm⟩,
    _, hr.oneDefault.readsDefault hs shop⟩

/-- A shop has three destinations, and the flag is moved to the last of them. One of its rules is
tried before the one that was made first, and another destination is deleted. -/
def movedFlag : List Step :=
  [⟨.named "", .createDestination "acme" (.ofPlace "d1" true)⟩,
    ⟨.named "", .createDestination "globex" (.ofPlace "d2" true)⟩,
    ⟨.named "", .createDestination "acme" (.ofPlace "d3" false)⟩,
    ⟨.named "", .createDestination "acme" (.ofPlace "d4" false)⟩,
    ⟨.named "", .createRule "acme" (.ofShoes "r1" (.integer 2) "d1")⟩,
    ⟨.named "", .createRule "acme" (.ofShoes "r2" (.integer 1) "d3")⟩,
    ⟨.named "", .updateRule "acme" "r1" [("is_active", .flag false)]⟩,
    ⟨.named "", .updateDestination "acme" "d4" [("is_default", .flag true)]⟩,
    ⟨.named "", .deleteDestination "acme" "d3"⟩]

/-- The listings of that shop and its default. -/
theorem listings_complete_sorted_movedFlag :
    ((Table.Lists ((Store.after {} movedFlag).destination? "acme")
            ((Store.after {} movedFlag).listDestinations "acme") ∧
          ((Store.after {} movedFlag).listDestinations "acme").Pairwise DestinationRow.Precedes) ∧
        (Table.Lists ((Store.after {} movedFlag).rule? "acme")
            ((Store.after {} movedFlag).listRules "acme" false) ∧
          ((Store.after {} movedFlag).listRules "acme" false).Pairwise RuleRow.Precedes ∧
          (Store.after {} movedFlag).listRules "acme" true =
            ((Store.after {} movedFlag).listRules "acme" false).filter (·.isActive)) ∧
        ∃ found, (Store.after {} movedFlag).ReadsDefault "acme" found) ∧
      ((Store.after {} movedFlag).defaultDestination? "acme").map (·.id) = some "d4" :=
  ⟨listings_complete_sorted (Reachable.empty.after movedFlag) "acme", by decide +kernel⟩

end Store

end Disposition
