/-
  Audience routing — scanning a registry in parts.

  * `Registry.Gathers e options entries found`: the entries are divided into parts in some
    way, each part is scanned, or divided again, and `found` are the matches of all parts in
    some order.

  However the entries are divided, the matches are those of a scan from the front in another
  order (`Gathers.perm`), and every order comes about in this way (`gathers_iff`).  The names in
  a registry are distinct, so sorting takes all of them to one list (`resolve_of_gathers`).
-/
import AudienceRouting.Proofs.Resolution

namespace AudienceRouting.Registry

inductive Gathers (e : Expr) (options : MatchOptions) :
    List (String × TagSet) → List String → Prop
  | scan (entries : List (String × TagSet)) : Gathers e options entries (scan e options entries)
  | divide (front back : List (String × TagSet)) {entries : List (String × TagSet)}
      {found found' gathered : List String} (hparts : (front ++ back).Perm entries)
      (hfront : Gathers e options front found) (hback : Gathers e options back found')
      (horder : gathered.Perm (found ++ found')) : Gathers e options entries gathered

variable {e : Expr} {options : MatchOptions} {entries entries' : List (String × TagSet)}
  {found : List String}

theorem scan_append (e : Expr) (options : MatchOptions)
    (entries entries' : List (String × TagSet)) :
    scan e options (entries ++ entries') = scan e options entries ++ scan e options entries' := by
  rw [scan, List.filter_append, List.map_append]
  rfl

theorem scan_perm (e : Expr) (options : MatchOptions) (h : entries.Perm entries') :
    (scan e options entries).Perm (scan e options entries') :=
  (h.filter _).map _

theorem Gathers.perm (h : Gathers e options entries found) :
    found.Perm (Registry.scan e options entries) := by
  induction h with
  | scan entries => exact .refl _
  | @divide front back entries found found' gathered hparts _ _ horder ihfront ihback =>
    calc gathered.Perm (found ++ found') := horder
      List.Perm _ (Registry.scan e options front ++ Registry.scan e options back) :=
        ihfront.append ihback
      List.Perm _ (Registry.scan e options (front ++ back)) := by rw [scan_append]
      List.Perm _ (Registry.scan e options entries) := scan_perm e options hparts

/-- Dividing off an empty part puts the matches into any order. -/
theorem gathers_iff :
    Gathers e options entries found ↔ found.Perm (scan e options entries) := by
  refine ⟨Gathers.perm, fun h => ?_⟩
  refine .divide entries [] ?_ (.scan entries) (.scan []) ?_
  · rw [List.append_nil]
  · exact h.trans (by rw [← scan_append, List.append_nil])

/-- Every order of the matches is one in which they may come in. -/
theorem exists_delivery {found gathered : List String} (h : gathered.Perm found) :
    ∃ delivery : Delivery, delivery.arrange found = gathered := by
  refine ⟨⟨fun names => if names = found then gathered else names, fun names => ?_⟩, if_pos rfl⟩
  split
  · rename_i heq
    exact heq ▸ h
  · exact .refl _

/-- **Resolving does not depend on how a registry is scanned.**  The entities of which an expression
    holds, and no others, are listed in strictly ascending order.  This is the list for every order
    in which the matches may come in, for registries below and above the threshold, and however the
    entries are divided into parts that are scanned on their own. -/
theorem resolve_of_gathers (e : Expr) (r : Registry) (options : MatchOptions) :
    (r.resolve e options).Pairwise (· < ·) ∧
    (∀ id, id ∈ r.resolve e options ↔
      ∃ tags, r.tagsOf? id = some tags ∧ e.holds tags options = true) ∧
    (∀ delivery, resolveWith delivery e r options = r.resolve e options) ∧
    ∀ found, Gathers e options r.entries found →
      found.mergeSort (fun a b => a ≤ b) = r.resolve e options ∧
      ∃ delivery : Delivery, delivery.arrange (scan e options r.entries) = found := by
  refine ⟨pairwise_resolve e r options, fun id => mem_resolve e r options, fun delivery => ?_,
    fun found h => ⟨?_, exists_delivery h.perm⟩⟩
  · rw [resolve, resolveWith_eq_scan, resolveWith_eq_scan]
  · rw [resolve, resolveWith_eq_scan, mergeSort_eq_scan e r options h.perm]

/-- The last entry is scanned on its own, and its match comes in first. -/
theorem resolve_of_gathers_backwards :
    ["speaker", "lamp"].mergeSort (fun a b => a ≤ b) =
      (ofList [("lamp", .ofList ["area:home"]), ("phone", .ofList ["user:jane"]),
        ("speaker", .ofList ["area:home"])]).resolve (.tag "area:home") {} := by
  have hgathers : Gathers (.tag "area:home") {} (ofList [("lamp", .ofList ["area:home"]),
      ("phone", .ofList ["user:jane"]), ("speaker", .ofList ["area:home"])]).entries
      ["speaker", "lamp"] := by
    refine .divide [("lamp", .ofList ["area:home"]), ("phone", .ofList ["user:jane"])]
      [("speaker", .ofList ["area:home"])] (.refl _) (.scan _) (.scan _) ?_
    exact .swap _ _ _
  exact ((resolve_of_gathers _ _ _).2.2.2 _ hgathers).1

end AudienceRouting.Registry
