/-
  Audience routing — the entities of which an expression holds.

  `tagsOf?_eq_some_iff`: an entity is found with the tags that it is registered with.
  `resolveWith_eq_scan`: in whatever order the matches of a registry come in, the
  result is what a scan from the front finds; so it is strictly ascending
  (`pairwise_resolve`) and has exactly the entities of which the expression holds
  (`mem_resolve`).
-/
import Mathlib.Data.List.Sort
import Mathlib.Data.String.Basic
import AudienceRouting.Registry

namespace AudienceRouting.Registry

/-! ## Looking entities up -/

/-- In a list with ascending keys an entry is the only one with its key. -/
theorem find?_of_mem {entries : List (String × TagSet)} {entry : String × TagSet}
    (h : (entries.map (·.1)).Pairwise (· < ·)) (hmem : entry ∈ entries) :
    entries.find? (·.1 = entry.1) = some entry := by
  induction entries with
  | nil => cases hmem
  | cons first rest ih =>
    have ⟨hfirst, hrest⟩ := List.pairwise_cons.1 h
    rcases List.mem_cons.1 hmem with rfl | hmem
    · simp
    · have hne : first.1 ≠ entry.1 := by
        intro he
        have hlt := hfirst entry.1 (List.mem_map_of_mem hmem)
        exact lt_irrefl _ (he ▸ hlt)
      rw [List.find?_cons_of_neg (by simpa using hne)]
      exact ih hrest hmem

theorem tagsOf?_eq_some_iff {r : Registry} {id : String} {tags : TagSet} :
    r.tagsOf? id = some tags ↔ (id, tags) ∈ r.entries := by
  unfold tagsOf?
  rw [Option.map_eq_some_iff]
  constructor
  · rintro ⟨⟨key, value⟩, hfind, rfl⟩
    obtain rfl : key = id := by simpa using List.find?_some hfind
    exact List.mem_of_find?_eq_some hfind
  · intro hmem
    exact ⟨(id, tags), find?_of_mem r.ascending hmem, rfl⟩

/-! ## Resolving an expression -/

variable (e : Expr) (r : Registry) (options : MatchOptions)

theorem pairwise_scan : (scan e options r.entries).Pairwise (· < ·) := by
  have hsub : (scan e options r.entries).Sublist (r.entries.map (·.1)) :=
    List.filter_sublist.map _
  exact r.ascending.sublist hsub

/-- Sorting brings the matches back into the order in which a scan finds them. -/
theorem mergeSort_eq_scan {found : List String} (h : found.Perm (scan e options r.entries)) :
    found.mergeSort (fun a b => a ≤ b) = scan e options r.entries := by
  have hascending : (scan e options r.entries).Pairwise (· ≤ ·) :=
    (pairwise_scan e r options).imp le_of_lt
  exact ((List.mergeSort_perm _ _).trans h).eq_of_pairwise'
    (List.pairwise_mergeSort' (· ≤ ·) _) hascending

/-- The order in which the matches come in makes no difference. -/
theorem resolveWith_eq_scan (delivery : Delivery) :
    resolveWith delivery e r options = scan e options r.entries := by
  have hdelivered : (if r.size < scanThreshold then scan e options r.entries
      else delivery.arrange (scan e options r.entries)).Perm (scan e options r.entries) := by
    split
    · exact .refl _
    · exact delivery.perm _
  exact mergeSort_eq_scan e r options hdelivered

theorem pairwise_resolve : (r.resolve e options).Pairwise (· < ·) := by
  rw [resolve, resolveWith_eq_scan]
  exact pairwise_scan e r options

theorem mem_resolve {id : String} : id ∈ r.resolve e options ↔
    ∃ tags, r.tagsOf? id = some tags ∧ e.holds tags options = true := by
  rw [resolve, resolveWith_eq_scan, scan, List.mem_map]
  constructor
  · rintro ⟨⟨key, tags⟩, hmem, rfl⟩
    have ⟨hentry, hholds⟩ := List.mem_filter.1 hmem
    exact ⟨tags, tagsOf?_eq_some_iff.2 hentry, hholds⟩
  · rintro ⟨tags, hfound, hholds⟩
    exact ⟨(id, tags), List.mem_filter.2 ⟨tagsOf?_eq_some_iff.1 hfound, hholds⟩, rfl⟩

end AudienceRouting.Registry
