/-
  Audience routing — sets of tags.

  A set of tags is a strictly ascending list, so it has one form only.
  `contains_iff`: looking a tag up, which stops at the first greater tag, agrees
  with membership.
-/
import AudienceRouting.Ascending

namespace AudienceRouting

/-- The tags of one entity. -/
structure TagSet where
  toList : List String
  ascending : toList.Pairwise (· < ·)

namespace TagSet

/-- The set of the given tags, in any order and with repetitions. -/
def ofList (tags : List String) : TagSet :=
  ⟨Ascending.ofList tags, Ascending.pairwise_ofList tags⟩

instance : Inhabited TagSet := ⟨ofList []⟩

instance : Membership String TagSet := ⟨fun tags tag => tag ∈ tags.toList⟩

/-- Looks a string up in an ascending list. -/
def lookUp (tag : String) : List String → Bool
  | [] => false
  | first :: rest => tag == first || (first < tag && lookUp tag rest)

def contains (tags : TagSet) (tag : String) : Bool := lookUp tag tags.toList

theorem mem_ofList {tag : String} {tags : List String} : tag ∈ ofList tags ↔ tag ∈ tags :=
  Ascending.mem_ofList

theorem ofList_toList (tags : TagSet) : ofList tags.toList = tags := by
  obtain ⟨xs, h⟩ := tags
  simp only [ofList, Ascending.ofList_of_pairwise h]

theorem lookUp_iff {tag : String} {tags : List String} (h : tags.Pairwise (· < ·)) :
    lookUp tag tags = true ↔ tag ∈ tags := by
  induction tags with
  | nil => simp [lookUp]
  | cons first rest ih =>
    have ⟨hfirst, hrest⟩ := List.pairwise_cons.1 h
    simp only [lookUp, Bool.or_eq_true, beq_iff_eq, Bool.and_eq_true, decide_eq_true_eq, ih hrest,
      List.mem_cons]
    exact or_congr_right ⟨And.right, fun hm => ⟨hfirst _ hm, hm⟩⟩

theorem contains_iff {tags : TagSet} {tag : String} : tags.contains tag = true ↔ tag ∈ tags :=
  lookUp_iff tags.ascending

end TagSet

end AudienceRouting
