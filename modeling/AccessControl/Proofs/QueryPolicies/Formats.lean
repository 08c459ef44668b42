import AccessControl.Proofs.PolicyToken.Pattern
import AccessControl.Proofs.QueryPolicies.Selection
import Mathlib.Data.List.Induction

/-!
# The two formats of filters

Filters that ask for ownership only are written as two filters or as one with a bar.  Repeated filters
are dropped while they are whole, and filters are cut at bars afterwards; but all that becomes of
filters is made of their alternatives, and of these the first occurrences come in the same order in
either format.  So neither matches nor the patterns for a database depend on the format.
-/

namespace AccessControl

/-! ## First occurrences -/

section

variable {α β : Type} [DecidableEq α] [DecidableEq β]

theorem removeAll_congr {removed others : List α} (list : List α)
    (same : ∀ item, item ∈ removed ↔ item ∈ others) :
    list.removeAll removed = list.removeAll others := by
  refine List.filter_congr fun item _ => ?_
  simp [same]

theorem removeAll_eq_nil_of_subset {list removed : List α} (inside : list ⊆ removed) :
    list.removeAll removed = [] := by
  refine List.filter_eq_nil_iff.mpr fun item isItem => ?_
  simpa using inside isItem

/-- What is made of the first occurrences in a list has the same first occurrences as what is made of
the list. -/
theorem eraseDups_flatMap_eraseDups (make : α → List β) (list : List α) :
    (list.eraseDups.flatMap make).eraseDups = (list.flatMap make).eraseDups := by
  induction list using List.reverseRecOn with
  | nil => rfl
  | append_singleton list last ih =>
      have cut : (list ++ [last]).flatMap make = list.flatMap make ++ make last := by simp
      rw [cut, List.eraseDups_append, List.eraseDups_append, ← ih]
      by_cases seen : last ∈ list
      · have nothingNew : make last ⊆ list.flatMap make := fun item isMade =>
          List.mem_flatMap.mpr ⟨last, seen, isMade⟩
        rw [removeAll_eq_nil_of_subset (by simpa using seen), removeAll_eq_nil_of_subset nothingNew]
        simp
      · have kept : [last].removeAll list = [last] := by simp [List.removeAll, seen]
        have alone : [last].eraseDups.flatMap make = make last := by simp [List.eraseDups_cons]
        rw [kept, List.flatMap_append, alone, List.eraseDups_append,
          removeAll_congr (make last) fun item => (by simp :
            item ∈ list.eraseDups.flatMap make ↔ item ∈ list.flatMap make)]

end

/-! ## Alternatives -/

/-- Whether filters have the same alternatives, in the order of their first occurrences. -/
def SameAlternatives (filters others : List String) : Prop :=
  (filterAlternatives filters).eraseDups = (filterAlternatives others).eraseDups

namespace SameAlternatives

variable {filters others : List String} (same : SameAlternatives filters others)
include same

theorem mem_iff (alternative : String) :
    alternative ∈ filterAlternatives filters ↔ alternative ∈ filterAlternatives others := by
  rw [← List.mem_eraseDups, same, List.mem_eraseDups]

theorem policiesMatch_eq (stored : List String) :
    policiesMatch filters stored = policiesMatch others stored := by
  rw [Bool.eq_iff_iff, policiesMatch_iff, policiesMatch_iff]
  simp only [mem_readPolicies, same.mem_iff]

/-- The patterns are made alternative by alternative. -/
theorem filterPatterns_eq : Database.filterPatterns filters = Database.filterPatterns others := by
  have made (filters : List String) : Database.filterPatterns filters =
      ((filterAlternatives filters).flatMap fun alternative =>
        ([Text.trim alternative].filter (· ≠ "")).map Database.pattern).eraseDups := by
    rw [Database.filterPatterns, ← List.map_flatMap, ← List.filter_flatMap, ← List.map_eq_flatMap]
    rfl
  rw [made, made, ← eraseDups_flatMap_eraseDups, same, eraseDups_flatMap_eraseDups]

end SameAlternatives

namespace QueryPolicies

/-- The filters for a query have the same alternatives in either format. -/
theorem sameAlternatives_ofGrants (format other : FilterFormat) (owners : List String)
    (space : String) (subpath : Option String) (grants : Grants) :
    SameAlternatives (ofGrants format owners space subpath grants)
      (ofGrants other owners space subpath grants) := by
  have alternatives (format : FilterFormat) :
      (filterAlternatives (ofGrants format owners space subpath grants)).eraseDups =
        ((grants.toList.filter fun held =>
            concerns space (subpath.map Subpath.normalize) held.1 held.2).flatMap fun held =>
          (tokens owners space (place subpath) held.1 held.2).flatMap fun token =>
            Text.split '|' token.text).eraseDups := by
    rw [filterAlternatives, ofGrants, eraseDups_flatMap_eraseDups, List.flatMap_assoc]
    congr 1
    exact List.flatMap_congr fun held _ =>
      filterAlternatives_project format owners space (place subpath) held.1 held.2
  rw [SameAlternatives, alternatives, alternatives]

/-- Filters that nothing tells apart: the same stored policies match, and the same patterns are sent to
a database in the same order. -/
structure Interchangeable (filters others : List String) : Prop where
  policiesMatch_eq : ∀ stored, policiesMatch filters stored = policiesMatch others stored
  filterPatterns_eq : Database.filterPatterns filters = Database.filterPatterns others

/-- Looking a user up does not depend on the format of filters. -/
theorem load_withFormat (settings : Settings) (format : FilterFormat) (name : String) :
    Principal.load { settings with filterFormat := format } name = Principal.load settings name := by
  unfold Principal.load
  congr 1
  funext snapshot
  congr 1
  funext found
  cases found with
  | none => rfl
  | some user => rfl

/-- Whatever a node's stores hold and answer, a query is answered in either format with filters that
are interchangeable, or with the same error. -/
theorem formats_interchangeable (settings : Settings) (name space : String)
    (subpath : Option String) (node : Nat) (cluster : Cluster) :
    (∃ error after,
      Cluster.operate node (queryPolicies { settings with filterFormat := .separate } name space
        subpath) cluster = (.error error, after) ∧
      Cluster.operate node (queryPolicies { settings with filterFormat := .alternation } name space
        subpath) cluster = (.error error, after)) ∨
    ∃ filters others after,
      Cluster.operate node (queryPolicies { settings with filterFormat := .separate } name space
        subpath) cluster = (.ok filters, after) ∧
      Cluster.operate node (queryPolicies { settings with filterFormat := .alternation } name space
        subpath) cluster = (.ok others, after) ∧
      Interchangeable filters others := by
  cases loaded : Cluster.operate node (Principal.load settings name) cluster with
  | mk answer after =>
      have loadedWith (format : FilterFormat) :
          Cluster.operate node (Principal.load { settings with filterFormat := format } name) cluster =
            (answer, after) := by
        rw [load_withFormat, loaded]
      cases answer with
      | error error =>
          have failed (format : FilterFormat) :
              Cluster.operate node (queryPolicies { settings with filterFormat := format } name space
                subpath) cluster = (.error error, after) := by
            rw [queryPolicies, Cluster.operate_bind, loadedWith]
          exact .inl ⟨error, after, failed .separate, failed .alternation⟩
      | ok principal =>
          have same := sameAlternatives_ofGrants .separate .alternation (owners principal name) space
            subpath principal.grants
          exact .inr ⟨_, _, after, operate_queryPolicies space subpath (loadedWith .separate),
            operate_queryPolicies space subpath (loadedWith .alternation), same.policiesMatch_eq,
            same.filterPatterns_eq⟩

end QueryPolicies

end AccessControl
