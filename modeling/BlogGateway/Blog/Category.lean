/-
Categories of posts.

Each domain has a list of categories of its own, numbered from one without gaps.  The lists
are kept in one sequence; what belongs to the other domain is passed over and stays as it is.
-/
import BlogGateway.Json.Value

namespace BlogGateway.Blog

open Json

/-- A domain that the blog is published under. -/
inductive Domain
  | com
  | me
  deriving DecidableEq, Repr

namespace Domain

/-- The name of a domain. -/
def text : Domain → String
  | .com => "com"
  | .me => "me"

/-- All domains. -/
def all : List Domain := [.com, .me]

/-- The domain of a name. -/
def ofText? (text : String) : Option Domain := all.find? fun domain => domain.text = text

end Domain

/-- A category. -/
structure Category where
  domain : Domain
  label : String
  /-- The place within the domain, counted from one. -/
  order : UInt32
  localizationKey : String
  deriving DecidableEq, Repr

namespace Category

/-- A category as JSON. -/
def value (category : Category) : Value := .ofMembers [
  ("domain", .string category.domain.text),
  ("label", .string category.label),
  ("order", .ofNat category.order.toNat),
  ("localization_key", .string category.localizationKey)]

/-- Whether a category has the given label in the given domain. -/
def isNamed (domain : Domain) (label : String) (category : Category) : Bool :=
  category.domain = domain && category.label = label

/-- Numbers the categories of a domain in the order they stand in, going on after `count`. -/
def renumberAfter (domain : Domain) (count : Nat) : List Category → List Category
  | [] => []
  | category :: rest =>
    if category.domain = domain then
      { category with order := UInt32.ofNat (count + 1) } :: renumberAfter domain (count + 1) rest
    else category :: renumberAfter domain count rest

/-- Numbers the categories of a domain from one in the order they stand in. -/
def renumber (domain : Domain) (categories : List Category) : List Category :=
  renumberAfter domain 0 categories

/-- Puts a category before the one that has `position` others of its domain before it, or at
the end when there is none. -/
def insertAt (category : Category) : Nat → List Category → List Category
  | _, [] => [category]
  | position, other :: rest =>
    if other.domain = category.domain then
      match position with
      | 0 => category :: other :: rest
      | position + 1 => other :: insertAt category position rest
    else other :: insertAt category position rest

/-- The index of the category that has `position` others of its domain before it, or the one
behind all when there is none. -/
def indexIn (domain : Domain) (position : Nat) (categories : List Category) : Nat :=
  ((categories.zipIdx.filter (·.1.domain = domain)).map Prod.snd)[position]?.getD
    categories.length

theorem indexIn_cons (domain : Domain) (position : Nat) (other : Category)
    (rest : List Category) :
    indexIn domain position (other :: rest)
      = if other.domain = domain then
          match position with
          | 0 => 0
          | further + 1 => indexIn domain further rest + 1
        else indexIn domain position rest + 1 := by
  have shifted (further : Nat) :
      (((rest.zipIdx.filter (·.1.domain = domain)).map (Prod.map id (· + 1))).map
        Prod.snd)[further]?.getD (rest.length + 1) = indexIn domain further rest + 1 := by
    rw [indexIn, List.map_map, List.getElem?_map, List.getElem?_map]
    cases (rest.zipIdx.filter (·.1.domain = domain))[further]? <;> rfl
  rw [indexIn, List.zipIdx_cons', List.filter_cons, List.filter_map, List.length_cons]
  by_cases own : other.domain = domain
  · rw [if_pos own, if_pos (decide_eq_true own)]
    cases position with
    | zero => rfl
    | succ further => exact shifted further
  · rw [if_neg own, if_neg (by simpa using own)]
    exact shifted position

/-- To put a category in at the index of its place is to put it at its place. -/
theorem insertIdx_indexIn (category : Category) (position : Nat) (categories : List Category) :
    categories.insertIdx (indexIn category.domain position categories) category
      = insertAt category position categories := by
  induction categories generalizing position with
  | nil => rfl
  | cons other rest ih =>
      rw [indexIn_cons, insertAt.eq_def]
      dsimp only
      split
      · cases position with
        | zero => rfl
        | succ further => exact congrArg (other :: ·) (ih further)
      · exact congrArg (other :: ·) (ih position)

end Category

end BlogGateway.Blog
