import SchemaTyping.Proofs.Typing.Names

/-!
# The leaves of types

A type is put together from leaves by lists and unions. Whatever a type mentions, a declared name or a
name that a schema refers to, is one of its leaves, so counting and placing names comes down to counting
and placing leaves.
-/

namespace SchemaTyping.Typing

mutual
/-- The types that a type is put together from, from left to right: those in it that are neither lists
nor unions. -/
def TypeExpr.leaves : TypeExpr → List TypeExpr
  | .any => [.any]
  | .primitive type => [.primitive type]
  | .reference name => [.reference name]
  | .declared name => [.declared name]
  | .list item => item.leaves
  | .union arms => armLeaves arms

def armLeaves : List TypeExpr → List TypeExpr
  | [] => []
  | arm :: arms => arm.leaves ++ armLeaves arms
end

theorem armLeaves_eq_flatMap (arms : List TypeExpr) : armLeaves arms = arms.flatMap TypeExpr.leaves := by
  induction arms with
  | nil => rfl
  | cons arm arms ih => rw [armLeaves, ih, List.flatMap_cons]

/-- The leaves of the types of a declaration's fields. -/
def Declaration.leaves (declaration : Declaration) : List TypeExpr :=
  match declaration.body with
  | .literal _ => []
  | .record fields => fields.flatMap fun field => field.type.leaves

theorem Declaration.leaves_record (name : String) (fields : List Field) :
    (⟨name, .record fields⟩ : Declaration).leaves = fields.flatMap fun field => field.type.leaves := rfl

/-! ### Names at the leaves -/

/-- The declared name that a leaf is. -/
def TypeExpr.declaredName? : TypeExpr → Option String
  | .declared name => some name
  | _ => none

/-- The name that a schema refers to at a leaf. -/
def TypeExpr.referredName? : TypeExpr → Option String
  | .reference name => some name
  | _ => none

mutual
theorem TypeExpr.declaredNames_eq_leaves : (type : TypeExpr) →
    type.declaredNames = type.leaves.filterMap TypeExpr.declaredName?
  | .any | .primitive _ | .reference _ | .declared _ => rfl
  | .list item => item.declaredNames_eq_leaves
  | .union arms => armNames_eq_armLeaves arms

theorem armNames_eq_armLeaves : (arms : List TypeExpr) →
    armNames arms = (armLeaves arms).filterMap TypeExpr.declaredName?
  | [] => rfl
  | arm :: arms => by
    rw [armNames, armLeaves, List.filterMap_append, arm.declaredNames_eq_leaves,
      armNames_eq_armLeaves arms]
end

theorem Declaration.uses_eq_leaves (declaration : Declaration) :
    declaration.uses = declaration.leaves.filterMap TypeExpr.declaredName? := by
  obtain ⟨name, body⟩ := declaration
  cases body with
  | literal values => rfl
  | record fields =>
    simp only [Declaration.uses, Declaration.leaves, List.filterMap_flatMap,
      TypeExpr.declaredNames_eq_leaves]

/-- The names in a type that a schema refers to. -/
def TypeExpr.referredNames (type : TypeExpr) : List String :=
  type.leaves.filterMap TypeExpr.referredName?

/-- The names in the types of a declaration's fields that a schema refers to. -/
def Declaration.refersTo (declaration : Declaration) : List String :=
  declaration.leaves.filterMap TypeExpr.referredName?

/-! ### Declarations that mention only earlier ones -/

/-- Declarations of which each mentions only names of earlier ones, whether as declared names or as names
that a schema refers to. -/
def MentionOnlyEarlier (declarations : List Declaration) : Prop :=
  ∀ (i : Nat) (declaration : Declaration), declarations[i]? = some declaration →
    ∀ name ∈ declaration.uses ++ declaration.refersTo,
      ∃ j < i, ∃ earlier, declarations[j]? = some earlier ∧ earlier.name = name

theorem exists_position {declarations : List Declaration} {name : String}
    (hname : name ∈ namesOf declarations) :
    ∃ j < declarations.length, ∃ declaration, declarations[j]? = some declaration ∧
      declaration.name = name := by
  obtain ⟨declaration, hmem, rfl⟩ := List.mem_map.1 hname
  obtain ⟨j, hlt, hj⟩ := List.getElem_of_mem hmem
  exact ⟨j, hlt, declaration, by rw [List.getElem?_eq_getElem hlt, hj], rfl⟩

/-- Declarations may be put behind others that declare all that they refer to. -/
theorem MentionOnlyEarlier.append {first second : List Declaration} (hfirst : MentionOnlyEarlier first)
    (huses : UsesKnown [] second)
    (hrefers : ∀ declaration ∈ second, ∀ name ∈ declaration.refersTo, name ∈ namesOf first) :
    MentionOnlyEarlier (first ++ second) := by
  intro i declaration hdeclaration name hname
  rcases Nat.lt_or_ge i first.length with hlt | hge
  · rw [List.getElem?_append_left hlt] at hdeclaration
    obtain ⟨j, hji, earlier, hearlier, heq⟩ := hfirst i declaration hdeclaration name hname
    refine ⟨j, hji, earlier, ?_, heq⟩
    rw [List.getElem?_append_left (Nat.lt_trans hji hlt)]
    exact hearlier
  · rw [List.getElem?_append_right hge] at hdeclaration
    rcases List.mem_append.1 hname with hused | hreferred
    · obtain hnone | ⟨j, hj, earlier, hearlier, heq⟩ := huses.exists_earlier hdeclaration hused
      · cases hnone
      refine ⟨first.length + j, by omega, earlier, ?_, heq⟩
      rw [List.getElem?_append_right (Nat.le_add_right _ _), Nat.add_sub_cancel_left]
      exact hearlier
    · have hmem : declaration ∈ second := List.mem_of_getElem? hdeclaration
      obtain ⟨j, hj, earlier, hearlier, heq⟩ := exists_position (hrefers declaration hmem name hreferred)
      refine ⟨j, Nat.lt_of_lt_of_le hj hge, earlier, ?_, heq⟩
      rw [List.getElem?_append_left hj]
      exact hearlier

end SchemaTyping.Typing
