import SchemaTyping.Typing.Declaration

/-!
# Declared names in types

Which declared names a type mentions, at any depth, and which a declaration uses in the types of its
fields. Names that a schema refers to do not count: they may be declared anywhere or nowhere.
-/

namespace SchemaTyping.Typing

mutual
/-- The declared names in a type, from left to right. -/
def TypeExpr.declaredNames : TypeExpr → List String
  | .declared name => [name]
  | .list item => item.declaredNames
  | .union arms => armNames arms
  | .any | .primitive _ | .reference _ => []

def armNames : List TypeExpr → List String
  | [] => []
  | arm :: arms => arm.declaredNames ++ armNames arms
end

mutual
/-- A type with another name for each declared one. -/
def TypeExpr.mapDeclared (rename : String → String) : TypeExpr → TypeExpr
  | .any => .any
  | .primitive type => .primitive type
  | .reference name => .reference name
  | .declared name => .declared (rename name)
  | .list item => .list (item.mapDeclared rename)
  | .union arms => .union (mapDeclaredArms rename arms)

def mapDeclaredArms (rename : String → String) : List TypeExpr → List TypeExpr
  | [] => []
  | arm :: arms => arm.mapDeclared rename :: mapDeclaredArms rename arms
end

theorem TypeExpr.mapDeclared_union (rename : String → String) (arms : List TypeExpr) :
    (TypeExpr.union arms).mapDeclared rename = .union (arms.map (TypeExpr.mapDeclared rename)) := by
  have harms : mapDeclaredArms rename arms = arms.map (TypeExpr.mapDeclared rename) := by
    induction arms with
    | nil => rfl
    | cons arm arms ih => rw [mapDeclaredArms, ih, List.map_cons]
  rw [TypeExpr.mapDeclared, harms]

/-- The declared names in the types of a declaration's fields. -/
def Declaration.uses (declaration : Declaration) : List String :=
  match declaration.body with
  | .literal _ => []
  | .record fields => fields.flatMap fun field => field.type.declaredNames

def namesOf (declarations : List Declaration) : List String := declarations.map (·.name)

theorem namesOf_append (first second : List Declaration) :
    namesOf (first ++ second) = namesOf first ++ namesOf second :=
  List.map_append

/-! ### Declarations in an order of definition -/

/-- Declarations of which each uses only names that are known or declared before it. -/
def UsesKnown (known : List String) : List Declaration → Prop
  | [] => True
  | declaration :: rest =>
    (∀ name ∈ declaration.uses, name ∈ known) ∧ UsesKnown (known ++ [declaration.name]) rest

theorem usesKnown_append {known : List String} {first second : List Declaration} :
    UsesKnown known (first ++ second) ↔
      UsesKnown known first ∧ UsesKnown (known ++ namesOf first) second := by
  induction first generalizing known with
  | nil => simp [UsesKnown, namesOf]
  | cons declaration rest ih =>
    have hnames : known ++ namesOf (declaration :: rest) = known ++ [declaration.name] ++
        namesOf rest := by
      rw [List.append_assoc]
      rfl
    rw [List.cons_append, UsesKnown, UsesKnown, ih, hnames, and_assoc]

theorem UsesKnown.mono {known known' : List String} {declarations : List Declaration}
    (hknown : ∀ name ∈ known, name ∈ known') (huses : UsesKnown known declarations) :
    UsesKnown known' declarations := by
  induction declarations generalizing known known' with
  | nil => trivial
  | cons declaration rest ih =>
    refine ⟨fun name hname => hknown name (huses.1 name hname), ih (fun name hname => ?_) huses.2⟩
    rcases List.mem_append.1 hname with hname | hname
    · exact List.mem_append_left _ (hknown name hname)
    · exact List.mem_append_right _ hname

theorem UsesKnown.of_part {known : List String} {first declarations : List Declaration}
    (hpart : first <+: declarations) (huses : UsesKnown known declarations) : UsesKnown known first := by
  obtain ⟨rest, rfl⟩ := hpart
  exact (usesKnown_append.1 huses).1

theorem UsesKnown.flatMap {α : Type} {known : List String} {items : List α}
    {declarations : α → List Declaration} (huses : ∀ item ∈ items, UsesKnown [] (declarations item)) :
    UsesKnown known (items.flatMap declarations) := by
  induction items generalizing known with
  | nil => trivial
  | cons item rest ih =>
    rw [List.flatMap_cons, usesKnown_append]
    exact ⟨(huses item List.mem_cons_self).mono (by simp),
      ih fun other hother => huses other (List.mem_cons_of_mem _ hother)⟩

/-- By position: a name used by the declaration at a position is known or the name of an earlier one. -/
theorem UsesKnown.exists_earlier {known : List String} {declarations : List Declaration}
    (huses : UsesKnown known declarations) {i : Nat} {declaration : Declaration}
    (hdeclaration : declarations[i]? = some declaration) {name : String}
    (hname : name ∈ declaration.uses) :
    name ∈ known ∨ ∃ j < i, ∃ earlier, declarations[j]? = some earlier ∧ earlier.name = name := by
  induction declarations generalizing known i with
  | nil => simp at hdeclaration
  | cons first rest ih =>
    cases i with
    | zero =>
      obtain rfl : first = declaration := by simpa using hdeclaration
      exact .inl (huses.1 name hname)
    | succ i =>
      rcases ih huses.2 (by simpa using hdeclaration) with hknown | ⟨j, hlt, earlier, hearlier, hname⟩
      · rcases List.mem_append.1 hknown with hknown | hfirst
        · exact .inl hknown
        · exact .inr ⟨0, Nat.succ_pos i, first, rfl, (List.mem_singleton.1 hfirst).symm⟩
      · exact .inr ⟨j + 1, Nat.succ_lt_succ hlt, earlier, by simpa using hearlier, hname⟩

end SchemaTyping.Typing
