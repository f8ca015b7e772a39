import Mathlib.Data.List.Forall2
import SchemaTyping.Proofs.Emission.Failures
import SchemaTyping.Proofs.Emission.Resolution

/-!
# What the name of the root names

The name that a document's root is given goes on through lists and unions and ends at the first property.
So it names the objects and enumerations that the root reaches without crossing one, and nothing else
that is declared depends on it (`rootName_names_own`). The walk is told here once more, with a mark on
each schema that still has the name of the start.
-/

namespace SchemaTyping.Emission

open Json (Value Members)
open Schema (classify)
open Text (capitalize)
open Typing (TypeExpr Declaration quoteLiteral renderModule)

/-! ### The walk with marks -/

/-- A schema that a walk meets. -/
structure Marked where
  visit : Visit
  /-- The schema has the name of the start of the walk: no property lies between them. -/
  inherits : Bool

/-- Whether the schemas right below a schema stand under keys of their own. -/
def Visit.keysChildren (visit : Visit) : Bool :=
  match classify visit.value with
  | .object _ _ => true
  | _ => false

/-- The walk, with the mark of the start and of each schema on the way. -/
def markedWalk (inherits : Bool) (visit : Visit) : List Marked :=
  (visit.children.attach.flatMap fun child => markedWalk (inherits && !visit.keysChildren) child.1) ++
    [⟨visit, inherits⟩]
termination_by sizeOf visit.value
decreasing_by exact Visit.sizeOf_child_lt child.2

theorem markedWalk_eq (inherits : Bool) (visit : Visit) :
    markedWalk inherits visit =
      visit.children.flatMap (markedWalk (inherits && !visit.keysChildren)) ++ [⟨visit, inherits⟩] := by
  rw [markedWalk]
  congr 1
  rw [List.flatMap_subtype (g := markedWalk (inherits && !visit.keysChildren)) (fun _ _ => rfl),
    List.unattach_attach]

theorem map_visit_markedWalk (inherits : Bool) (visit : Visit) :
    (markedWalk inherits visit).map Marked.visit = walk visit := by
  induction visit using Visit.induction generalizing inherits with
  | step visit ih =>
    rw [markedWalk_eq, walk_eq, List.map_append, List.map_flatMap]
    congr 1
    exact List.flatMap_congr fun child hchild => ih child hchild _

/-- Below a property no schema has the name of the start. -/
theorem inherits_of_mem_markedWalk_false {visit : Visit} {marked : Marked}
    (hmem : marked ∈ markedWalk false visit) :
    marked.inherits = false := by
  induction visit using Visit.induction with
  | step visit ih =>
    rw [markedWalk_eq, Bool.false_and, List.mem_append, List.mem_flatMap, List.mem_singleton] at hmem
    rcases hmem with ⟨child, hchild, hmem⟩ | rfl
    · exact ih child hchild hmem
    · rfl

theorem Visit.declaration?_ne_none_of_keysChildren {visit : Visit} (hkeys : visit.keysChildren = true) :
    visit.declaration? ≠ none := by
  unfold Visit.keysChildren at hkeys
  unfold Visit.declaration?
  cases hshape : classify visit.value <;> simp [hshape] at hkeys ⊢

theorem Visit.wraps_of_child {visit child : Visit} (hkeys : visit.keysChildren = false)
    (hchild : child ∈ visit.children) :
    visit.Wraps child := by
  refine ⟨?_, hchild⟩
  unfold Visit.keysChildren at hkeys
  unfold Visit.children at hchild
  unfold Visit.declaration?
  cases hshape : classify visit.value <;> simp [hshape] at hkeys hchild ⊢

/-- The schemas with the name of the start are those that it reaches through lists and unions. -/
theorem mem_markedWalk_iff {visit other : Visit} :
    ⟨other, true⟩ ∈ markedWalk true visit ↔ Relation.ReflTransGen Visit.Wraps visit other := by
  induction visit using Visit.induction with
  | step visit ih =>
    rw [markedWalk_eq, List.mem_append, List.mem_flatMap, List.mem_singleton,
      Relation.ReflTransGen.cases_head_iff]
    cases hkeys : visit.keysChildren with
    | true =>
      constructor
      · rintro (⟨child, _, hother⟩ | hself)
        · cases inherits_of_mem_markedWalk_false hother
        · cases hself
          exact .inl rfl
      · rintro (rfl | ⟨child, hwraps, _⟩)
        · exact .inr rfl
        · exact absurd hwraps.1 (Visit.declaration?_ne_none_of_keysChildren hkeys)
    | false =>
      constructor
      · rintro (⟨child, hchild, hother⟩ | hself)
        · exact .inr ⟨child, Visit.wraps_of_child hkeys hchild, (ih child hchild).1 hother⟩
        · cases hself
          exact .inl rfl
      · rintro (rfl | ⟨child, hwraps, hother⟩)
        · exact .inr rfl
        · exact .inl ⟨child, hwraps.2, (ih child hwraps.2).2 hother⟩

/-! ### Two walks under two names -/

/-- Two schemas met under two names of the start: the same schema, under the same property unless it has
the name of the start. -/
structure Marked.Renamed (first second : String) (marked other : Marked) : Prop where
  value : marked.visit.value = other.visit.value
  inherits : marked.inherits = other.inherits
  own : marked.inherits = true → marked.visit.property = first ∧ other.visit.property = second
  other : marked.inherits = false → marked.visit.property = other.visit.property

theorem Marked.renamed_of_not_inherits (first second : String) {marked : Marked}
    (hnot : marked.inherits = false) :
    marked.Renamed first second marked where
  value := rfl
  inherits := rfl
  own hinherits := by rw [hnot] at hinherits; cases hinherits
  other _ := rfl

theorem renamed_markedWalk_false (first second : String) (visit : Visit) :
    List.Forall₂ (Marked.Renamed first second) (markedWalk false visit) (markedWalk false visit) :=
  List.forall₂_same.2 fun _ hmem =>
    Marked.renamed_of_not_inherits first second (inherits_of_mem_markedWalk_false hmem)

theorem Visit.keysChildren_eq {visit other : Visit} (hvalue : visit.value = other.value) :
    visit.keysChildren = other.keysChildren := by
  rw [Visit.keysChildren, Visit.keysChildren, hvalue]

theorem Visit.children_eq_of_keysChildren {visit other : Visit} (hkeys : visit.keysChildren = true)
    (hvalue : visit.value = other.value) : visit.children = other.children := by
  unfold Visit.keysChildren at hkeys
  unfold Visit.children
  rw [← hvalue]
  cases hshape : classify visit.value <;> simp [hshape] at hkeys ⊢

/-- Where children have no keys of their own they stand under the property of the whole, whatever it
is. -/
theorem Visit.exists_children_values {visit : Visit} (hkeys : visit.keysChildren = false) :
    ∃ values : List Value, ∀ property,
      (⟨property, visit.value⟩ : Visit).children = values.map fun value => ⟨property, value⟩ := by
  unfold Visit.keysChildren at hkeys
  cases hshape : classify visit.value with
  | object properties required => simp [hshape] at hkeys
  | array item? =>
    cases item? with
    | none => exact ⟨[], fun property => by simp [Visit.children, hshape]⟩
    | some item => exact ⟨[item], fun property => Visit.children_of_list hshape⟩
  | anyOf alternatives => exact ⟨alternatives, fun property => Visit.children_of_union hshape⟩
  | _ => exact ⟨[], fun property => by simp [Visit.children, hshape]⟩

theorem renamed_markedWalk (visit : Visit) (second : String) :
    List.Forall₂ (Marked.Renamed visit.property second) (markedWalk true visit)
      (markedWalk true ⟨second, visit.value⟩) := by
  induction visit using Visit.induction with
  | step visit ih =>
    have hself : Marked.Renamed visit.property second ⟨visit, true⟩ ⟨⟨second, visit.value⟩, true⟩ :=
      ⟨rfl, rfl, fun _ => ⟨rfl, rfl⟩, nofun⟩
    have hsame : visit.keysChildren = (⟨second, visit.value⟩ : Visit).keysChildren :=
      Visit.keysChildren_eq rfl
    rw [markedWalk_eq, markedWalk_eq, ← hsame]
    refine List.rel_append ?_ (.cons hself .nil)
    cases hkeys : visit.keysChildren with
    | true =>
      -- below the properties of an object nothing has the name of the root
      have hchildren : visit.children = (⟨second, visit.value⟩ : Visit).children :=
        Visit.children_eq_of_keysChildren hkeys rfl
      rw [← hchildren]
      refine List.rel_flatMap (List.forall₂_same.2 fun child _ => rfl) ?_
      rintro child _ rfl
      exact renamed_markedWalk_false _ _ child
    | false =>
      obtain ⟨values, hchildren⟩ := Visit.exists_children_values hkeys
      have hvisit : visit.children = values.map fun value => ⟨visit.property, value⟩ :=
        hchildren visit.property
      rw [hvisit, hchildren second, List.flatMap_map, List.flatMap_map]
      have hvalues : List.Forall₂ (fun value other => value = other ∧ value ∈ values) values values :=
        List.forall₂_same.2 fun value hvalue => ⟨rfl, hvalue⟩
      refine List.rel_flatMap hvalues ?_
      rintro value _ ⟨rfl, hmem⟩
      have hchild : ⟨visit.property, value⟩ ∈ visit.children := by
        rw [hvisit]
        exact List.mem_map_of_mem hmem
      exact ih _ hchild

/-! ### Declarations and types under two names -/

/-- A declaration with the mark of its schema. -/
structure MarkedDeclaration where
  declaration : Declaration
  inherits : Bool

def Marked.declared? (marked : Marked) : Option MarkedDeclaration :=
  marked.visit.declaration?.map (⟨·, marked.inherits⟩)

/-- Two declarations of one schema under two names of the root: with the same body, and of the same name
unless the schema has the name of the root. -/
structure MarkedDeclaration.Renamed (first second : String) (marked other : MarkedDeclaration) :
    Prop where
  body : marked.declaration.body = other.declaration.body
  inherits : marked.inherits = other.inherits
  own : marked.inherits = true → marked.declaration.name = capitalize first ∧
    other.declaration.name = capitalize second
  other : marked.inherits = false → marked.declaration.name = other.declaration.name

/-- What a schema declares under a property is a body that does not depend on the property, under its
capitalised name. -/
theorem exists_bodies_of_value (value : Value) :
    ∃ body?, ∀ property,
      (⟨property, value⟩ : Visit).declaration? = Option.map (⟨capitalize property, ·⟩) body? := by
  cases hshape : classify value with
  | enum values =>
    exact ⟨some (.literal (values.map quoteLiteral)),
      fun property => by simp [Visit.declaration?, hshape]⟩
  | object properties required =>
    refine ⟨some (.record (⟨"", value⟩ : Visit).fields), fun property => ?_⟩
    have hkeys : (⟨"", value⟩ : Visit).keysChildren = true := by simp [Visit.keysChildren, hshape]
    have hfields : (⟨property, value⟩ : Visit).fields = (⟨"", value⟩ : Visit).fields := by
      have hchildren : (⟨"", value⟩ : Visit).children = (⟨property, value⟩ : Visit).children :=
        Visit.children_eq_of_keysChildren hkeys rfl
      rw [Visit.fields, Visit.fields, hchildren]
    simp only [Visit.declaration?, hshape, hfields, Option.map_some]
  | _ => exact ⟨none, fun property => by simp [Visit.declaration?, hshape]⟩

theorem declared?_renamed {first second : String} {marked other : Marked}
    (hrenamed : marked.Renamed first second other) :
    Option.Rel (MarkedDeclaration.Renamed first second) marked.declared? other.declared? := by
  obtain ⟨⟨property, value⟩, inherits⟩ := marked
  obtain ⟨⟨property', value'⟩, inherits'⟩ := other
  obtain ⟨hvalue, hinherits, hown, hother⟩ := hrenamed
  obtain rfl : value = value' := hvalue
  obtain rfl : inherits = inherits' := hinherits
  obtain ⟨body?, hbodies⟩ := exists_bodies_of_value value
  simp only [Marked.declared?, hbodies]
  cases body? with
  | none => exact .none
  | some body =>
    refine .some ⟨rfl, rfl, fun hinherits => ?_, fun hinherits => ?_⟩
    · obtain ⟨hfirst, hsecond⟩ := hown hinherits
      exact ⟨congrArg capitalize hfirst, congrArg capitalize hsecond⟩
    · exact congrArg capitalize (hother hinherits)

theorem map_declaration_declared? (marks : List Marked) :
    (marks.filterMap Marked.declared?).map MarkedDeclaration.declaration =
      (marks.map Marked.visit).filterMap Visit.declaration? := by
  rw [List.map_filterMap, List.filterMap_map]
  refine List.filterMap_congr fun marked _ => ?_
  rw [Marked.declared?, Option.map_map]
  exact Option.map_id'

/-- One declared name put in the place of another. -/
def replaceName (old new name : String) : String := if name = old then new else name

theorem mapDeclared_entryMeaning (rename : String → String) (entry : Value) :
    (entryMeaning entry).mapDeclared rename = entryMeaning entry := by
  unfold entryMeaning
  split <;> rfl

/-- The declared names in a type are the name of its schema, so under another name the type is the same
but for that. -/
theorem typeOf_renamed (visit : Visit) (second : String) :
    typeOf ⟨second, visit.value⟩ =
      (typeOf visit).mapDeclared (replaceName (capitalize visit.property) (capitalize second)) := by
  induction visit using Visit.induction with
  | step visit ih =>
    rw [typeOf_eq, typeOf_eq]
    cases hshape : classify visit.value with
    | enum values => simp [TypeExpr.mapDeclared, replaceName]
    | object properties required => simp [TypeExpr.mapDeclared, replaceName]
    | array item? =>
      cases item? with
      | none => rfl
      | some item => exact congrArg TypeExpr.list (ih _ (Visit.item_mem_children hshape))
    | anyOf alternatives =>
      rw [TypeExpr.mapDeclared_union, List.map_map]
      refine congrArg TypeExpr.union (List.map_congr_left fun alternative hmem => ?_)
      exact ih _ (Visit.alternative_mem_children hshape hmem)
    | types names =>
      rw [TypeExpr.mapDeclared_union, List.map_map]
      exact congrArg TypeExpr.union
        (List.map_congr_left fun entry _ => (mapDeclared_entryMeaning _ entry).symm)
    | _ => rfl

/-! ### Documents -/

/-- What a document visits, with a mark on what has the name of the root. -/
def documentMarks (rootName : String) (document definitions : Members) : List Marked :=
  (definitions.reverse.flatMap fun (key, value) => markedWalk false ⟨key, value⟩) ++
    markedWalk true ⟨rootName, .object document⟩

theorem map_visit_documentMarks (rootName : String) (document definitions : Members) :
    (documentMarks rootName document definitions).map Marked.visit =
      (documentVisits rootName document definitions).flatMap walk := by
  unfold documentMarks documentVisits
  rw [List.map_append, List.map_flatMap, List.flatMap_append, List.flatMap_map, List.flatMap_singleton]
  simp only [map_visit_markedWalk]

/-- The declarations of a document, with a mark on those that have the name of the root. -/
def markedDeclarations (rootName : String) (document definitions : Members) : List MarkedDeclaration :=
  (documentMarks rootName document definitions).filterMap Marked.declared?

theorem map_declaration_markedDeclarations (rootName : String) (document definitions : Members) :
    (markedDeclarations rootName document definitions).map MarkedDeclaration.declaration =
      documentDeclarations rootName document definitions := by
  rw [markedDeclarations, map_declaration_declared?, map_visit_documentMarks, List.filterMap_flatMap]
  rfl

theorem renamed_documentMarks (first second : String) (document definitions : Members) :
    List.Forall₂ (Marked.Renamed first second) (documentMarks first document definitions)
      (documentMarks second document definitions) := by
  refine List.rel_append ?_ (renamed_markedWalk ⟨first, .object document⟩ second)
  refine List.rel_flatMap (List.forall₂_same.2 fun _ _ => rfl) ?_
  rintro ⟨key, value⟩ _ rfl
  exact renamed_markedWalk_false first second ⟨key, value⟩

theorem renamed_markedDeclarations (first second : String) (document definitions : Members) :
    List.Forall₂ (MarkedDeclaration.Renamed first second) (markedDeclarations first document definitions)
      (markedDeclarations second document definitions) := by
  refine List.rel_filterMap ?_ (renamed_documentMarks first second document definitions)
  exact fun _ _ hrenamed => declared?_renamed hrenamed

theorem inherits_documentMarks_iff {rootName : String} {document definitions : Members} {visit : Visit} :
    ⟨visit, true⟩ ∈ documentMarks rootName document definitions ↔
      Relation.ReflTransGen Visit.Wraps ⟨rootName, .object document⟩ visit := by
  rw [documentMarks, List.mem_append, mem_markedWalk_iff]
  refine or_iff_right fun hmem => ?_
  obtain ⟨definition, _, hmem⟩ := List.mem_flatMap.1 hmem
  cases inherits_of_mem_markedWalk_false hmem

/-- **The name of the root names what the root itself declares.** Under the warning policy a document is
refused under every name of its root, or converted under every name. Then the declarations under two
names are as many and have the same bodies, position by position. They have the same names too, except
those of the objects and enumerations that the root reaches through lists and unions, which are named
after the root. In the root's type the one name stands where the other does, and nothing else differs. -/
theorem rootName_names_own (options : Options) (document : Value) (first second : String) :
    (∃ error, ∀ rootName,
      convert { options with collisions := .warn, rootName := rootName } document = (.error error, [])) ∨
    ∃ members found, document = .object members ∧ definitions members = .ok found ∧
      (∀ rootName, ∃ after,
        runFrom (emitDocument { options with collisions := .warn, rootName := rootName } members found)
            .empty = (.ok (typeOf ⟨rootName, document⟩), after) ∧
          after.declarations =
            (markedDeclarations rootName members found).map MarkedDeclaration.declaration ∧
          (convert { options with collisions := .warn, rootName := rootName } document).1 =
            .ok (renderModule options.rootAlias after.declarations (typeOf ⟨rootName, document⟩)) ∧
          ∀ visit, ⟨visit, true⟩ ∈ documentMarks rootName members found ↔
            Relation.ReflTransGen Visit.Wraps ⟨rootName, document⟩ visit) ∧
      List.Forall₂ (MarkedDeclaration.Renamed first second) (markedDeclarations first members found)
        (markedDeclarations second members found) ∧
      typeOf ⟨second, document⟩ =
        (typeOf ⟨first, document⟩).mapDeclared (replaceName (capitalize first) (capitalize second)) := by
  cases document with
  | object members =>
    cases hfound : definitions members with
    | error mismatch =>
      exact .inl ⟨.mismatched mismatch none, fun rootName => by rw [convert_object, hfound]⟩
    | ok found =>
      refine .inr ⟨members, found, rfl, hfound, fun rootName => ?_,
        renamed_markedDeclarations first second members found,
        typeOf_renamed ⟨first, .object members⟩ second⟩
      have hrun := runFrom_emitDocument_warn { options with rootName := rootName } members found .empty
      refine ⟨_, hrun, ?_, ?_, fun visit => inherits_documentMarks_iff⟩
      · rw [map_declaration_markedDeclarations, declarations_document]
      · rw [convert_of_definitions hfound, hrun]
        rfl
  | _ => exact .inl ⟨_, fun _ => rfl⟩

end SchemaTyping.Emission
