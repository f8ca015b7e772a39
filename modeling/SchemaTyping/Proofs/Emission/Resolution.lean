import SchemaTyping.Proofs.Emission.DependentsFirst
import SchemaTyping.Proofs.Emission.TopLevelNames

/-!
# What a name stands for

Under the strict policy the names of declarations are distinct, so a name stands for one declaration at
most. The walk puts a declaration there for every object and enumeration that it meets, so each of them
is what its name stands for. A declared name in a type goes back to such a schema: the type is either
that name, or it wraps the types of schemas that stand under the same property.
-/

namespace SchemaTyping.Emission

open Json (Value Members)
open Schema (Node classify)
open Text (capitalize)
open Typing (TypeExpr Field Declaration namesOf quoteLiteral renderModule)

/-! ### Looking a name up -/

def declarationsNamed (name : String) (declarations : List Declaration) : List Declaration :=
  declarations.filter (·.name = name)

theorem declarationsNamed_eq_nil {declarations : List Declaration} {name : String}
    (hname : name ∉ namesOf declarations) :
    declarationsNamed name declarations = [] := by
  apply List.filter_eq_nil_iff.2
  intro declaration hmem hheld
  exact hname (List.mem_map.2 ⟨declaration, hmem, of_decide_eq_true hheld⟩)

theorem declarationsNamed_eq_singleton {declarations : List Declaration} {declaration : Declaration}
    (hdistinct : (namesOf declarations).Nodup) (hmem : declaration ∈ declarations) :
    declarationsNamed declaration.name declarations = [declaration] := by
  obtain ⟨before, rest, rfl⟩ := List.append_of_mem hmem
  have hnames : namesOf (before ++ declaration :: rest) = namesOf before ++ declaration.name ::
      namesOf rest :=
    List.map_append
  rw [hnames, List.nodup_middle, List.nodup_cons, List.mem_append, not_or] at hdistinct
  have hbefore := declarationsNamed_eq_nil hdistinct.1.1
  have hrest := declarationsNamed_eq_nil hdistinct.1.2
  have hself : declarationsNamed declaration.name (declaration :: rest) =
      declaration :: declarationsNamed declaration.name rest :=
    List.filter_cons_of_pos (decide_eq_true rfl)
  calc declarationsNamed declaration.name (before ++ declaration :: rest)
      = declarationsNamed declaration.name before ++ declarationsNamed declaration.name
        (declaration :: rest) :=
        List.filter_append ..
    _ = [declaration] := by rw [hbefore, hself, hrest, List.nil_append]

/-! ### From a name in a type to a schema -/

/-- The relation of a schema that declares nothing itself to one right below it, which stands under the
same property. -/
def Visit.Wraps (visit child : Visit) : Prop := visit.declaration? = none ∧ child ∈ visit.children

theorem Visit.Wraps.property_eq {visit child : Visit} (hwraps : visit.Wraps child) :
    child.property = visit.property := by
  obtain ⟨hnone, hchild⟩ := hwraps
  unfold Visit.declaration? at hnone
  unfold Visit.children at hchild
  cases hshape : classify visit.value with
  | object properties required => simp [hshape] at hnone
  | array item? =>
    cases item? with
    | none => simp [hshape] at hchild
    | some item =>
      simp only [hshape, List.mem_singleton] at hchild
      rw [hchild]
  | anyOf alternatives =>
    simp only [hshape, List.mem_map] at hchild
    obtain ⟨alternative, _, rfl⟩ := hchild
    rfl
  | _ => simp [hshape] at hchild

theorem property_eq_of_wrapped {visit target : Visit}
    (hwrapped : Relation.ReflTransGen Visit.Wraps visit target) :
    target.property = visit.property := by
  induction hwrapped with
  | refl => rfl
  | tail _ hwraps ih => rw [hwraps.property_eq, ih]

/-- A schema that declares nothing has the declared names of its children, and no others, in its type. -/
theorem declaredNames_of_no_declaration {visit : Visit} (hnone : visit.declaration? = none) :
    (typeOf visit).declaredNames = visit.children.flatMap fun child => (typeOf child).declaredNames := by
  have hleaves := congrArg (List.filterMap TypeExpr.declaredName?) (leaves_step visit)
  rw [hnone, Option.toList_none, List.flatMap_nil, List.nil_append, List.filterMap_append,
    declaredNames_leaves, hnone, List.filterMap_flatMap] at hleaves
  simp only [TypeExpr.declaredNames_eq_leaves]
  rw [hleaves]
  exact List.append_nil _

theorem exists_wrapped_of_declaredName {visit : Visit} {name : String}
    (hname : name ∈ (typeOf visit).declaredNames) :
    ∃ target declaration, Relation.ReflTransGen Visit.Wraps visit target ∧
      target.declaration? = some declaration ∧
      declaration.name = name := by
  induction visit using Visit.induction with
  | step visit ih =>
    cases hdeclaration : visit.declaration? with
    | some declaration =>
      have htype : typeOf visit = .declared declaration.name :=
        typeOf_eq_declared_iff.2 ⟨declaration, hdeclaration, rfl⟩
      rw [htype] at hname
      exact ⟨visit, declaration, .refl, hdeclaration, (List.mem_singleton.1 hname).symm⟩
    | none =>
      rw [declaredNames_of_no_declaration hdeclaration, List.mem_flatMap] at hname
      obtain ⟨child, hchild, hname⟩ := hname
      obtain ⟨target, declaration, hwrapped, htarget⟩ := ih child hchild hname
      exact ⟨target, declaration, hwrapped.head ⟨hdeclaration, hchild⟩, htarget⟩

theorem above_of_wrapped {visit target : Visit}
    (hwrapped : Relation.ReflTransGen Visit.Wraps visit target) :
    Relation.ReflTransGen Visit.Above visit target := by
  induction hwrapped with
  | refl => exact .refl
  | tail _ hwraps ih => exact ih.tail hwraps.2

/-! ### Strict documents -/

theorem object_of_convert {options : Options} {document : Value} {text : String}
    (hconvert : (convert options document).1 = .ok text) : ∃ members, document = .object members := by
  cases document with
  | object members => exact ⟨members, rfl⟩
  | _ => cases hconvert

theorem declaration_mem_of_reached {rootName : String} {document found : Members} {start visit : Visit}
    {declaration : Declaration} (hstart : start ∈ documentVisits rootName document found)
    (hreached : Relation.ReflTransGen Visit.Above start visit)
    (hdeclaration : visit.declaration? = some declaration) :
    declaration ∈ documentDeclarations rootName document found := by
  have hwalk : visit ∈ walk start := mem_walk_iff.2 hreached
  have hstarted : declaration ∈ declarationsOf start := List.mem_filterMap.2 ⟨visit, hwalk, hdeclaration⟩
  exact List.mem_flatMap.2 ⟨start, hstart, hstarted⟩

/-- What a field says of a property of an object schema, among declarations that its names are looked up
in. -/
structure FieldResolves (declarations : List Declaration) (object : Value) (key : String) (value : Value)
    (field : Field) : Prop where
  name : field.name = key
  /-- The type is what emitting the property's schema returns, wherever that is done. -/
  type : ∀ generator, (runFrom (emit .warn key (Node.ofValue value)) generator).1 = .ok field.type
  required : field.required = true ↔ Value.string key ∈ requiredEntries object
  /-- Each name in it stands for the declaration of a schema at the property, itself or inside lists and
  unions. -/
  resolved : ∀ name ∈ field.type.declaredNames, ∃ target declaration,
    Relation.ReflTransGen Visit.Wraps ⟨key, value⟩ target ∧ target.property = key ∧
      target.declaration? = some declaration ∧ declarationsNamed name declarations = [declaration]

/-- A child's field resolves in declarations that hold one declaration for each schema that can be
reached from the child. -/
theorem fieldResolves_of_child {declarations : List Declaration} (visit : Visit) {child : Visit}
    (hheld : ∀ target declaration, Relation.ReflTransGen Visit.Above child target →
      target.declaration? = some declaration →
      declarationsNamed declaration.name declarations = [declaration]) :
    FieldResolves declarations visit.value child.property child.value
      ⟨child.property, typeOf child, isRequired visit.value child.property⟩ where
  name := rfl
  type := fun generator => congrArg Prod.fst (runFrom_emit_warn child generator)
  required := decide_eq_true_iff
  resolved := by
    intro name hname
    obtain ⟨target, declaration, hwrapped, hdeclaration, rfl⟩ := exists_wrapped_of_declaredName hname
    exact ⟨target, declaration, hwrapped, property_eq_of_wrapped hwrapped, hdeclaration,
      hheld target declaration (above_of_wrapped hwrapped) hdeclaration⟩

/-- **Under the strict policy every name stands for its own schema.** Let a document be converted. For
each enumeration and each object that can be reached from a definition or from the root there is exactly
one declaration under its name. That of an enumeration has its values, quoted and in order. That of an
object has one field for each property, in order, with the type of the property's schema and with the
object's word on whether the property is required; and each declared name in such a type stands for the
declaration of a schema found at that property. -/
theorem strict_names_resolve {options : Options} {document : Value} {text : String}
    (hconvert : (convert { options with collisions := .error } document).1 = .ok text) :
    ∃ members found root after, document = .object members ∧ definitions members = .ok found ∧
      runFrom (emitDocument { options with collisions := .error } members found) .empty =
        (.ok root, after) ∧
      text = renderModule options.rootAlias after.declarations root ∧
      ∀ start ∈ documentVisits options.rootName members found, ∀ visit,
        Relation.ReflTransGen Visit.Above start visit →
        (∀ values, classify visit.value = .enum values →
          declarationsNamed (capitalize visit.property) after.declarations =
            [⟨capitalize visit.property, .literal (values.map quoteLiteral)⟩]) ∧
        (∀ properties required, classify visit.value = .object properties required → ∃ fields,
          declarationsNamed (capitalize visit.property) after.declarations =
            [⟨capitalize visit.property, .record fields⟩] ∧
          List.Forall₂
            (fun member field => FieldResolves after.declarations visit.value member.1 member.2 field)
            (properties.getD []) fields) := by
  obtain ⟨members, rfl⟩ := object_of_convert hconvert
  obtain ⟨found, root, after, hfound, hrun, htext⟩ := exists_emitDocument_of_convert hconvert
  have hdistinct := nodup_of_emitDocument_strict hrun
  refine ⟨members, found, root, after, rfl, hfound, hrun, htext, fun start hstart visit hreached => ?_⟩
  -- whatever can be reached is declared, and by distinctness nothing else has its name
  have hheld : ∀ target declaration, Relation.ReflTransGen Visit.Above visit target →
      target.declaration? = some declaration →
        declarationsNamed declaration.name after.declarations = [declaration] := by
    intro target declaration htarget hdeclaration
    apply declarationsNamed_eq_singleton hdistinct
    rw [declarations_of_emitDocument hrun]
    exact declaration_mem_of_reached hstart (hreached.trans htarget) hdeclaration
  constructor
  · intro values hshape
    refine hheld visit ⟨capitalize visit.property, .literal (values.map quoteLiteral)⟩ .refl ?_
    simp only [Visit.declaration?, hshape]
  · intro properties required hshape
    refine ⟨visit.fields, ?_, ?_⟩
    · refine hheld visit ⟨capitalize visit.property, .record visit.fields⟩ .refl ?_
      simp only [Visit.declaration?, hshape]
    · rw [Visit.fields, Visit.children_of_object hshape, List.map_map, List.forall₂_map_right_iff,
        List.forall₂_same]
      intro member hmem
      have hchild : visit.Above ⟨member.1, member.2⟩ := Visit.property_mem_children hshape hmem
      have hbelow : ∀ target declaration, Relation.ReflTransGen Visit.Above ⟨member.1, member.2⟩ target →
          target.declaration? = some declaration →
            declarationsNamed declaration.name after.declarations = [declaration] :=
        fun target declaration htarget => hheld target declaration (htarget.head hchild)
      exact fieldResolves_of_child visit hbelow

/-- A record with one field, a list of records with an enumeration each. -/
def shopDocument : Members :=
  [("type", .string "object"), ("properties", .object [("owners", ownerList)])]

theorem shopDocument_resolved :
    ∃ text root after owners, (convert { collisions := .error } (.object shopDocument)).1 = .ok text ∧
      runFrom (emitDocument { collisions := .error } shopDocument []) .empty = (.ok root, after) ∧
      declarationsNamed "Kind" after.declarations = [⟨"Kind", .literal ["\"cat\""]⟩] ∧
      declarationsNamed "Root" after.declarations = [⟨"Root", .record [owners]⟩] ∧
      FieldResolves after.declarations (.object shopDocument) "owners" ownerList owners := by
  obtain ⟨text, hconvert⟩ : ∃ text, (convert { collisions := .error } (.object shopDocument)).1 =
      .ok text := ⟨_, rfl⟩
  obtain ⟨members, found, root, after, hmembers, hfound, hrun, _, hresolved⟩ :=
    @strict_names_resolve {} (.object shopDocument) text hconvert
  cases hmembers
  obtain rfl : [] = found := Except.ok.inj hfound
  have hroot : (⟨"root", .object shopDocument⟩ : Visit) ∈ documentVisits "root" shopDocument [] :=
    List.mem_singleton_self _
  have howners : Visit.Above ⟨"root", .object shopDocument⟩ ⟨"owners", ownerList⟩ :=
    List.mem_singleton_self _
  have hitems : Visit.Above ⟨"owners", ownerList⟩
      ⟨"owners", objectWith "kind" (.object [("enum", .array [.string "cat"])])⟩ :=
    List.mem_singleton_self _
  have hkind : Visit.Above ⟨"owners", objectWith "kind" (.object [("enum", .array [.string "cat"])])⟩
      ⟨"kind", .object [("enum", .array [.string "cat"])]⟩ := List.mem_singleton_self _
  have hshape : classify (.object shopDocument) = .object (some [("owners", ownerList)]) [] := by decide
  obtain ⟨fields, hrecord, hfields⟩ := (hresolved _ hroot _ .refl).2 _ _ hshape
  cases hfields with
  | cons howner hnone =>
    cases hnone
    exact ⟨text, root, after, _, hconvert, hrun,
      (hresolved _ hroot _ (((Relation.ReflTransGen.single howners).tail hitems).tail hkind)).1 _ rfl,
      hrecord, howner⟩

end SchemaTyping.Emission
