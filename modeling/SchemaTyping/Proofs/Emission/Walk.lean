import Mathlib.Logic.Relation
import SchemaTyping.Emission.Types

/-!
# The walk through a schema

What emission visits and what comes of each visit, as functions of the schema alone. A visit is a schema
together with the property that it stands under. The walk lists the visits with children before their
parent; each visit has a type, and those of objects and enumerations a declaration. No generator occurs
here, so nothing below can depend on what was declared before: that emission is no more than this walk is
the subject of `Proofs/Emission/Script.lean`.
-/

namespace SchemaTyping.Emission

open Json (Value Members)
open Schema (Primitive Shape classify properties? requiredNames distinctStrings)
open Text (capitalize)
open Typing (TypeExpr Field Declaration Body quoteLiteral)

/-- A schema and the property that it stands under. -/
structure Visit where
  property : String
  value : Value

/-- The schemas right below a schema, in document order. The properties of an object stand under their
own keys, the items of a list and the alternatives of a union under the property of the whole. What a
reference leads to is not below it. -/
def Visit.children (visit : Visit) : List Visit :=
  match classify visit.value with
  | .object properties _ => (properties.getD []).map fun (key, value) => ⟨key, value⟩
  | .array (some item) => [⟨visit.property, item⟩]
  | .anyOf alternatives => alternatives.map fun alternative => ⟨visit.property, alternative⟩
  | _ => []

theorem Visit.children_of_object {visit : Visit} {properties : Option Members} {required : List String}
    (hshape : classify visit.value = .object properties required) :
    visit.children = (properties.getD []).map fun (key, value) => ⟨key, value⟩ := by
  simp only [Visit.children, hshape]

theorem Visit.children_of_list {visit : Visit} {item : Value}
    (hshape : classify visit.value = .array (some item)) :
    visit.children = [⟨visit.property, item⟩] := by
  simp only [Visit.children, hshape]

theorem Visit.children_of_union {visit : Visit} {alternatives : List Value}
    (hshape : classify visit.value = .anyOf alternatives) :
    visit.children = alternatives.map fun alternative => ⟨visit.property, alternative⟩ := by
  simp only [Visit.children, hshape]

theorem Visit.property_mem_children {visit : Visit} {properties : Option Members}
    {required : List String} {member : String × Value}
    (hshape : classify visit.value = .object properties required) (hmem : member ∈ properties.getD []) :
    ⟨member.1, member.2⟩ ∈ visit.children := by
  rw [Visit.children_of_object hshape]
  exact List.mem_map_of_mem hmem

theorem Visit.item_mem_children {visit : Visit} {item : Value}
    (hshape : classify visit.value = .array (some item)) :
    ⟨visit.property, item⟩ ∈ visit.children := by
  rw [Visit.children_of_list hshape]
  exact List.mem_singleton_self _

theorem Visit.alternative_mem_children {visit : Visit} {alternative : Value} {alternatives : List Value}
    (hshape : classify visit.value = .anyOf alternatives) (hmem : alternative ∈ alternatives) :
    ⟨visit.property, alternative⟩ ∈ visit.children := by
  rw [Visit.children_of_union hshape]
  exact List.mem_map_of_mem hmem

/-! ### Going down a schema ends

A child is a part of its parent's value, so recursion over visits may follow the size of the value. -/

theorem sizeOf_lt_of_lookup {members : Members} {key : String} {value : Value}
    (hlookup : members.lookup key = some value) : sizeOf value < sizeOf (Value.object members) := by
  induction members with
  | nil => simp at hlookup
  | cons member rest ih =>
    obtain ⟨first, held⟩ := member
    rw [List.lookup_cons] at hlookup
    split at hlookup
    · cases hlookup
      simp only [Value.object.sizeOf_spec, List.cons.sizeOf_spec, Prod.mk.sizeOf_spec]
      omega
    · have hrest := ih hlookup
      simp only [Value.object.sizeOf_spec, List.cons.sizeOf_spec] at hrest ⊢
      omega

theorem sizeOf_lt_of_mem_object {members : Members} {member : String × Value} (hmem : member ∈ members) :
    sizeOf member.2 < sizeOf (Value.object members) := by
  have hmember := List.sizeOf_lt_of_mem hmem
  obtain ⟨key, value⟩ := member
  simp only [Prod.mk.sizeOf_spec, Value.object.sizeOf_spec] at hmember ⊢
  omega

theorem sizeOf_lt_of_mem_array {values : List Value} {value : Value} (hmem : value ∈ values) :
    sizeOf value < sizeOf (Value.array values) := by
  have hvalue := List.sizeOf_lt_of_mem hmem
  simp only [Value.array.sizeOf_spec]
  omega

theorem sizeOf_item_lt {value item : Value} (hshape : classify value = .array (some item)) :
    sizeOf item < sizeOf value := by
  obtain ⟨members, rfl, hitem⟩ := Schema.items_of_classify hshape
  exact sizeOf_lt_of_lookup hitem.symm

theorem sizeOf_alternative_lt {value alternative : Value} {alternatives : List Value}
    (hshape : classify value = .anyOf alternatives) (hmem : alternative ∈ alternatives) :
    sizeOf alternative < sizeOf value := by
  obtain ⟨members, rfl, hlookup⟩ := Schema.alternatives_of_classify hshape
  exact Nat.lt_trans (sizeOf_lt_of_mem_array hmem) (sizeOf_lt_of_lookup hlookup)

theorem sizeOf_property_lt {value : Value} {properties : Option Members} {required : List String}
    {member : String × Value} (hshape : classify value = .object properties required)
    (hmem : member ∈ properties.getD []) : sizeOf member.2 < sizeOf value := by
  obtain ⟨members, rfl, rfl, -⟩ := Schema.object_of_classify hshape
  unfold properties? at hmem
  split at hmem
  · rename_i found hlookup
    exact Nat.lt_trans (sizeOf_lt_of_mem_object hmem) (sizeOf_lt_of_lookup hlookup)
  · simp at hmem

theorem Visit.sizeOf_child_lt {visit child : Visit} (hchild : child ∈ visit.children) :
    sizeOf child.value < sizeOf visit.value := by
  unfold Visit.children at hchild
  split at hchild
  · rename_i properties required hshape
    obtain ⟨member, hmem, rfl⟩ := List.mem_map.1 hchild
    exact sizeOf_property_lt hshape hmem
  · rename_i item hshape
    obtain rfl := List.mem_singleton.1 hchild
    exact sizeOf_item_lt hshape
  · rename_i alternatives hshape
    obtain ⟨alternative, hmem, rfl⟩ := List.mem_map.1 hchild
    exact sizeOf_alternative_lt hshape hmem
  · simp at hchild

/-- What holds of a visit whenever it holds of its children holds of every visit. -/
theorem Visit.induction {motive : Visit → Prop}
    (step : ∀ visit : Visit, (∀ child ∈ visit.children, motive child) → motive visit) (visit : Visit) :
    motive visit :=
  step visit fun child _ => Visit.induction step child
termination_by sizeOf visit.value
decreasing_by exact Visit.sizeOf_child_lt ‹_›

/-! ### The order of the walk -/

/-- A schema and all that is below it, each after what is below it, in the order in which emission is
done with them. -/
def walk (visit : Visit) : List Visit :=
  (visit.children.attach.flatMap fun child => walk child.1) ++ [visit]
termination_by sizeOf visit.value
decreasing_by exact Visit.sizeOf_child_lt child.2

theorem walk_eq (visit : Visit) : walk visit = visit.children.flatMap walk ++ [visit] := by
  rw [walk]
  congr 1
  rw [List.flatMap_subtype (g := walk) (fun _ _ => rfl), List.unattach_attach]

/-- What a document visits from the top: its definitions from the last to the first, each under its key,
and then its root. -/
def documentVisits (rootName : String) (document definitions : Members) : List Visit :=
  (definitions.reverse.map fun (key, value) => ⟨key, value⟩) ++ [⟨rootName, .object document⟩]

/-- The relation of a schema to one right below it. -/
def Visit.Above (visit child : Visit) : Prop := child ∈ visit.children

/-- The walk meets what can be reached by going down, and nothing else. -/
theorem mem_walk_iff {visit other : Visit} :
    other ∈ walk visit ↔ Relation.ReflTransGen Visit.Above visit other := by
  induction visit using Visit.induction with
  | step visit ih =>
    rw [walk_eq, List.mem_append, List.mem_flatMap, List.mem_singleton,
      Relation.ReflTransGen.cases_head_iff]
    constructor
    · rintro (⟨child, hchild, hother⟩ | rfl)
      · exact .inr ⟨child, hchild, (ih child hchild).1 hother⟩
      · exact .inl rfl
    · rintro (rfl | ⟨child, hchild, hother⟩)
      · exact .inr rfl
      · exact .inl ⟨child, hchild, (ih child hchild).2 hother⟩

/-! ### What a visit comes to -/

/-- The primitive type that an entry in a list of types names. -/
def namedPrimitive? : Value → Option Primitive
  | .string name => Primitive.ofName? name
  | _ => none

/-- The type of an entry in a list of types. -/
def entryMeaning (entry : Value) : TypeExpr :=
  match namedPrimitive? entry with
  | some type => .primitive type
  | none => .any

/-- The type of a schema that stands under a property. -/
def typeOf (visit : Visit) : TypeExpr :=
  match _hshape : classify visit.value with
  | .empty => .any
  | .enum _ => .declared (capitalize visit.property)
  | .reference pointer => .reference (referenceName pointer)
  | .object _ _ => .declared (capitalize visit.property)
  | .array none => .list .any
  | .array (some item) => .list (typeOf ⟨visit.property, item⟩)
  | .anyOf alternatives =>
    .union (alternatives.attach.map fun alternative => typeOf ⟨visit.property, alternative.1⟩)
  | .primitive type => .primitive type
  | .types names => .union (names.map entryMeaning)
  | .unrecognized => .any
termination_by sizeOf visit.value
decreasing_by
  · exact sizeOf_item_lt _hshape
  · exact sizeOf_alternative_lt _hshape alternative.2

theorem typeOf_eq (visit : Visit) :
    typeOf visit =
      match classify visit.value with
      | .empty => .any
      | .enum _ => .declared (capitalize visit.property)
      | .reference pointer => .reference (referenceName pointer)
      | .object _ _ => .declared (capitalize visit.property)
      | .array none => .list .any
      | .array (some item) => .list (typeOf ⟨visit.property, item⟩)
      | .anyOf alternatives =>
        .union (alternatives.map fun alternative => typeOf ⟨visit.property, alternative⟩)
      | .primitive type => .primitive type
      | .types names => .union (names.map entryMeaning)
      | .unrecognized => .any := by
  rw [typeOf]
  split <;> rename_i hshape <;> simp only [hshape]
  rw [List.map_subtype (g := fun alternative => typeOf ⟨visit.property, alternative⟩) (fun _ _ => rfl),
    List.unattach_attach]

/-- The entries of an object schema's `required`. -/
def requiredEntries : Value → List Value
  | .object members =>
    match members.lookup "required" with
    | some (.array entries) => entries
    | _ => []
  | _ => []

/-- Whether an object schema requires a key. Entries that are no strings require nothing. -/
def isRequired (value : Value) (key : String) : Bool := decide (.string key ∈ requiredEntries value)

def Visit.fields (visit : Visit) : List Field :=
  visit.children.map fun child => ⟨child.property, typeOf child, isRequired visit.value child.property⟩

/-- What a schema declares under the capitalised name of its property, once all below it is declared. -/
def Visit.declaration? (visit : Visit) : Option Declaration :=
  match classify visit.value with
  | .enum values => some ⟨capitalize visit.property, .literal (values.map quoteLiteral)⟩
  | .object _ _ => some ⟨capitalize visit.property, .record visit.fields⟩
  | _ => none

/-- The shapes of enumerations and of objects, which are declared under a name. -/
def declaresName : Shape → Bool
  | .enum _ | .object _ _ => true
  | _ => false

theorem Visit.isSome_declaration? (visit : Visit) :
    visit.declaration?.isSome = declaresName (classify visit.value) := by
  unfold Visit.declaration?
  cases classify visit.value <;> rfl

theorem isDeclared_typeOf (visit : Visit) :
    (typeOf visit).isDeclared = declaresName (classify visit.value) := by
  rw [typeOf_eq]
  cases classify visit.value with
  | array item? => cases item? <;> rfl
  | _ => rfl

/-- The schemas that declare a name are those whose type it is. -/
theorem typeOf_eq_declared_iff {visit : Visit} {name : String} :
    typeOf visit = .declared name ↔ ∃ declaration, visit.declaration? = some declaration ∧
      declaration.name = name := by
  rw [typeOf_eq, Visit.declaration?]
  cases hshape : classify visit.value with
  | array item? => cases item? <;> simp
  | _ => simp

/-- All that a schema declares, in order. -/
def declarationsOf (visit : Visit) : List Declaration :=
  (walk visit).filterMap Visit.declaration?

theorem declarationsOf_eq (visit : Visit) :
    declarationsOf visit = visit.children.flatMap declarationsOf ++ visit.declaration?.toList := by
  have hself : [visit].filterMap Visit.declaration? = visit.declaration?.toList := by
    cases hdeclaration : visit.declaration? <;> simp [hdeclaration]
  unfold declarationsOf
  rw [walk_eq, List.filterMap_append, List.filterMap_flatMap, hself]

theorem declaration_mem_declarationsOf {visit : Visit} {declaration : Declaration}
    (hdeclaration : visit.declaration? = some declaration) : declaration ∈ declarationsOf visit := by
  rw [declarationsOf_eq, hdeclaration]
  exact List.mem_append_right _ (List.mem_singleton_self _)

/-! ### Required keys -/

private theorem mem_distinctStrings_from (values : List Value) (found : List String) (name : String) :
    name ∈ values.foldl (fun found value =>
        match value with
        | .string s => if s ∈ found then found else found ++ [s]
        | _ => found) found ↔ name ∈ found ∨ Value.string name ∈ values := by
  induction values generalizing found with
  | nil => simp
  | cons value rest ih =>
    rw [List.foldl_cons, ih]
    cases value with
    | string s =>
      by_cases hfound : s ∈ found
      · simp only [hfound, if_true, List.mem_cons, Value.string.injEq]
        constructor
        · rintro (h | h)
          · exact .inl h
          · exact .inr (.inr h)
        · rintro (h | rfl | h)
          · exact .inl h
          · exact .inl hfound
          · exact .inr h
      · simp only [hfound, if_false, List.mem_append, List.mem_cons, List.not_mem_nil, or_false,
          Value.string.injEq, or_assoc]
    | _ => simp

theorem mem_distinctStrings {values : List Value} {name : String} :
    name ∈ distinctStrings values ↔ Value.string name ∈ values := by
  exact (mem_distinctStrings_from values [] name).trans (by simp)

theorem contains_required {value : Value} {properties : Option Members} {required : List String}
    (hshape : classify value = .object properties required) (key : String) :
    required.contains key = isRequired value key := by
  obtain ⟨members, rfl, -, rfl⟩ := Schema.object_of_classify hshape
  have hentries : requiredNames members = distinctStrings (requiredEntries (.object members)) := by
    simp only [requiredNames, requiredEntries]
    cases members.lookup "required" with
    | none => rfl
    | some held => cases held <;> rfl
  rw [hentries, List.contains_eq_mem, isRequired, decide_eq_decide]
  exact mem_distinctStrings

end SchemaTyping.Emission
