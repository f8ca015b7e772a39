import SchemaTyping.Proofs.Emission.Sink

/-!
# The keywords that matter

The first keyword that gives a schema its shape decides which others are read. The keyword core of a
schema has these and nothing else, all the way down: it has the shape of the schema, with the cores of
its children below it, so it has the same type and the same declarations, and emission cannot tell the
two apart but for warnings. A schema of no known shape has an empty core, which is `Any` as well, without
the warning.
-/

namespace SchemaTyping.Emission

open Json (Value Members)
open Schema (Node Shape classify properties? distinctStrings requiredNames)
open Text (capitalize)
open Typing (TypeExpr Field Declaration)

/-- An object's `required`, if it is a list, with its strings only and each of them once. -/
def requiredCore : Value → Members
  | .object members =>
    match members.lookup "required" with
    | some (.array entries) => [("required", .array ((distinctStrings entries).map .string))]
    | _ => []
  | _ => []

/-- Without its keywords an object is empty. -/
def shapelessCore : Value → Value
  | .object _ => .object []
  | value => value

/-- A schema with those keywords only that its shape, and the shapes of the schemas below it, are read
from. -/
def keywordCore (value : Value) : Value :=
  match _hshape : classify value with
  | .enum values => .object [("enum", .array values)]
  | .reference pointer => .object [("$ref", .string pointer)]
  | .object none _ => .object (("type", .string "object") :: requiredCore value)
  | .object (some properties) _ =>
    .object (("type", .string "object") ::
      ("properties",
        .object (properties.attach.map fun member => (member.1.1, keywordCore member.1.2))) ::
        requiredCore value)
  | .array none => .object [("type", .string "array")]
  | .array (some item) => .object [("type", .string "array"), ("items", keywordCore item)]
  | .anyOf alternatives =>
    .object [("anyOf", .array (alternatives.attach.map fun alternative => keywordCore alternative.1))]
  | .primitive type => .object [("type", .string type.name)]
  | .types names => .object [("type", .array names)]
  | .empty | .unrecognized => shapelessCore value
termination_by sizeOf value
decreasing_by
  · exact sizeOf_property_lt _hshape member.2
  · exact sizeOf_item_lt _hshape
  · exact sizeOf_alternative_lt _hshape alternative.2

def coreMembers (members : Members) : Members := members.map fun (key, value) => (key, keywordCore value)

theorem keywordCore_eq (value : Value) :
    keywordCore value =
      match classify value with
      | .enum values => .object [("enum", .array values)]
      | .reference pointer => .object [("$ref", .string pointer)]
      | .object none _ => .object (("type", .string "object") :: requiredCore value)
      | .object (some properties) _ =>
        .object (("type", .string "object") :: ("properties", .object (coreMembers properties)) ::
          requiredCore value)
      | .array none => .object [("type", .string "array")]
      | .array (some item) => .object [("type", .string "array"), ("items", keywordCore item)]
      | .anyOf alternatives => .object [("anyOf", .array (alternatives.map keywordCore))]
      | .primitive type => .object [("type", .string type.name)]
      | .types names => .object [("type", .array names)]
      | .empty | .unrecognized => shapelessCore value := by
  rw [keywordCore]
  split <;> rename_i hshape <;> simp only [hshape]
  · rw [List.map_subtype (g := fun member : String × Value => (member.1, keywordCore member.2))
      (fun _ _ => rfl), List.unattach_attach]
    rfl
  · rw [List.map_subtype (g := keywordCore) (fun _ _ => rfl), List.unattach_attach]

/-! ### Required keys -/

private theorem nodup_distinctStrings_from (values : List Value) {found : List String}
    (hfound : found.Nodup) :
    (values.foldl (fun found value =>
        match value with
        | .string s => if s ∈ found then found else found ++ [s]
        | _ => found) found).Nodup := by
  induction values generalizing found with
  | nil => exact hfound
  | cons value rest ih =>
    rw [List.foldl_cons]
    cases value with
    | string s =>
      by_cases hs : s ∈ found
      · simp only [hs, if_true]
        exact ih hfound
      · simp only [hs, if_false]
        exact ih (List.nodup_append_comm.1 (List.nodup_cons.2 ⟨hs, hfound⟩))
    | _ => exact ih hfound

private theorem distinctStrings_from_strings {names found : List String}
    (hdistinct : (found ++ names).Nodup) :
    (names.map Value.string).foldl (fun found value =>
        match value with
        | .string s => if s ∈ found then found else found ++ [s]
        | _ => found) found = found ++ names := by
  induction names generalizing found with
  | nil => exact (List.append_nil found).symm
  | cons name rest ih =>
    have hname : name ∉ found := by
      intro hmem
      exact (List.nodup_append.1 hdistinct).2.2 name hmem name List.mem_cons_self rfl
    rw [List.append_cons] at hdistinct ⊢
    rw [List.map_cons, List.foldl_cons]
    simp only [hname, if_false]
    exact ih hdistinct

theorem distinctStrings_idem (entries : List Value) :
    distinctStrings ((distinctStrings entries).map .string) = distinctStrings entries :=
  distinctStrings_from_strings (nodup_distinctStrings_from entries List.nodup_nil)

theorem requiredCore_cases (members : Members) :
    (requiredCore (.object members) = [] ∧ requiredNames members = []) ∨
      (requiredCore (.object members) = [("required", .array ((requiredNames members).map .string))] ∧
        distinctStrings ((requiredNames members).map .string) = requiredNames members) := by
  simp only [requiredCore, requiredNames]
  cases members.lookup "required" with
  | none => exact .inl ⟨rfl, rfl⟩
  | some held =>
    cases held with
    | array entries => exact .inr ⟨rfl, distinctStrings_idem entries⟩
    | _ => exact .inl ⟨rfl, rfl⟩

/-! ### The shape of a core -/

/-- A shape with the cores of the children that it has. -/
def coreShape : Shape → Shape
  | .object properties required => .object (properties.map coreMembers) required
  | .array item? => .array (item?.map keywordCore)
  | .anyOf alternatives => .anyOf (alternatives.map keywordCore)
  | shape => shape

theorem core_object {value : Value} {properties : Option Members} {required : List String}
    (hshape : classify value = .object properties required) :
    classify (keywordCore value) = .object (properties.map coreMembers) required ∧
      requiredCore (keywordCore value) = requiredCore value := by
  obtain ⟨members, rfl, -, rfl⟩ := Schema.object_of_classify hshape
  rw [keywordCore_eq, hshape]
  rcases requiredCore_cases members with ⟨hcore, hnames⟩ | ⟨hcore, hnames⟩
  · rw [hcore, hnames]
    cases properties <;> exact ⟨rfl, rfl⟩
  · -- the strings of the list are read again, and are distinct already
    have hread : ∀ properties? : Option Members,
        Shape.object properties? (distinctStrings ((requiredNames members).map .string)) =
          .object properties? (requiredNames members) := fun _ => by rw [hnames]
    have hkept :
        [("required",
          Value.array ((distinctStrings ((requiredNames members).map .string)).map .string))] =
        [("required", Value.array ((requiredNames members).map .string))] := by rw [hnames]
    rw [hcore]
    cases properties with
    | none => exact ⟨hread none, hkept⟩
    | some properties => exact ⟨hread (some (coreMembers properties)), hkept⟩

/-- A core has the shape of the schema, unless that was not recognised and the core is empty. -/
theorem classify_core (value : Value) :
    classify (keywordCore value) = coreShape (classify value) ∨
      classify value = .unrecognized ∧ classify (keywordCore value) = .empty := by
  cases hshape : classify value with
  | object properties required => exact .inl (core_object hshape).1
  | unrecognized =>
    rw [keywordCore_eq, hshape]
    cases value with
    | object members => exact .inr ⟨rfl, rfl⟩
    | _ => exact .inl hshape
  | empty =>
    rw [keywordCore_eq, hshape]
    cases value with
    | object members => exact .inl rfl
    | _ => exact .inl hshape
  | array item? =>
    rw [keywordCore_eq, hshape]
    cases item? <;> exact .inl rfl
  | primitive type =>
    rw [keywordCore_eq, hshape]
    cases type <;> exact .inl rfl
  | _ =>
    rw [keywordCore_eq, hshape]
    exact .inl rfl

/-! ### What a core comes to -/

/-- The visit of the core instead of the schema. -/
def Visit.core (visit : Visit) : Visit := ⟨visit.property, keywordCore visit.value⟩

theorem children_core (visit : Visit) : visit.core.children = visit.children.map Visit.core := by
  unfold Visit.children Visit.core
  rcases classify_core visit.value with hcore | ⟨hunknown, hcore⟩
  · rw [hcore]
    cases classify visit.value with
    | object properties required =>
      cases properties with
      | none => rfl
      | some properties =>
        simp only [coreShape, Option.map_some, Option.getD_some, coreMembers, List.map_map,
          Function.comp_def]
    | array item? => cases item? <;> rfl
    | anyOf alternatives => simp only [coreShape, List.map_map, Function.comp_def]
    | _ => rfl
  · rw [hcore, hunknown]
    rfl

theorem typeOf_core (visit : Visit) : typeOf visit.core = typeOf visit := by
  induction visit using Visit.induction with
  | step visit ih =>
    rw [typeOf_eq, typeOf_eq visit]
    rcases classify_core visit.value with hcore | ⟨hunknown, hcore⟩
    · rw [show classify visit.core.value = _ from hcore]
      cases hshape : classify visit.value with
      | array item? =>
        cases item? with
        | none => rfl
        | some item => exact congrArg TypeExpr.list (ih _ (Visit.item_mem_children hshape))
      | anyOf alternatives =>
        refine congrArg TypeExpr.union ?_
        rw [List.map_map]
        apply List.map_congr_left
        intro alternative hmem
        exact ih _ (Visit.alternative_mem_children hshape hmem)
      | _ => rfl
    · rw [show classify visit.core.value = _ from hcore, hunknown]

theorem fields_core {visit : Visit} {properties : Option Members} {required : List String}
    (hshape : classify visit.value = .object properties required) :
    visit.core.fields = visit.fields := by
  have hcore : classify visit.core.value = .object (properties.map coreMembers) required :=
    (core_object hshape).1
  unfold Visit.fields
  rw [children_core, List.map_map]
  apply List.map_congr_left
  intro child _
  have hrequired : isRequired visit.core.value child.property =
      isRequired visit.value child.property := by
    rw [← contains_required hcore, contains_required hshape]
  show Typing.Field.mk child.property (typeOf child.core)
    (isRequired visit.core.value child.property) = _
  rw [typeOf_core, hrequired]

theorem declaration_core (visit : Visit) : visit.core.declaration? = visit.declaration? := by
  unfold Visit.declaration?
  rcases classify_core visit.value with hcore | ⟨hunknown, hcore⟩
  · rw [show classify visit.core.value = _ from hcore]
    cases hshape : classify visit.value with
    | object properties required =>
      show some (Declaration.mk (capitalize visit.property) (.record visit.core.fields)) = _
      rw [fields_core hshape]
    | _ => rfl
  · rw [show classify visit.core.value = _ from hcore, hunknown]

theorem declarationsOf_core (visit : Visit) : declarationsOf visit.core = declarationsOf visit := by
  induction visit using Visit.induction with
  | step visit ih =>
    rw [declarationsOf_eq, declarationsOf_eq visit, declaration_core, children_core, List.flatMap_map]
    exact congrArg (· ++ _) (List.flatMap_congr ih)

/-! ### A core is its own core -/

theorem shapelessCore_idem (value : Value) :
    shapelessCore (shapelessCore value) = shapelessCore value := by
  cases value <;> rfl

theorem coreMembers_idem {members : Members}
    (hmembers : ∀ member ∈ members, keywordCore (keywordCore member.2) = keywordCore member.2) :
    coreMembers (coreMembers members) = coreMembers members := by
  unfold coreMembers
  rw [List.map_map]
  apply List.map_congr_left
  intro member hmem
  exact congrArg (Prod.mk member.1) (hmembers member hmem)

theorem keywordCore_idem (value : Value) : keywordCore (keywordCore value) = keywordCore value := by
  -- the induction is on visits, whose property does not matter here
  suffices hvisit : ∀ visit : Visit, keywordCore (keywordCore visit.value) = keywordCore visit.value from
      hvisit ⟨"", value⟩
  intro visit
  induction visit using Visit.induction with
  | step visit ih =>
    have hself := keywordCore_eq visit.value
    have hagain := keywordCore_eq (keywordCore visit.value)
    rcases classify_core visit.value with hcore | ⟨hunknown, hcore⟩
    · rw [hcore] at hagain
      cases hshape : classify visit.value with
      | object properties required =>
        have hrequired := (core_object hshape).2
        cases properties with
        | none =>
          simp only [hshape, coreShape, Option.map_none, hrequired] at hself hagain
          rw [hagain, hself]
        | some properties =>
          have hproperties : coreMembers (coreMembers properties) = coreMembers properties :=
            coreMembers_idem fun member hmem => ih _ (Visit.property_mem_children hshape hmem)
          simp only [hshape, coreShape, Option.map_some, hrequired, hproperties] at hself hagain
          rw [hagain, hself]
      | array item? =>
        cases item? with
        | none =>
          simp only [hshape, coreShape, Option.map_none] at hself hagain
          rw [hagain, hself]
        | some item =>
          have hitem : keywordCore (keywordCore item) = keywordCore item :=
            ih _ (Visit.item_mem_children hshape)
          simp only [hshape, coreShape, Option.map_some, hitem] at hself hagain
          rw [hagain, hself]
      | anyOf alternatives =>
        have halternatives : (alternatives.map keywordCore).map keywordCore =
            alternatives.map keywordCore := by
          rw [List.map_map]
          apply List.map_congr_left
          intro alternative hmem
          exact ih _ (Visit.alternative_mem_children hshape hmem)
        simp only [hshape, coreShape, halternatives] at hself hagain
        rw [hagain, hself]
      | empty | unrecognized =>
        simp only [hshape, coreShape] at hself hagain
        rw [hagain, hself, shapelessCore_idem]
      | _ =>
        simp only [hshape, coreShape] at hself hagain
        rw [hagain, hself]
    · simp only [hcore, hunknown] at hself hagain
      rw [hagain, hself, shapelessCore_idem]

/-- **Only the keywords of the deciding shape matter.** The core of a schema is its own core. And
wherever and under whatever policy the two are emitted, they return the same type or fail with the same
name, and leave the same declarations and names behind. -/
theorem emission_keywordCore (value : Value) :
    keywordCore (keywordCore value) = keywordCore value ∧
    ∀ (policy : CollisionPolicy) (property : String) (generator : Generator),
      (runFrom (emit policy property (Node.ofValue (keywordCore value))) generator).1 =
          (runFrom (emit policy property (Node.ofValue value)) generator).1 ∧
        (runFrom (emit policy property (Node.ofValue (keywordCore value))) generator).2.declarations =
          (runFrom (emit policy property (Node.ofValue value)) generator).2.declarations ∧
        (runFrom (emit policy property (Node.ofValue (keywordCore value))) generator).2.names =
          (runFrom (emit policy property (Node.ofValue value)) generator).2.names := by
  refine ⟨keywordCore_idem value, fun policy property generator => ?_⟩
  obtain ⟨houtcome, hafter⟩ :=
    runFrom_emit_congr policy generator (typeOf_core ⟨property, value⟩)
      (declarationsOf_core ⟨property, value⟩)
  exact ⟨houtcome, hafter.declarations, hafter.names⟩

end SchemaTyping.Emission
