import SchemaTyping.Proofs.Json.Reordering
import SchemaTyping.Schema.Shape

/-!
# The shape of a schema up to the order of members

A schema is classified by looking keys up, never by walking through its members. So reordered schemas
have the same shape, with reordered values in it (`classify_reordered`). The strings among the entries of
a list stay where they are, so what an object requires is the very same.
-/

namespace SchemaTyping.Schema

open Json (Value Members lookup_reordered reordered_nil_iff)

/-- Shapes that differ in the order of the members of the objects in them at most. -/
inductive Shape.Reordered : Shape → Shape → Prop
  | refl (shape : Shape) : Shape.Reordered shape shape
  | enum {values others : List Value} (hvalues : List.Forall₂ Value.Reordered values others) :
    Shape.Reordered (.enum values) (.enum others)
  | object {properties others : Members} (required : List String)
    (hproperties : (Value.object properties).Reordered (.object others)) :
    Shape.Reordered (.object (some properties) required) (.object (some others) required)
  | array {item other : Value} (hitem : item.Reordered other) :
    Shape.Reordered (.array (some item)) (.array (some other))
  | anyOf {alternatives others : List Value}
    (halternatives : List.Forall₂ Value.Reordered alternatives others) :
    Shape.Reordered (.anyOf alternatives) (.anyOf others)
  | types {names others : List Value} (hnames : List.Forall₂ Value.Reordered names others) :
    Shape.Reordered (.types names) (.types others)

/-! ### What is looked up -/

theorem eq_string_iff {value other : Value} (hreordered : value.Reordered other) (text : String) :
    value = .string text ↔ other = .string text := by
  cases hreordered with
  | refl => exact Iff.rfl
  | array _ => simp
  | object _ _ _ => simp

theorem foldl_reordered {Found : Type} {step : Found → Value → Found} {values others : List Value}
    (hvalues : List.Forall₂ Value.Reordered values others)
    (hstep : ∀ found {value other : Value}, value.Reordered other → step found value = step found other)
    (found : Found) :
    values.foldl step found = others.foldl step found := by
  induction hvalues generalizing found with
  | nil => rfl
  | cons hvalue _ ih => rw [List.foldl_cons, List.foldl_cons, hstep found hvalue, ih]

theorem distinctStrings_reordered {values others : List Value}
    (hvalues : List.Forall₂ Value.Reordered values others) :
    distinctStrings values = distinctStrings others := by
  refine foldl_reordered hvalues ?_ []
  intro found value other hvalue
  cases hvalue with
  | refl => rfl
  | array _ => rfl
  | object _ _ _ => rfl

section

variable {members others : Members} (hreordered : (Value.object members).Reordered (.object others))

include hreordered

theorem lookup_eq_string_iff (key text : String) :
    members.lookup key = some (.string text) ↔ others.lookup key = some (.string text) := by
  have hheld := lookup_reordered hreordered key
  generalize members.lookup key = held at hheld ⊢
  generalize others.lookup key = held' at hheld ⊢
  cases hheld with
  | none => simp
  | some hvalue => simp only [Option.some.injEq, eq_string_iff hvalue]

theorem requiredNames_reordered : requiredNames members = requiredNames others := by
  have hheld := lookup_reordered hreordered "required"
  unfold requiredNames
  generalize members.lookup "required" = held at hheld ⊢
  generalize others.lookup "required" = held' at hheld ⊢
  cases hheld with
  | none => rfl
  | some hvalue =>
    cases hvalue with
    | refl value => rfl
    | array hitems => exact distinctStrings_reordered hitems
    | object _ _ _ => rfl

theorem object_reordered :
    (Shape.object (properties? members) (requiredNames members)).Reordered
      (.object (properties? others) (requiredNames others)) := by
  have hheld := lookup_reordered hreordered "properties"
  rw [requiredNames_reordered hreordered]
  unfold properties?
  generalize members.lookup "properties" = held at hheld ⊢
  generalize others.lookup "properties" = held' at hheld ⊢
  cases hheld with
  | none => exact .refl _
  | some hvalue =>
    cases hvalue with
    | refl value => exact .refl _
    | array _ => exact .refl _
    | object hmoved hkeys hvalues => exact .object _ (.object hmoved hkeys hvalues)

theorem array_reordered :
    (Shape.array (members.lookup "items")).Reordered (.array (others.lookup "items")) := by
  have hheld := lookup_reordered hreordered "items"
  generalize members.lookup "items" = held at hheld ⊢
  generalize others.lookup "items" = held' at hheld ⊢
  cases hheld with
  | none => exact .refl _
  | some hvalue => exact .array hvalue

theorem classifyType_reordered : (classifyType members).Reordered (classifyType others) := by
  have hunion := lookup_reordered hreordered "anyOf"
  have htype := lookup_reordered hreordered "type"
  unfold classifyType
  generalize members.lookup "anyOf" = union at hunion ⊢
  generalize others.lookup "anyOf" = union' at hunion ⊢
  generalize members.lookup "type" = type at htype ⊢
  generalize others.lookup "type" = type' at htype ⊢
  cases hunion with
  | @some value _ hvalue =>
    cases hvalue with
    | refl => cases value <;> exact .refl _
    | array hitems => exact .anyOf hitems
    | object _ _ _ => exact .refl _
  | none =>
    cases htype with
    | none => exact .refl _
    | some hvalue =>
      cases hvalue with
      | refl value => exact .refl _
      | array hitems => exact .types hitems
      | object _ _ _ => exact .refl _

theorem classifyMembers_reordered : (classifyMembers members).Reordered (classifyMembers others) := by
  have henum := lookup_reordered hreordered "enum"
  have href := lookup_reordered hreordered "$ref"
  unfold classifyMembers
  generalize members.lookup "enum" = enum at henum ⊢
  generalize others.lookup "enum" = enum' at henum ⊢
  generalize members.lookup "$ref" = ref at href ⊢
  generalize others.lookup "$ref" = ref' at href ⊢
  cases henum with
  | @some value _ hvalue =>
    cases hvalue with
    | refl => cases value <;> exact .refl _
    | array hitems => exact .enum hitems
    | object _ _ _ => exact .refl _
  | none =>
    cases href with
    | @some value _ hvalue =>
      cases hvalue with
      | refl => cases value <;> exact .refl _
      | array _ => exact .refl _
      | object _ _ _ => exact .refl _
    | none =>
      simp only [lookup_eq_string_iff hreordered]
      split
      · exact object_reordered hreordered
      · split
        · exact array_reordered hreordered
        · exact classifyType_reordered hreordered

end

/-- Reordered schemas have the same shape, with reordered values in it. -/
theorem classify_reordered {value other : Value} (hreordered : value.Reordered other) :
    (classify value).Reordered (classify other) := by
  cases hreordered with
  | refl => exact .refl _
  | array _ => exact .refl _
  | @object members moved others hmoved hkeys hvalues =>
    have hobject : (Value.object members).Reordered (.object others) := .object hmoved hkeys hvalues
    have hnil := reordered_nil_iff hobject
    cases members with
    | nil =>
      rw [hnil.1 rfl]
      exact .refl _
    | cons member members =>
      cases others with
      | nil => cases hnil.2 rfl
      | cons other others => exact classifyMembers_reordered hobject

end SchemaTyping.Schema
