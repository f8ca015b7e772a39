import SchemaTyping.Schema.Shape

/-!
# The order of precedence

A node may have the keys of several shapes. `HasShape` gives each shape the rule by which a node has it,
with the keys that must not be there because they go first; `classify_eq_iff` says that the classifier
gives the shape whose rule applies and leaves a node to which no rule applies unrecognised. What a shape
is made of is read off the rules.
-/

namespace SchemaTyping.Schema

open Json (Value Members)

/-- None of some keys is there. -/
def Lacks (members : Members) (keys : List String) : Prop := ∀ key ∈ keys, members.lookup key = none

/-- The rules by which a node has a shape, from the one that goes first to the one that goes last. Each
asks that the keys of those before it are not there, whatever their values are. -/
inductive HasShape : Value → Shape → Prop
  | null : HasShape .null .empty
  | bool (b : Bool) : HasShape (.bool b) .empty
  | memberless : HasShape (.object []) .empty
  | enum {members : Members} {values : List Value}
    (henum : members.lookup "enum" = some (.array values)) :
    HasShape (.object members) (.enum values)
  | reference {members : Members} {pointer : String} (hbefore : Lacks members ["enum"])
    (href : members.lookup "$ref" = some (.string pointer)) :
    HasShape (.object members) (.reference pointer)
  | object {members : Members} (hbefore : Lacks members ["enum", "$ref"])
    (htype : members.lookup "type" = some (.string "object")) :
    HasShape (.object members) (.object (properties? members) (requiredNames members))
  | array {members : Members} (hbefore : Lacks members ["enum", "$ref"])
    (htype : members.lookup "type" = some (.string "array")) :
    HasShape (.object members) (.array (members.lookup "items"))
  | anyOf {members : Members} {alternatives : List Value} (hbefore : Lacks members ["enum", "$ref"])
    (hobject : members.lookup "type" ≠ some (.string "object"))
    (harray : members.lookup "type" ≠ some (.string "array"))
    (hanyOf : members.lookup "anyOf" = some (.array alternatives)) :
    HasShape (.object members) (.anyOf alternatives)
  | primitive {members : Members} {type : Primitive} (hbefore : Lacks members ["enum", "$ref", "anyOf"])
    (htype : members.lookup "type" = some (.string type.name)) :
    HasShape (.object members) (.primitive type)
  | types {members : Members} {names : List Value} (hbefore : Lacks members ["enum", "$ref", "anyOf"])
    (htype : members.lookup "type" = some (.array names)) : HasShape (.object members) (.types names)

theorem Primitive.ofName?_name (type : Primitive) : Primitive.ofName? type.name = some type := by
  cases type <;> rfl

theorem Primitive.name_of_ofName? {name : String} {type : Primitive}
    (hname : Primitive.ofName? name = some type) : name = type.name := by
  have hfound := List.find?_some hname
  exact (of_decide_eq_true hfound).symm

theorem classify_object {members : Members} {key : String} {value : Value}
    (hheld : members.lookup key = some value) :
    classify (.object members) = classifyMembers members := by
  cases members with
  | nil => cases hheld
  | cons member members => rfl

theorem Lacks.of_subset {members : Members} {keys more : List String} (hlacks : Lacks members more)
    (hsubset : keys ⊆ more) : Lacks members keys :=
  fun key hkey => hlacks key (hsubset hkey)

theorem classifyMembers_of_lacks {members : Members} (hbefore : Lacks members ["enum", "$ref"]) :
    classifyMembers members =
      if members.lookup "type" = some (.string "object") then
        .object (properties? members) (requiredNames members)
      else if members.lookup "type" = some (.string "array") then .array (members.lookup "items")
      else classifyType members := by
  have henum := hbefore "enum" (by simp)
  have href := hbefore "$ref" (by simp)
  simp only [classifyMembers, henum, href]

theorem classify_of_hasShape {value : Value} {shape : Shape} (hshape : HasShape value shape) :
    classify value = shape := by
  cases hshape with
  | null => rfl
  | bool b => rfl
  | memberless => rfl
  | enum henum =>
    rw [classify_object henum]
    simp only [classifyMembers, henum]
  | reference hbefore href =>
    have henum := hbefore "enum" (by simp)
    rw [classify_object href]
    simp only [classifyMembers, henum, href]
  | object hbefore htype => rw [classify_object htype, classifyMembers_of_lacks hbefore, if_pos htype]
  | array hbefore htype =>
    rw [classify_object htype, classifyMembers_of_lacks hbefore, if_neg (by simp [htype]), if_pos htype]
  | anyOf hbefore hobject harray hanyOf =>
    rw [classify_object hanyOf, classifyMembers_of_lacks hbefore, if_neg hobject, if_neg harray]
    simp only [classifyType, hanyOf]
  | @primitive _ type hbefore htype =>
    have hanyOf := hbefore "anyOf" (by simp)
    have hcontainer : type.name ≠ "object" ∧ type.name ≠ "array" := by cases type <;> decide
    rw [classify_object htype, classifyMembers_of_lacks (hbefore.of_subset (by simp)),
      if_neg (by simp [htype, hcontainer.1]), if_neg (by simp [htype, hcontainer.2])]
    simp only [classifyType, hanyOf, htype, Primitive.ofName?_name]
  | types hbefore htype =>
    have hanyOf := hbefore "anyOf" (by simp)
    rw [classify_object htype, classifyMembers_of_lacks (hbefore.of_subset (by simp)),
      if_neg (by simp [htype]), if_neg (by simp [htype])]
    simp only [classifyType, hanyOf, htype]

section

variable {members : Members} {shape : Shape}

theorem hasShape_of_classifyType (hbefore : Lacks members ["enum", "$ref"])
    (hobject : members.lookup "type" ≠ some (.string "object"))
    (harray : members.lookup "type" ≠ some (.string "array")) (hshape : classifyType members = shape)
    (hknown : shape ≠ .unrecognized) : HasShape (.object members) shape := by
  unfold classifyType at hshape
  split at hshape
  · rename_i hanyOf
    exact hshape ▸ .anyOf hbefore hobject harray hanyOf
  · exact absurd hshape.symm hknown
  · rename_i hanyOf
    have hlast : Lacks members ["enum", "$ref", "anyOf"] :=
      List.forall_mem_append.2 ⟨hbefore, List.forall_mem_singleton.2 hanyOf⟩
    split at hshape
    · rename_i name htype
      split at hshape
      · rename_i type hname
        rw [Primitive.name_of_ofName? hname] at htype
        exact hshape ▸ .primitive hlast htype
      · exact absurd hshape.symm hknown
    · rename_i names htype
      exact hshape ▸ .types hlast htype
    · exact absurd hshape.symm hknown

theorem hasShape_of_classifyMembers (hshape : classifyMembers members = shape)
    (hknown : shape ≠ .unrecognized) : HasShape (.object members) shape := by
  unfold classifyMembers at hshape
  split at hshape
  · rename_i henum
    exact hshape ▸ .enum henum
  · exact absurd hshape.symm hknown
  · rename_i henum
    split at hshape
    · rename_i href
      exact hshape ▸ .reference (List.forall_mem_singleton.2 henum) href
    · exact absurd hshape.symm hknown
    · rename_i href
      have hbefore : Lacks members ["enum", "$ref"] :=
        List.forall_mem_cons.2 ⟨henum, List.forall_mem_singleton.2 href⟩
      split at hshape
      · rename_i hobject
        exact hshape ▸ .object hbefore hobject
      · rename_i hobject
        split at hshape
        · rename_i harray
          exact hshape ▸ .array hbefore harray
        · rename_i harray
          exact hasShape_of_classifyType hbefore hobject harray hshape hknown

end

theorem hasShape_of_classify {value : Value} {shape : Shape} (hshape : classify value = shape)
    (hknown : shape ≠ .unrecognized) : HasShape value shape := by
  cases value with
  | null => exact hshape ▸ .null
  | bool b => exact hshape ▸ .bool b
  | object members =>
    cases members with
    | nil => exact hshape ▸ .memberless
    | cons member members => exact hasShape_of_classifyMembers hshape hknown
  | number n => exact absurd hshape.symm hknown
  | string s => exact absurd hshape.symm hknown
  | array values => exact absurd hshape.symm hknown

/-- A node has the shape of the first rule that applies to it, and is not recognised if none does. -/
theorem classify_eq_iff {value : Value} {shape : Shape} :
    classify value = shape ↔
      HasShape value shape ∨ shape = .unrecognized ∧ ∀ other, ¬ HasShape value other := by
  constructor
  · intro hshape
    by_cases hknown : shape = .unrecognized
    · refine .inr ⟨hknown, fun other hother => ?_⟩
      rw [classify_of_hasShape hother] at hshape
      rw [hshape, hknown] at hother
      cases hother
    · exact .inl (hasShape_of_classify hshape hknown)
  · rintro (hshape | ⟨rfl, hnone⟩)
    · exact classify_of_hasShape hshape
    · by_cases hknown : classify value = .unrecognized
      · exact hknown
      · exact absurd (hasShape_of_classify rfl hknown) (hnone _)

/-! ### What shapes are made of -/

theorem object_of_classify {value : Value} {properties : Option Members} {required : List String}
    (hshape : classify value = .object properties required) :
    ∃ members, value = .object members ∧ properties = properties? members ∧
      required = requiredNames members := by
  cases hasShape_of_classify hshape nofun with
  | object _ _ => exact ⟨_, rfl, rfl, rfl⟩

theorem items_of_classify {value : Value} {items : Option Value}
    (hshape : classify value = .array items) :
    ∃ members, value = .object members ∧ items = members.lookup "items" := by
  cases hasShape_of_classify hshape nofun with
  | array _ _ => exact ⟨_, rfl, rfl⟩

theorem alternatives_of_classify {value : Value} {alternatives : List Value}
    (hshape : classify value = .anyOf alternatives) :
    ∃ members, value = .object members ∧ members.lookup "anyOf" = some (.array alternatives) := by
  cases hasShape_of_classify hshape nofun with
  | anyOf _ _ _ hanyOf => exact ⟨_, rfl, hanyOf⟩

end SchemaTyping.Schema
