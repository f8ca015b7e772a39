import SchemaTyping.Schema.Precedence

/-!
# Schema trees

A schema document read as a tree of schemas, with nothing left in it that its shapes do not use. What
the tree of a value is follows from the value's shape: `Node.ofValue_eq` says so without the recursion
that the definition needs to see that it ends.
-/

namespace SchemaTyping.Schema

open Json (Value Members)

/-- A schema. -/
inductive Node where
  /-- No constraint. -/
  | any
  | literal (values : List Value)
  | reference (pointer : String)
  | record (properties : List (String × Node)) (required : List String)
  /-- A list of anything. -/
  | anyList
  | list (item : Node)
  | union (alternatives : List Node)
  | primitive (type : Primitive)
  | types (names : List Value)
  /-- A value that is no schema of a known shape. -/
  | unrecognized (value : Value)
  deriving Repr

mutual
def Node.ofValue : Value → Node
  | .object members =>
    match classify (.object members) with
    | .empty => .any
    | .enum values => .literal values
    | .reference pointer => .reference pointer
    | .object _ required => .record (propertyNodes members) required
    | .array none => .anyList
    | .array (some _) => .list (itemNode members)
    | .anyOf _ => .union (alternativeNodes members)
    | .primitive type => .primitive type
    | .types names => .types names
    | .unrecognized => .unrecognized (.object members)
  | .null => .any
  | .bool _ => .any
  | .number n => .unrecognized (.number n)
  | .string s => .unrecognized (.string s)
  | .array items => .unrecognized (.array items)

def propertyNodes : List (String × Value) → List (String × Node)
  | [] => []
  | (key, value) :: rest =>
    if key = "properties" then membersOf value else propertyNodes rest

def itemNode : List (String × Value) → Node
  | [] => .any
  | (key, value) :: rest => if key = "items" then Node.ofValue value else itemNode rest

def alternativeNodes : List (String × Value) → List Node
  | [] => []
  | (key, value) :: rest =>
    if key = "anyOf" then itemsOf value else alternativeNodes rest

def membersOf : Value → List (String × Node)
  | .object members => memberNodes members
  | _ => []

def itemsOf : Value → List Node
  | .array values => nodes values
  | _ => []

def memberNodes : List (String × Value) → List (String × Node)
  | [] => []
  | (key, value) :: rest => (key, Node.ofValue value) :: memberNodes rest

def nodes : List Value → List Node
  | [] => []
  | value :: rest => Node.ofValue value :: nodes rest
end

theorem memberNodes_eq_map (members : Members) :
    memberNodes members = members.map fun (key, value) => (key, Node.ofValue value) := by
  induction members with
  | nil => simp [memberNodes]
  | cons member rest ih => simp [memberNodes, ih]

theorem nodes_eq_map (values : List Value) : nodes values = values.map Node.ofValue := by
  induction values with
  | nil => simp [nodes]
  | cons value rest ih => simp [nodes, ih]

theorem propertyNodes_eq (members : Members) :
    propertyNodes members = memberNodes ((properties? members).getD []) := by
  induction members with
  | nil => simp [propertyNodes, properties?, memberNodes]
  | cons member rest ih =>
    obtain ⟨key, value⟩ := member
    by_cases hkey : key = "properties"
    · cases value <;> simp [propertyNodes, membersOf, properties?, hkey, memberNodes]
    · have hlookup : List.lookup "properties" ((key, value) :: rest) = List.lookup "properties" rest := by
        simp [List.lookup_cons, beq_false_of_ne (Ne.symm hkey)]
      simpa [propertyNodes, properties?, hkey, hlookup] using ih

theorem itemNode_eq_of_lookup {members : Members} {value : Value}
    (hitems : members.lookup "items" = some value) : itemNode members = Node.ofValue value := by
  induction members with
  | nil => simp at hitems
  | cons member rest ih =>
    obtain ⟨key, first⟩ := member
    by_cases hkey : key = "items"
    · simp_all [itemNode]
    · rw [List.lookup_cons, beq_false_of_ne (Ne.symm hkey)] at hitems
      simp [itemNode, hkey, ih hitems]

theorem alternativeNodes_eq_of_lookup {members : Members} {values : List Value}
    (halternatives : members.lookup "anyOf" = some (.array values)) :
    alternativeNodes members = nodes values := by
  induction members with
  | nil => simp at halternatives
  | cons member rest ih =>
    obtain ⟨key, first⟩ := member
    by_cases hkey : key = "anyOf"
    · simp_all [alternativeNodes, itemsOf]
    · rw [List.lookup_cons, beq_false_of_ne (Ne.symm hkey)] at halternatives
      simp [alternativeNodes, hkey, ih halternatives]

/-- The schema of a value, by the value's shape. -/
theorem Node.ofValue_eq (value : Value) :
    Node.ofValue value =
      match classify value with
      | .empty => .any
      | .enum values => .literal values
      | .reference pointer => .reference pointer
      | .object properties required =>
        .record ((properties.getD []).map fun (key, value) => (key, Node.ofValue value)) required
      | .array none => .anyList
      | .array (some item) => .list (Node.ofValue item)
      | .anyOf alternatives => .union (alternatives.map Node.ofValue)
      | .primitive type => .primitive type
      | .types names => .types names
      | .unrecognized => .unrecognized value := by
  cases value with
  | object members =>
    rw [Node.ofValue]
    cases hshape : classify (.object members) with
    | object properties required =>
      obtain ⟨_, hmembers, rfl, -⟩ := object_of_classify hshape
      cases hmembers
      simp only [propertyNodes_eq, memberNodes_eq_map]
    | array items =>
      obtain ⟨_, hmembers, rfl⟩ := items_of_classify hshape
      cases hmembers
      cases hitems : members.lookup "items" with
      | none => rfl
      | some item => simp only [itemNode_eq_of_lookup hitems]
    | anyOf alternatives =>
      obtain ⟨_, hmembers, halternatives⟩ := alternatives_of_classify hshape
      cases hmembers
      simp only [alternativeNodes_eq_of_lookup halternatives, nodes_eq_map]
    | _ => rfl
  | _ => simp [Node.ofValue, classify]

end SchemaTyping.Schema
