import SchemaTyping.Proofs.Emission.DocumentText
import SchemaTyping.Proofs.Emission.Failures
import SchemaTyping.Proofs.Emission.OneLine
import SchemaTyping.Proofs.Emission.Resolution

/-!
# The fields of records

A text may repeat keys in any object, and what counts of a key is the value given last. So all that
emission visits stands for some part of the tree that is written, one that no later value has replaced
(`keptAs_of_visited`). For such a part the fields of its record are told from its properties as they are
written: each key at its first place, with the type of its last value (`fieldsOf_fields`).
-/

namespace SchemaTyping.Emission

open Json (Value Members IsBlank Spells depthLimit)
open Schema (classify properties?)
open Text (capitalize)
open Typing (TypeExpr Field Declaration namesOf renderModule)

/-! ### What is kept of a tree -/

/-- The parts of a tree that count: of the values given for a key only the last one does. -/
inductive Kept (tree : Value) : Value → Prop
  | tree : Kept tree tree
  | item {items : List Value} {item : Value} (hkept : Kept tree (.array items)) (hitem : item ∈ items) :
    Kept tree item
  | member {written : Members} {key : String} (hkept : Kept tree (.object written))
    (hkey : key ∈ written.keys) :
    Kept tree (written.lastValue key)

/-- A value that a part of a tree stands for, if the part counts. -/
def KeptAs (tree value : Value) : Prop := ∃ written, Kept tree written ∧ written.settled = value

theorem KeptAs.part {tree value part : Value} (hvalue : KeptAs tree value) (hpart : part ∈ value.parts) :
    KeptAs tree part := by
  obtain ⟨written, hkept, rfl⟩ := hvalue
  cases written with
  | array items =>
    rw [Json.settled_array] at hpart
    obtain ⟨item, hitem, rfl⟩ := List.mem_map.1 hpart
    exact ⟨item, .item hkept hitem, rfl⟩
  | object members =>
    rw [Value.settled, Value.parts, Members.values, Members.settled, List.map_map] at hpart
    obtain ⟨key, hkey, rfl⟩ := List.mem_map.1 hpart
    rw [List.mem_eraseDups, Json.keys_settledMembers] at hkey
    exact ⟨_, .member hkept hkey, (Json.lastValue_settledMembers members key).symm⟩
  | _ =>
    rw [Value.settled] at hpart
    cases hpart

theorem KeptAs.lookup {tree value : Value} {members : Members} {key : String}
    (hobject : KeptAs tree (.object members)) (hlookup : members.lookup key = some value) :
    KeptAs tree value :=
  hobject.part (Value.mem_parts_of_lookup hlookup)

theorem KeptAs.child {tree : Value} {visit child : Visit} (hvisit : KeptAs tree visit.value)
    (habove : visit.Above child) :
    KeptAs tree child.value := by
  unfold Visit.Above Visit.children at habove
  split at habove
  · rename_i properties required hshape
    obtain ⟨members, hmembers, rfl, -⟩ := Schema.object_of_classify hshape
    obtain ⟨member, hmem, rfl⟩ := List.mem_map.1 habove
    rw [hmembers] at hvisit
    unfold properties? at hmem
    split at hmem
    · rename_i found hlookup
      exact (hvisit.lookup hlookup).part (List.mem_map_of_mem hmem)
    · cases hmem
  · rename_i item hshape
    obtain ⟨members, hmembers, hitem⟩ := Schema.items_of_classify hshape
    obtain rfl := List.mem_singleton.1 habove
    rw [hmembers] at hvisit
    exact hvisit.lookup hitem.symm
  · rename_i alternatives hshape
    obtain ⟨members, hmembers, hlookup⟩ := Schema.alternatives_of_classify hshape
    obtain ⟨alternative, hmem, rfl⟩ := List.mem_map.1 habove
    rw [hmembers] at hvisit
    exact (hvisit.lookup hlookup).part hmem
  · cases habove

theorem keptAs_definition {tree : Value} {document found : Members}
    (hdocument : KeptAs tree (.object document)) (hfound : definitions document = .ok found)
    {definition : String × Value} (hmem : definition ∈ found) : KeptAs tree definition.2 := by
  unfold definitions at hfound
  split at hfound
  · cases hfound
    cases hmem
  · rename_i key _ hheld
    cases hfound
    have hlookup : document.lookup key = some (.object found) := by
      cases definitionsOf?_eq_some_iff.1 hheld with
      | definitions hvalue _ => exact hvalue
      | defs _ hvalue _ => exact hvalue
    exact (hdocument.lookup hlookup).part (List.mem_map_of_mem hmem)
  · cases hfound

/-- All that a document's conversion visits stands for a part of the tree that counts. -/
theorem keptAs_of_visited {tree : Value} {rootName : String} {document found : Members} {visit : Visit}
    (hdocument : KeptAs tree (.object document)) (hfound : definitions document = .ok found)
    (hvisited : VisitedIn rootName document found visit) : KeptAs tree visit.value := by
  obtain ⟨start, hstart, hreached⟩ := hvisited
  induction hreached with
  | refl =>
    rcases List.mem_append.1 hstart with hstart | hstart
    · obtain ⟨definition, hmem, rfl⟩ := List.mem_map.1 hstart
      exact keptAs_definition hdocument hfound (List.mem_reverse.1 hmem)
    · obtain rfl := List.mem_singleton.1 hstart
      exact hdocument
  | tail _ habove ih => exact ih.child habove

/-! ### Fields -/

/-- The properties of an object schema, as they are written. -/
def writtenProperties (schema : Members) : Members :=
  match schema.lastValue "properties" with
  | .object properties => properties
  | _ => []

/-- Fields that are told from an object schema as it is written: one for each key of its properties,
where the key comes first, with the type that emitting the last value of the key returns. -/
structure FieldsOf (schema : Members) (fields : List Field) : Prop where
  distinct : (fields.map Field.name).Nodup
  names : fields.map Field.name = (writtenProperties schema).keys.eraseDups
  types : ∀ field ∈ fields, ∀ generator,
    (runFrom (emit .warn field.name
      (Schema.Node.ofValue ((writtenProperties schema).lastValue field.name).settled)) generator).1 =
      .ok field.type

theorem getD_properties? (members : Members) :
    (properties? members).getD [] =
      match (members.lookup "properties").getD .null with
      | .object properties => properties
      | _ => [] := by
  unfold properties?
  cases members.lookup "properties" with
  | none => rfl
  | some value => cases value <;> rfl

theorem properties?_settled (schema : Members) :
    (properties? (Json.settledMembers schema).settled).getD [] =
      (Json.settledMembers (writtenProperties schema)).settled := by
  rw [getD_properties?, Json.lookup_settled, Json.lastValue_settledMembers, writtenProperties]
  cases schema.lastValue "properties" <;> rw [Value.settled] <;> rfl

theorem fieldsOf_fields {visit : Visit} {schema : Members} {properties : Option Members}
    {required : List String} (hvalue : (Value.object schema).settled = visit.value)
    (hshape : classify visit.value = .object properties required) :
    FieldsOf schema visit.fields := by
  obtain ⟨members, hmembers, rfl, -⟩ := Schema.object_of_classify hshape
  rw [hmembers, Value.settled, Value.object.injEq] at hvalue
  have hchildren : visit.children =
      (Json.settledMembers (writtenProperties schema)).settled.map fun member =>
      ⟨member.1, member.2⟩ := by
    rw [Visit.children_of_object hshape, ← hvalue, properties?_settled]
  have hnames : visit.fields.map Field.name = (writtenProperties schema).keys.eraseDups := by
    rw [Visit.fields, List.map_map, hchildren, List.map_map, ← Json.keys_settledMembers,
      ← Json.keys_settled]
    rfl
  refine ⟨?_, hnames, fun field hfield generator => ?_⟩
  · rw [hnames]
    exact Json.nodup_eraseDups _
  · rw [Visit.fields, hchildren, List.map_map] at hfield
    obtain ⟨member, hmem, rfl⟩ := List.mem_map.1 hfield
    obtain ⟨key, _, rfl⟩ := List.mem_map.1 hmem
    have hemitted :=
      runFrom_emit_warn ⟨key, ((writtenProperties schema).lastValue key).settled⟩ generator
    simp only [Function.comp_apply, Json.lastValue_settledMembers]
    exact congrArg Prod.fst hemitted

/-- The object that a text starts with, with all members that are written. -/
def StartsWithObject (text : String) (written : Members) : Prop :=
  ∃ before body rest, text.toList = before ++ (body ++ rest) ∧ IsBlank before ∧
    Spells (.object written) body ∧
    (Value.object written).NestsWithin depthLimit

theorem exists_startsWithObject {options : Options} {text module : String}
    (hconvert : (convertText options text).1 = .ok module) :
    ∃ written, StartsWithObject text written := by
  unfold convertText at hconvert
  split at hconvert
  · rename_i value hparse
    obtain ⟨document, hdocument⟩ := object_of_convert hconvert
    obtain ⟨before, body, rest, tree, htext, hbefore, hspells, hdepth, hsettled⟩ :=
      Json.exists_spelling_of_parse hparse
    obtain ⟨written, rfl⟩ := Json.exists_members_of_settled (hsettled.symm.trans hdocument)
    exact ⟨written, before, body, rest, htext, hbefore, hspells, hdepth⟩
  · cases hconvert

theorem parse_of_startsWithObject {text : String} {written : Members}
    (hwritten : StartsWithObject text written) :
    Json.parse text = .ok (.object (Json.settledMembers written).settled) := by
  obtain ⟨before, body, rest, htext, hbefore, hspells, hdepth⟩ := hwritten
  have hparse := Json.parse_spelling hspells hdepth hbefore rest nofun
  rw [← htext, String.ofList_toList, Value.settled] at hparse
  exact hparse

/-- **Records do not repeat fields.** Let a text be converted. It starts with an object, perhaps with
repeated keys in it. However that object is written, each record of the module is declared for an object
schema in it that no later value has replaced, under the name of the property where the schema is
visited. The fields of the record have distinct names, which are the keys of the schema's properties,
each where it comes first; and the type of a field is the one of the value that is given last for its
key. -/
theorem records_repeat_no_field {options : Options} {text module : String}
    (hconvert : (convertText options text).1 = .ok module) :
    (∃ written, StartsWithObject text written) ∧
    ∀ written, StartsWithObject text written →
      ∃ found root after, definitions (Json.settledMembers written).settled = .ok found ∧
      runFrom (emitDocument options (Json.settledMembers written).settled found) .empty =
        (.ok root, after) ∧
      module = renderModule options.rootAlias after.declarations root ∧
      ∀ declaration ∈ after.declarations, ∀ fields, declaration.body = .record fields →
        ∃ property schema,
        Kept (.object written) (.object schema) ∧
          VisitedIn options.rootName (Json.settledMembers written).settled found
            ⟨property, (Value.object schema).settled⟩ ∧
          declaration.name = capitalize property ∧ FieldsOf schema fields := by
  refine ⟨exists_startsWithObject hconvert, fun written hwritten => ?_⟩
  rw [convertText_of_parse (parse_of_startsWithObject hwritten)] at hconvert
  obtain ⟨found, root, after, hfound, hrun, htext⟩ := exists_emitDocument_of_convert hconvert
  refine ⟨found, root, after, hfound, hrun, htext, fun declaration hmem fields hrecord => ?_⟩
  rw [declarations_of_emitDocument hrun] at hmem
  obtain ⟨visit, hvisited, hdeclaration⟩ := exists_visit_of_declaration hmem
  have hdocument : KeptAs (.object written) (.object (Json.settledMembers written).settled) :=
    ⟨.object written, .tree, by rw [Value.settled]⟩
  obtain ⟨part, hkept, hvalue⟩ := keptAs_of_visited hdocument hfound hvisited
  unfold Visit.declaration? at hdeclaration
  split at hdeclaration
  · cases hdeclaration
    cases hrecord
  · rename_i properties required hshape
    cases hdeclaration
    cases hrecord
    obtain ⟨members, hmembers, -, -⟩ := Schema.object_of_classify hshape
    obtain ⟨schema, rfl⟩ := Json.exists_members_of_settled (hvalue.trans hmembers)
    refine ⟨visit.property, schema, hkept, ?_, rfl, fieldsOf_fields hvalue hshape⟩
    rw [hvalue]
    exact hvisited
  · cases hdeclaration

/-- A record of which the properties are written twice, with a key that is written twice among them and
another in a record inside. -/
def repeatedProperties : Members :=
  [("properties", .object [("lost", .null)]), ("type", .string "object"),
    ("properties", .object [("b", .object [("type", .string "null")]),
      ("a", .object
        [("type", .string "object"),
          ("properties", .object [("c", .null), ("c", .object [("type", .string "integer")])])]),
      ("b", .object [("type", .string "string"), ("type", .string "boolean")])])]

theorem repeatedProperties_fields :
    ∃ module root after, (convertText {} (Value.object repeatedProperties).render).1 = .ok module ∧
      runFrom (emitDocument {} (Json.settledMembers repeatedProperties).settled []) .empty =
        (.ok root, after) ∧
      namesOf after.declarations = ["A", "Root"] ∧
      ∀ declaration ∈ after.declarations, ∀ fields, declaration.body = .record fields → ∃ schema,
        Kept (.object repeatedProperties) (.object schema) ∧ FieldsOf schema fields := by
  have hwritten : StartsWithObject (Value.object repeatedProperties).render repeatedProperties :=
    ⟨[], _, [], (String.toList_ofList).trans (List.append_nil _).symm, Json.isBlank_nil,
      Json.spells_chars (by decide +kernel), by decide +kernel⟩
  obtain ⟨module, hconvert⟩ : ∃ module, (convertText {} (Value.object repeatedProperties).render).1 =
      .ok module := by
    rw [convertText_of_parse (parse_of_startsWithObject hwritten)]
    exact ⟨_, rfl⟩
  have hnames : namesOf
      (runFrom (emitDocument {} (Json.settledMembers repeatedProperties).settled [])
        .empty).2.declarations = ["A", "Root"] := by
    decide +kernel
  obtain ⟨found, root, after, hfound, hrun, -, hrecords⟩ :=
    (records_repeat_no_field hconvert).2 repeatedProperties hwritten
  obtain rfl : [] = found := Except.ok.inj hfound
  rw [hrun] at hnames
  refine ⟨module, root, after, hconvert, hrun, hnames, fun declaration hmem fields hrecord => ?_⟩
  obtain ⟨_, schema, hkept, _, _, hfields⟩ := hrecords declaration hmem fields hrecord
  exact ⟨schema, hkept, hfields⟩

end SchemaTyping.Emission
