import SchemaTyping.Proofs.Emission.ChildrenFirst
import SchemaTyping.Proofs.Emission.References

/-!
# Documents that list dependents first

Definitions are emitted from the last to the first and nothing is sorted. If each of them refers only to
later ones, this is an order of definition: whatever a declaration mentions is declared before it. Keys
have to be in capitalised form, since a reference is named by the key as it stands and the definition by
its capitalised form.
-/

namespace SchemaTyping.Emission

open Json (Value Members)
open Schema (Node classify)
open Text (capitalize)
open Typing (TypeExpr Declaration namesOf namesOf_append UsesKnown MentionOnlyEarlier renderModule)

/-- Definitions of which each refers only to later ones, wherever in it the reference stands. -/
def DependentsFirst (definitions : Members) : Prop :=
  ∀ (i : Nat) (key : String) (value : Value), definitions[i]? = some (key, value) →
    ∀ name ∈ namesReferredTo ⟨key, value⟩, ∃ j > i, ∃ later, definitions[j]? = some (name, later)

/-- Definitions whose references and declarations have the same names: each is an enumeration or an
object under a key in capitalised form. -/
def DeclaredAsKeyed (definitions : Members) : Prop :=
  ∀ key value, (key, value) ∈ definitions → capitalize key = key ∧
    ((∃ values, classify value = .enum values) ∨ ∃ properties required,
      classify value = .object properties required)

theorem dependentsFirst_nil : DependentsFirst [] := by
  intro i key value hheld
  cases hheld

theorem dependentsFirst_cons {key : String} {value : Value} {rest : Members} :
    DependentsFirst ((key, value) :: rest) ↔
      (∀ name ∈ namesReferredTo ⟨key, value⟩, ∃ later, (name, later) ∈ rest) ∧ DependentsFirst rest := by
  constructor
  · intro horder
    constructor
    · intro name hname
      obtain ⟨j, hj, later, hlater⟩ := horder 0 key value rfl name hname
      obtain ⟨j, rfl⟩ := Nat.exists_eq_succ_of_ne_zero (Nat.ne_of_gt hj)
      exact ⟨later, List.mem_of_getElem? hlater⟩
    · intro i other held hheld name hname
      obtain ⟨j, hj, later, hlater⟩ := horder (i + 1) other held hheld name hname
      obtain ⟨j, rfl⟩ := Nat.exists_eq_succ_of_ne_zero (Nat.ne_of_gt (Nat.zero_lt_of_lt hj))
      exact ⟨j, Nat.lt_of_succ_lt_succ hj, later, hlater⟩
  · rintro ⟨hfirst, hrest⟩ i other held hheld name hname
    cases i with
    | zero =>
      cases hheld
      obtain ⟨later, hmem⟩ := hfirst name hname
      obtain ⟨j, hlater⟩ := List.getElem?_of_mem hmem
      exact ⟨j + 1, Nat.succ_pos j, later, hlater⟩
    | succ i =>
      obtain ⟨j, hj, later, hlater⟩ := hrest i other held hheld name hname
      exact ⟨j + 1, Nat.succ_lt_succ hj, later, hlater⟩

/-- A declaration of a schema refers to nothing that the schema does not. -/
theorem mem_namesReferredTo_of_refersTo {visit : Visit} {declaration : Declaration} {name : String}
    (hdeclaration : declaration ∈ declarationsOf visit) (hname : name ∈ declaration.refersTo) :
    name ∈ namesReferredTo visit :=
  (references_perm visit).mem_iff.2
    (List.mem_append_left _ (List.mem_flatMap.2 ⟨declaration, hdeclaration, hname⟩))

theorem mem_namesReferredTo_of_type {visit : Visit} {name : String}
    (hname : name ∈ (typeOf visit).referredNames) :
    name ∈ namesReferredTo visit :=
  (references_perm visit).mem_iff.2 (List.mem_append_right _ hname)

/-! ### Definitions -/

/-- What definitions declare, from the last to the first. -/
def definitionDeclarations (definitions : Members) : List Declaration :=
  definitions.reverse.flatMap fun (key, value) => declarationsOf ⟨key, value⟩

theorem definitionDeclarations_cons (key : String) (value : Value) (rest : Members) :
    definitionDeclarations ((key, value) :: rest) = definitionDeclarations rest ++
      declarationsOf ⟨key, value⟩ := by
  unfold definitionDeclarations
  rw [List.reverse_cons, List.flatMap_append, List.flatMap_singleton]

theorem mem_names_definitions {definitions : Members} (hkeys : DeclaredAsKeyed definitions)
    {key : String} {value : Value} (hmem : (key, value) ∈ definitions) :
    key ∈ namesOf (definitionDeclarations definitions) := by
  obtain ⟨hcapital, hshape⟩ := hkeys key value hmem
  obtain ⟨declaration, hdeclaration, hname⟩ := exists_declaration_of_shape ⟨key, value⟩ hshape
  have hdeclared : declaration ∈ definitionDeclarations definitions :=
    List.mem_flatMap.2
      ⟨(key, value), List.mem_reverse.2 hmem, declaration_mem_declarationsOf hdeclaration⟩
  rw [← hcapital, ← hname]
  exact List.mem_map_of_mem hdeclared

theorem mentionOnlyEarlier_definitions {definitions : Members} (hkeys : DeclaredAsKeyed definitions)
    (horder : DependentsFirst definitions) :
    MentionOnlyEarlier (definitionDeclarations definitions) := by
  induction definitions with
  | nil =>
    intro i declaration hdeclaration
    cases hdeclaration
  | cons definition rest ih =>
    -- the first definition is declared last, behind all that it refers to
    obtain ⟨key, value⟩ := definition
    obtain ⟨hfirst, hrest⟩ := dependentsFirst_cons.1 horder
    have hkeysRest : DeclaredAsKeyed rest :=
      fun key value hmem => hkeys key value (List.mem_cons_of_mem _ hmem)
    rw [definitionDeclarations_cons]
    refine (ih hkeysRest hrest).append (usesKnown_declarationsOf _) fun declaration hdeclaration name
      hname => ?_
    obtain ⟨later, hlater⟩ := hfirst name (mem_namesReferredTo_of_refersTo hdeclaration hname)
    exact mem_names_definitions hkeysRest hlater

/-- **Emission in reverse order closes documents that list dependents first.** Let a document be
converted, let its definitions be declared under their own keys and refer only to later ones, and let its
root refer only to definitions. Then every name in the fields of a record is the name of an earlier
declaration, and every name in the root's type is that of a declaration, whether the name is one of this
library's or one that a schema refers to. -/
theorem dependentsFirst_closed {options : Options} {document found : Members} {text : String}
    (hconvert : (convert options (.object document)).1 = .ok text)
    (hfound : definitions document = .ok found) (hkeys : DeclaredAsKeyed found)
    (horder : DependentsFirst found)
    (hroot : ∀ name ∈ namesReferredTo ⟨options.rootName, .object document⟩, ∃ value,
      (name, value) ∈ found) :
    ∃ root after, runFrom (emitDocument options document found) .empty = (.ok root, after) ∧
      text = renderModule options.rootAlias after.declarations root ∧
      MentionOnlyEarlier after.declarations ∧
      ∀ name ∈ root.declaredNames ++ root.referredNames, name ∈ namesOf after.declarations := by
  obtain ⟨found', root, after, hfound', hrun, htext⟩ := exists_emitDocument_of_convert hconvert
  obtain rfl : found = found' := by
    rw [hfound] at hfound'
    exact Except.ok.inj hfound'
  have hdeclarations : after.declarations =
      definitionDeclarations found ++ declarationsOf ⟨options.rootName, .object document⟩ := by
    rw [declarations_of_emitDocument hrun, documentDeclarations_eq]
    rfl
  have hreferred : ∀ name ∈ namesReferredTo ⟨options.rootName, .object document⟩,
      name ∈ namesOf (definitionDeclarations found) := by
    intro name hname
    obtain ⟨value, hmem⟩ := hroot name hname
    exact mem_names_definitions hkeys hmem
  refine ⟨root, after, hrun, htext, ?_, ?_⟩
  · rw [hdeclarations]
    refine (mentionOnlyEarlier_definitions hkeys horder).append (usesKnown_declarationsOf _) ?_
    intro declaration hdeclaration name hname
    exact hreferred name (mem_namesReferredTo_of_refersTo hdeclaration hname)
  · intro name hname
    rw [hdeclarations, namesOf_append, List.mem_append]
    rw [root_of_emitDocument hrun] at hname
    rcases List.mem_append.1 hname with hdeclared | hname
    · exact .inr (mem_namesOf_of_typeOf hdeclared)
    · exact .inl (hreferred name (mem_namesReferredTo_of_type hname))

/-- An object whose only property is of a given schema. -/
def objectWith (key : String) (value : Value) : Value :=
  .object [("type", .string "object"), ("properties", .object [(key, value)])]

/-- Three definitions, of which the first refers to the second in a list and the second to the third in a
union. -/
def petDefinitions : Members :=
  [("Owner", objectWith "pets"
    (.object [("type", .string "array"), ("items", .object [("$ref", .string "#/$defs/Pet")])])),
    ("Pet", objectWith "kind"
      (.object [("anyOf", .array [.object [("$ref", .string "#/$defs/Kind")], .null])])),
    ("Kind", .object [("enum", .array [.string "cat"])])]

def petDocument : Members :=
  [("$defs", .object petDefinitions), ("type", .string "array"),
    ("items", .object [("$ref", .string "#/$defs/Owner")])]

theorem petDefinitions_dependentsFirst : DependentsFirst petDefinitions := by
  have howner : namesReferredTo ⟨"Owner", petDefinitions[0].2⟩ = ["Pet"] := by decide +kernel
  have hpet : namesReferredTo ⟨"Pet", petDefinitions[1].2⟩ = ["Kind"] := by decide +kernel
  have hkind : namesReferredTo ⟨"Kind", petDefinitions[2].2⟩ = [] := by decide +kernel
  refine dependentsFirst_cons.2 ⟨fun name hname => ?_, dependentsFirst_cons.2 ⟨fun name hname => ?_,
    dependentsFirst_cons.2 ⟨fun name hname => ?_, dependentsFirst_nil⟩⟩⟩
  · obtain rfl := List.mem_singleton.1 (howner ▸ hname)
    exact ⟨_, List.mem_cons_self⟩
  · obtain rfl := List.mem_singleton.1 (hpet ▸ hname)
    exact ⟨_, List.mem_cons_self⟩
  · exact absurd (hkind ▸ hname) List.not_mem_nil

theorem petDefinitions_declaredAsKeyed : DeclaredAsKeyed petDefinitions := by
  intro key value hmem
  simp only [petDefinitions, List.mem_cons, List.not_mem_nil, or_false, Prod.mk.injEq] at hmem
  rcases hmem with ⟨rfl, rfl⟩ | ⟨rfl, rfl⟩ | ⟨rfl, rfl⟩
  · exact ⟨by decide, .inr ⟨_, _, rfl⟩⟩
  · exact ⟨by decide, .inr ⟨_, _, rfl⟩⟩
  · exact ⟨by decide, .inl ⟨_, rfl⟩⟩

theorem petDocument_closed :
    definitions petDocument = .ok petDefinitions ∧ DeclaredAsKeyed petDefinitions ∧
      DependentsFirst petDefinitions ∧
    namesReferredTo ⟨"root", .object petDocument⟩ = ["Owner"] ∧
    ∃ text root after, (convert {} (.object petDocument)).1 = .ok text ∧
      runFrom (emitDocument {} petDocument petDefinitions) .empty = (.ok root, after) ∧
      root.referredNames = ["Owner"] ∧ namesOf after.declarations = ["Kind", "Pet", "Owner"] ∧
      MentionOnlyEarlier after.declarations ∧ "Owner" ∈ namesOf after.declarations := by
  have hreferred : namesReferredTo ⟨"root", .object petDocument⟩ = ["Owner"] := by decide +kernel
  have hroot : ∀ name ∈ namesReferredTo ⟨"root", .object petDocument⟩, ∃ value,
      (name, value) ∈ petDefinitions := by
    intro name hname
    obtain rfl := List.mem_singleton.1 (hreferred ▸ hname)
    exact ⟨_, List.mem_cons_self⟩
  have hfound : definitions petDocument = .ok petDefinitions := by rfl
  have htype : (runFrom (emitDocument {} petDocument petDefinitions) .empty).1 =
      .ok (.list (.reference "Owner")) := by
    rfl
  have hdeclared : namesOf (runFrom (emitDocument {} petDocument petDefinitions) .empty).2.declarations =
      ["Kind", "Pet", "Owner"] := by
    decide
  obtain ⟨text, hconvert⟩ : ∃ text, (convert {} (.object petDocument)).1 = .ok text := ⟨_, rfl⟩
  obtain ⟨root, after, hrun, _, hearlier, hnames⟩ :=
    dependentsFirst_closed hconvert hfound petDefinitions_declaredAsKeyed
      petDefinitions_dependentsFirst hroot
  rw [hrun] at htype hdeclared
  cases htype
  exact ⟨hfound, petDefinitions_declaredAsKeyed, petDefinitions_dependentsFirst, hreferred, text, _,
    after, hconvert, hrun, rfl, hdeclared, hearlier, hnames "Owner" List.mem_cons_self⟩

end SchemaTyping.Emission
