import SchemaTyping.Proofs.Emission.PostOrder

/-!
# What a reference to a definition names

A reference is named by the last part of its pointer, as it stands there. A definition is declared under
the capitalised form of its key. So a reference to a definition names the declaration if the key is its
own capitalised form, and only then: the two names are made in different ways and nothing reconciles
them.
-/

namespace SchemaTyping.Emission

open Json (Value Members)
open Schema (Node classify)
open Text (capitalize)
open Typing (TypeExpr Declaration namesOf)

/-! ### The name of a reference -/

theorem afterLastSlash_append (front : List Char) {last : List Char} (hlast : '/' ∉ last) :
    afterLastSlash (front ++ '/' :: last) = last := by
  have hpos : ∀ c ∈ last.reverse, (decide (c ≠ '/')) = true := by
    intro c hc
    rw [decide_eq_true_iff]
    rintro rfl
    exact hlast (List.mem_reverse.1 hc)
  have hreverse : (front ++ '/' :: last).reverse = last.reverse ++ '/' :: front.reverse := by
    rw [List.reverse_append, List.reverse_cons, List.append_assoc, List.singleton_append]
  unfold afterLastSlash
  rw [hreverse, List.takeWhile_append_of_pos hpos, List.takeWhile_cons_of_neg (by decide),
    List.append_nil, List.reverse_reverse]

theorem referenceName_append (front : String) {last : String} (hlast : '/' ∉ last.toList) :
    referenceName (front ++ "/" ++ last) = last := by
  have hchars : (front ++ "/" ++ last).toList = front.toList ++ '/' :: last.toList := by
    rw [String.toList_append, String.toList_append, List.append_assoc]
    rfl
  unfold referenceName
  rw [hchars, afterLastSlash_append front.toList hlast, String.ofList_toList]

theorem render_reference (name : String) : (TypeExpr.reference name).render = name := by
  unfold TypeExpr.render TypeExpr.chars
  rw [String.ofList_toList]

theorem runFrom_emit_reference (policy : CollisionPolicy) (generator : Generator) {visit : Visit}
    {pointer : String} (hshape : classify visit.value = .reference pointer) :
    runFrom (visit.emit policy) generator = (.ok (.reference (referenceName pointer)), generator) := by
  have hnode : Node.ofValue visit.value = .reference pointer := by
    rw [Node.ofValue_eq, hshape]
  unfold Visit.emit
  rw [hnode, emit]
  rfl

/-! ### The name of a definition -/

theorem exists_declaration_of_shape (visit : Visit)
    (hshape : (∃ values, classify visit.value = .enum values) ∨
      ∃ properties required, classify visit.value = .object properties required) :
    ∃ declaration, visit.declaration? = some declaration ∧
      declaration.name = capitalize visit.property := by
  rw [← typeOf_eq_declared_iff, typeOf_eq]
  rcases hshape with ⟨values, hshape⟩ | ⟨properties, required, hshape⟩ <;> simp only [hshape]

theorem declaration_mem_document (rootName : String) (document : Members) {found : Members}
    {key : String} {value : Value} {declaration : Declaration} (hmem : (key, value) ∈ found)
    (hdeclaration : (⟨key, value⟩ : Visit).declaration? = some declaration) :
    declaration ∈ documentDeclarations rootName document found := by
  have hvisit : ⟨key, value⟩ ∈ documentVisits rootName document found :=
    List.mem_append_left _ (List.mem_map.2 ⟨(key, value), List.mem_reverse.2 hmem, rfl⟩)
  exact List.mem_flatMap.2 ⟨_, hvisit, declaration_mem_declarationsOf hdeclaration⟩

/-- **A reference to a definition names its declaration exactly if the definition's key is in capitalised
form.** The key is one of those that a document's definitions are read from, its schema is an object or
an enumeration, and the reference is the pointer to it. Wherever the reference stands it declares nothing
and its text is the key; the definition is declared under the capitalised key, in every document that is
emitted without failure, and with warnings each one is. -/
theorem reference_names_definition_iff {document found : Members} {holder key : String} {value : Value}
    (visit : Visit) (hholder : definitionsOf? document = some (holder, .object found))
    (hmem : (key, value) ∈ found) (hshape : (∃ values, classify value = .enum values) ∨
      ∃ properties required, classify value = .object properties required)
    (hslash : '/' ∉ key.toList)
    (href : classify visit.value = .reference ("#/" ++ holder ++ "/" ++ key)) :
    definitions document = .ok found ∧
    ∃ declaration, (⟨key, value⟩ : Visit).declaration? = some declaration ∧
      declaration.name = capitalize key ∧
      (∀ (options : Options) (root : TypeExpr) (after : Generator),
        runFrom (emitDocument options document found) .empty = (.ok root, after) →
        declaration ∈ after.declarations) ∧
      (∀ options : Options, ∃ root after,
        runFrom (emitDocument { options with collisions := .warn } document found) .empty =
          (.ok root, after)) ∧
      ∀ (policy : CollisionPolicy) (generator : Generator), ∃ type,
        runFrom (emit policy visit.property (Node.ofValue visit.value)) generator =
          (.ok type, generator) ∧
          type.render = key ∧ (type.render = declaration.name ↔ capitalize key = key) := by
  obtain ⟨declaration, hdeclaration, hname⟩ := exists_declaration_of_shape ⟨key, value⟩ hshape
  have hfound : definitions document = .ok found := by
    rw [definitions, hholder]
  refine ⟨hfound, declaration, hdeclaration, hname, ?_, ?_, ?_⟩
  · intro options root after hrun
    rw [declarations_of_emitDocument hrun]
    exact declaration_mem_document options.rootName document hmem hdeclaration
  · intro options
    exact ⟨_, _, runFrom_emitDocument_warn options document found .empty⟩
  · intro policy generator
    have htext : (TypeExpr.reference (referenceName ("#/" ++ holder ++ "/" ++ key))).render = key := by
      rw [render_reference, referenceName_append _ hslash]
    refine ⟨_, runFrom_emit_reference policy generator href, htext, ?_⟩
    rw [htext, hname]
    exact eq_comm

/-- One definition, under a key that has a capital in the middle only. -/
def innerCapital : Members := [("petName", .object [("type", .string "object")])]

/-- A document that has the definition and refers to it. -/
def innerCapitalDocument : Members :=
  [("definitions", .object innerCapital), ("$ref", .string "#/definitions/petName")]

theorem innerCapital_names_differ :
    definitionsOf? innerCapitalDocument = some ("definitions", .object innerCapital) ∧
    '/' ∉ "petName".toList ∧
    ∃ declaration type, (⟨"petName", .object [("type", .string "object")]⟩ : Visit).declaration? =
      some declaration ∧
      runFrom (emit .warn "root" (Node.ofValue (.object innerCapitalDocument))) .empty =
        (.ok type, .empty) ∧
      type.render = "petName" ∧ type.render ≠ declaration.name := by
  have hholder : definitionsOf? innerCapitalDocument = some ("definitions", .object innerCapital) := by
    decide
  have hslash : '/' ∉ "petName".toList := by decide
  have href : classify (.object innerCapitalDocument) =
      .reference ("#/" ++ "definitions" ++ "/" ++ "petName") := by decide
  have hshape : classify (.object [("type", .string "object")]) = .object none [] := by decide
  obtain ⟨_, declaration, hdeclaration, _, _, _, hreference⟩ :=
    reference_names_definition_iff ⟨"root", .object innerCapitalDocument⟩ hholder
      (List.mem_singleton_self _)
      (.inr ⟨none, [], hshape⟩) hslash href
  obtain ⟨type, hrun, htext, hsame⟩ := hreference .warn .empty
  refine ⟨hholder, hslash, declaration, type, hdeclaration, hrun, htext, fun heq => ?_⟩
  have hcapital : capitalize "petName" = "petName" := hsame.1 heq
  exact absurd hcapital (by decide)

theorem reference_misses_definition :
    definitionsOf? innerCapitalDocument = some ("definitions", .object innerCapital) ∧
    classify (.object [("type", .string "object")]) = .object none [] ∧
    classify (.object innerCapitalDocument) = .reference "#/definitions/petName" ∧
    (runFrom (emitDocument {} innerCapitalDocument innerCapital) .empty).1.toOption.map TypeExpr.render =
      some "petName" ∧
    namesOf (runFrom (emitDocument {} innerCapitalDocument innerCapital) .empty).2.declarations =
      ["Petname"] := by
  decide

end SchemaTyping.Emission
