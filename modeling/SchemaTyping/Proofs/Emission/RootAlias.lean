import SchemaTyping.Proofs.Emission.Resolution
import SchemaTyping.Proofs.Text.Caseless

/-!
# When the root gets a name of its own

One mode looks for a closing bracket in the text of the root's type, the other asks whether the type is a
declared name. On the shape of the root the first test comes down to whether it is written in brackets,
as long as no name has a bracket in it: capitalising brings none in, and a type without brackets around
it is a single word. So the modes agree on roots that are declared and on roots that are written in
brackets, and for all others only the second adds the name. A root that gets none is declared, and since
its children come before it its declaration is the last.
-/

namespace SchemaTyping.Emission

open Json (Value Members)
open Schema (Node Primitive Shape classify)
open Text (capitalize caseless_bracket not_mem_capitalize)
open Typing (TypeExpr Declaration RootAlias preamble renderModule)

/-! ### The two tests on the shape of the root -/

/-- The shapes of lists and unions, whose types have brackets around what they hold. -/
def writtenInBrackets : Shape → Bool
  | .array _ | .anyOf _ | .types _ => true
  | _ => false

theorem bracket_not_mem_primitive (type : Primitive) : ']' ∉ type.pythonName.toList := by
  cases type <;> decide

/-- In the text of a type there is a closing bracket exactly if the shape is written in brackets. -/
theorem applies_bracket_typeOf {visit : Visit} (hname : ']' ∉ visit.property.toList)
    (hreference : ∀ pointer, classify visit.value = .reference pointer →
      ']' ∉ (referenceName pointer).toList) :
    RootAlias.applies .bracket (typeOf visit) = writtenInBrackets (classify visit.value) := by
  have hdeclared : ']' ∉ (capitalize visit.property).toList := not_mem_capitalize caseless_bracket hname
  have hany : ']' ∉ TypeExpr.any.chars := by decide
  have hclosed : ∀ text : List Char, ']' ∈ text ++ [']'] :=
    fun _ => List.mem_append_right _ (List.mem_singleton_self _)
  rw [RootAlias.applies, Bool.eq_iff_iff, List.contains_iff_mem, typeOf_eq]
  cases hshape : classify visit.value with
  | array item? =>
    cases item? <;> exact iff_of_true (hclosed _) rfl
  | anyOf alternatives | types names => exact iff_of_true (hclosed _) rfl
  | enum values | object properties required => exact iff_of_false hdeclared Bool.false_ne_true
  | reference pointer => exact iff_of_false (hreference pointer hshape) Bool.false_ne_true
  | primitive type => exact iff_of_false (bracket_not_mem_primitive type) Bool.false_ne_true
  | empty | unrecognized => exact iff_of_false hany Bool.false_ne_true

theorem applies_shape_typeOf (visit : Visit) :
    RootAlias.applies .shape (typeOf visit) = !declaresName (classify visit.value) := by
  rw [RootAlias.applies, isDeclared_typeOf]

theorem declaresName_or_writtenInBrackets_eq_false (shape : Shape) :
    declaresName shape = false ∨ writtenInBrackets shape = false := by
  cases shape with
  | enum values | object properties required => exact .inr rfl
  | _ => exact .inl rfl

/-! ### The module and the name at its end -/

/-- A module that ends with its last declaration. -/
def plainModule (declarations : List Declaration) : String :=
  "\n\n".intercalate ("\n".intercalate preamble :: declarations.map Declaration.render)

/-- The name that the root gets, behind an empty line. -/
def aliasText (root : TypeExpr) : String := "\n\nRoot = " ++ root.render

theorem renderModule_eq (mode : RootAlias) (declarations : List Declaration) (root : TypeExpr) :
    renderModule mode declarations root = plainModule declarations ++
      if mode.applies root then aliasText root else "" := rfl

/-- A document that is emitted without failure has its definitions emitted, and then its root. -/
theorem exists_before_root {options : Options} {document found : Members} {root : TypeExpr}
    {after : Generator}
    (hrun : runFrom (emitDocument options document found) .empty = (.ok root, after)) :
    ∃ before, runFrom (emitDefinitions options.collisions found.reverse) .empty = (.ok (), before) ∧
      runFrom (emit options.collisions options.rootName (Node.ofValue (.object document))) before =
        (.ok root, after) := by
  unfold emitDocument at hrun
  cases hdefinitions : runFrom (emitDefinitions options.collisions found.reverse) .empty with
  | mk outcome before =>
    cases outcome with
    | error repeated =>
      rw [runFrom_bind_of_error hdefinitions] at hrun
      cases hrun
    | ok value =>
      rw [runFrom_bind_of_ok hdefinitions] at hrun
      exact ⟨before, rfl, hrun⟩

/-- A schema that is declared adds its own declaration behind all others. -/
theorem exists_last_of_emit {policy : CollisionPolicy} (visit : Visit) {before after : Generator}
    {type : TypeExpr} (hrun : runFrom (visit.emit policy) before = (.ok type, after))
    (hdeclares : declaresName (classify visit.value) = true) :
    ∃ earlier declaration, visit.declaration? = some declaration ∧
      declaration.name = capitalize visit.property ∧
      after.declarations = before.declarations ++ earlier ++ [declaration] := by
  obtain ⟨declaration, hdeclaration⟩ :=
    Option.isSome_iff_exists.1 (visit.isSome_declaration?.trans hdeclares)
  refine ⟨visit.children.flatMap declarationsOf, declaration, hdeclaration,
    name_of_declaration hdeclaration, ?_⟩
  rw [(emit_of_ok hrun).2, Generator.declarations_afterAll, declarationsIn_script, declarationsOf_eq,
    hdeclaration, Option.toList_some, List.append_assoc]

/-- The module that a document becomes in a mode. -/
def moduleIn (mode : RootAlias) (options : Options) (document : Value) : Except ConversionError String :=
  (convert { options with rootAlias := mode } document).1

theorem moduleIn_eq {options : Options} {document found : Members} {root : TypeExpr} {after : Generator}
    (hfound : definitions document = .ok found)
    (hrun : runFrom (emitDocument options document found) .empty = (.ok root, after))
    (mode : RootAlias) :
    moduleIn mode options (.object document) =
      .ok (plainModule after.declarations ++ if mode.applies root then aliasText root else "") := by
  have hmode : runFrom (emitDocument { options with rootAlias := mode } document found) .empty =
      (.ok root, after) := hrun
  rw [moduleIn, convert_object, hfound]
  simp only [hmode, renderModule_eq]

/-- **The two modes differ on the roots that are neither declared nor written in brackets.** Of a
document that is converted, and whose root name and reference have no closing bracket, the first mode
names the root if it is a list or a union, the second if it is neither an object nor an enumeration.
Where both or neither do, the modules are the same; otherwise that of the second mode goes on where that
of the first ends. A root that the second mode does not name was declared last of all, by its own
emission and under its own name. -/
theorem alias_modes_differ {options : Options} {document : Value} {text : String}
    (hconvert : (convert options document).1 = .ok text) (hname : ']' ∉ options.rootName.toList)
    (hreference : ∀ pointer, classify document = .reference pointer →
      ']' ∉ (referenceName pointer).toList) :
    ∃ members found before root after, document = .object members ∧ definitions members = .ok found ∧
      runFrom (emitDefinitions options.collisions found.reverse) .empty = (.ok (), before) ∧
      runFrom (emit options.collisions options.rootName (Node.ofValue document)) before =
        (.ok root, after) ∧
      moduleIn .bracket options document =
        .ok (plainModule after.declarations ++
          if writtenInBrackets (classify document) then aliasText root else "") ∧
      moduleIn .shape options document =
        .ok (plainModule after.declarations ++ if declaresName (classify document) then ""
          else aliasText root) ∧
      (declaresName (classify document) = true ∨ writtenInBrackets (classify document) = true →
        moduleIn .shape options document = moduleIn .bracket options document) ∧
      (declaresName (classify document) = false → writtenInBrackets (classify document) = false →
        ∃ output, moduleIn .bracket options document = .ok output ∧
          moduleIn .shape options document = .ok (output ++ ("\n\nRoot = " ++ root.render))) ∧
      (declaresName (classify document) = true →
        ∃ earlier declaration, Visit.declaration? ⟨options.rootName, document⟩ = some declaration ∧
          declaration.name = capitalize options.rootName ∧
          after.declarations = before.declarations ++ earlier ++ [declaration]) := by
  obtain ⟨members, rfl⟩ := object_of_convert hconvert
  obtain ⟨found, root, after, hfound, hrun, _⟩ := exists_emitDocument_of_convert hconvert
  obtain ⟨before, hdefinitions, hroot⟩ := exists_before_root hrun
  have hbracket := moduleIn_eq hfound hrun .bracket
  have hshape := moduleIn_eq hfound hrun .shape
  have hwritten : RootAlias.applies .bracket root = writtenInBrackets (classify (.object members)) := by
    rw [root_of_emitDocument hrun]
    exact applies_bracket_typeOf hname hreference
  have hundeclared : RootAlias.applies .shape root = !declaresName (classify (.object members)) := by
    rw [root_of_emitDocument hrun]
    exact applies_shape_typeOf _
  rw [hwritten] at hbracket
  rw [hundeclared] at hshape
  refine ⟨members, found, before, root, after, rfl, hfound, hdefinitions, hroot, hbracket, ?_, ?_, ?_,
    exists_last_of_emit ⟨options.rootName, .object members⟩ hroot⟩
  · rw [hshape]
    cases declaresName (classify (.object members)) <;> rfl
  · intro hagree
    rw [hshape, hbracket]
    obtain hdeclares | hplain := declaresName_or_writtenInBrackets_eq_false (classify (.object members))
    · have hwritten := hagree.resolve_left (Bool.eq_false_iff.1 hdeclares)
      rw [hdeclares, hwritten]
      rfl
    · have hdeclares := hagree.resolve_right (Bool.eq_false_iff.1 hplain)
      rw [hdeclares, hplain]
      rfl
  · intro hdeclares hwritten
    refine ⟨plainModule after.declarations, ?_, ?_⟩
    · rw [hbracket, hwritten]
      exact congrArg Except.ok String.append_empty
    · rw [hshape, hdeclares]
      rfl

/-- A document of which the root refers to one of its definitions. -/
def referringRoot : Value :=
  .object [("$ref", .string "#/definitions/Pet"),
    ("definitions", .object [("Pet", .object [("type", .string "object")])])]

theorem referringRoot_modes_differ :
    ']' ∉ "root".toList ∧ ']' ∉ (referenceName "#/definitions/Pet").toList ∧
      ∃ output, moduleIn .bracket {} referringRoot = .ok output ∧
        moduleIn .shape {} referringRoot = .ok (output ++ "\n\nRoot = Pet") := by
  have hname : ']' ∉ "root".toList := by decide
  have hpet : ']' ∉ (referenceName "#/definitions/Pet").toList := by decide
  have hreference : ∀ pointer, classify referringRoot = .reference pointer →
      ']' ∉ (referenceName pointer).toList := by
    intro pointer hpointer
    cases hpointer
    exact hpet
  obtain ⟨text, hconvert⟩ : ∃ text, (convert {} referringRoot).1 = .ok text := ⟨_, rfl⟩
  obtain ⟨members, found, before, root, after, _, _, _, hroot, _, _, _, hdiffer, _⟩ :=
    alias_modes_differ hconvert hname hreference
  have htype : root = .reference (referenceName "#/definitions/Pet") := by
    rw [(@emit_of_ok .warn ⟨"root", referringRoot⟩ _ _ _ hroot).1, typeOf_eq]
    rfl
  have halias : "\n\nRoot = " ++ root.render = "\n\nRoot = Pet" := by
    rw [htype]
    decide
  refine ⟨hname, hpet, ?_⟩
  rw [← halias]
  exact hdiffer rfl rfl

end SchemaTyping.Emission
