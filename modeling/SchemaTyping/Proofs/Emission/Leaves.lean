import Mathlib.Data.List.Perm.Basic
import SchemaTyping.Proofs.Emission.Run
import SchemaTyping.Proofs.Typing.Leaves

/-!
# Every leaf has one place

A schema brings leaves of its own into types: its name if it declares one, the name it refers to, a
primitive type, or nothing at all if it only passes its children's types on. Each of these leaves ends up
in exactly one place, a field of a declaration or the type that emission returns, and no other leaves are
there (`leaves_perm`). Told of the declared names only, this is the balance of names declared and names
mentioned.
-/

namespace SchemaTyping.Emission

open Json (Value)
open Schema (Node classify)
open Text (capitalize)
open Typing (TypeExpr Declaration namesOf namesOf_append armLeaves_eq_flatMap)

/-- The leaves that a schema itself brings into types. -/
def Visit.leaves (visit : Visit) : List TypeExpr :=
  match classify visit.value with
  | .array (some _) | .anyOf _ => []
  | .array none => [.any]
  | .types names => names.map entryMeaning
  | _ => [typeOf visit]

theorem leaves_entryMeaning (entry : Value) : (entryMeaning entry).leaves = [entryMeaning entry] := by
  unfold entryMeaning
  split <;> rfl

theorem leaves_types (names : List Value) :
    (TypeExpr.union (names.map entryMeaning)).leaves = names.map entryMeaning := by
  rw [TypeExpr.leaves, armLeaves_eq_flatMap, List.flatMap_map]
  simp only [leaves_entryMeaning]
  exact List.map_eq_flatMap.symm

/-- The leaves of a schema's type and of its own declaration are those of its children's types and those
that it brings itself. -/
theorem leaves_step (visit : Visit) :
    visit.declaration?.toList.flatMap Declaration.leaves ++ (typeOf visit).leaves =
      visit.children.flatMap (fun child => (typeOf child).leaves) ++ visit.leaves := by
  have htype := typeOf_eq visit
  cases hshape : classify visit.value with
  | object properties required =>
    have hfields : (visit.fields.flatMap fun field => field.type.leaves) =
        visit.children.flatMap fun child => (typeOf child).leaves := by
      rw [Visit.fields, List.flatMap_map]
    simp only [hshape] at htype
    simp only [Visit.declaration?, Visit.leaves, hshape, htype, Option.toList, List.flatMap_singleton,
      Declaration.leaves_record, hfields, TypeExpr.leaves]
  | array item? =>
    cases item? <;> simp only [hshape] at htype <;>
      simp [Visit.declaration?, Visit.leaves, Visit.children, hshape, htype, TypeExpr.leaves]
  | anyOf alternatives =>
    simp only [hshape] at htype
    simp only [Visit.declaration?, Visit.leaves, hshape, htype, Visit.children_of_union hshape,
      TypeExpr.leaves, armLeaves_eq_flatMap, List.flatMap_map, Option.toList, List.flatMap_nil,
      List.nil_append, List.append_nil]
  | types names =>
    simp only [hshape] at htype
    simp [Visit.declaration?, Visit.leaves, Visit.children, hshape, htype, leaves_types]
  | _ =>
    simp only [hshape] at htype
    simp [Visit.declaration?, Visit.leaves, Visit.children, hshape, htype, TypeExpr.leaves,
      Declaration.leaves]

/-- The leaves in the declarations of a schema and in its type are those that the schemas of its walk
bring. -/
theorem leaves_perm (visit : Visit) :
    ((declarationsOf visit).flatMap Declaration.leaves ++ (typeOf visit).leaves).Perm
      ((walk visit).flatMap Visit.leaves) := by
  induction visit using Visit.induction with
  | step visit ih =>
    have hwalk : (walk visit).flatMap Visit.leaves =
        visit.children.flatMap (fun child => (walk child).flatMap Visit.leaves) ++ visit.leaves := by
      rw [walk_eq, List.flatMap_append, List.flatMap_assoc, List.flatMap_singleton]
    have hchildren :
        (visit.children.flatMap (fun child => (declarationsOf child).flatMap Declaration.leaves) ++
          visit.children.flatMap (fun child => (typeOf child).leaves)).Perm
        (visit.children.flatMap fun child => (walk child).flatMap Visit.leaves) :=
      (List.flatMap_append_perm _ _ _).trans (List.Perm.flatMap_left _ ih)
    rw [declarationsOf_eq, List.flatMap_append, List.flatMap_assoc, List.append_assoc, leaves_step,
      ← List.append_assoc, hwalk]
    exact hchildren.append_right visit.leaves

/-! ### Names at the leaves -/

theorem filterMap_leaves_perm (name? : TypeExpr → Option String) (visit : Visit) :
    ((declarationsOf visit).flatMap (fun declaration => declaration.leaves.filterMap name?) ++
        (typeOf visit).leaves.filterMap name?).Perm
      ((walk visit).flatMap fun other => other.leaves.filterMap name?) := by
  have hleaves := (leaves_perm visit).filterMap name?
  rw [List.filterMap_append, List.filterMap_flatMap, List.filterMap_flatMap] at hleaves
  exact hleaves

/-- Of the leaves that a schema brings only its declared name and the name it refers to are names. -/
theorem filterMap_leaves {name? : TypeExpr → Option String} (hany : name? .any = none)
    (hprimitive : ∀ type, name? (.primitive type) = none) (visit : Visit) :
    visit.leaves.filterMap name? =
      match classify visit.value with
      | .enum _ | .object _ _ => (name? (.declared (capitalize visit.property))).toList
      | .reference pointer => (name? (.reference (referenceName pointer))).toList
      | _ => [] := by
  have hentries : ∀ entries : List Value, (entries.map entryMeaning).filterMap name? = [] := by
    intro entries
    rw [List.filterMap_map, List.filterMap_eq_nil_iff]
    intro entry _
    rw [Function.comp_apply, entryMeaning]
    split
    · exact hprimitive _
    · exact hany
  have hsingle : ∀ type, [type].filterMap name? = (name? type).toList := by
    intro type
    cases hname : name? type <;> simp [hname]
  have htype := typeOf_eq visit
  cases hshape : classify visit.value with
  | array item? => cases item? <;> simp [Visit.leaves, hshape, hany]
  | types names => simp only [Visit.leaves, hshape, hentries]
  | _ =>
    simp only [hshape] at htype
    simp only [Visit.leaves, hshape, htype, hsingle, hany, hprimitive, Option.toList, List.filterMap_nil]

theorem declaredNames_leaves (visit : Visit) :
    visit.leaves.filterMap TypeExpr.declaredName? = namesOf visit.declaration?.toList := by
  rw [filterMap_leaves rfl fun _ => rfl, Visit.declaration?]
  cases classify visit.value <;> rfl

/-- The names that a schema declares are those that its declarations and its type mention, each as
often. -/
theorem names_perm (visit : Visit) :
    (namesOf (declarationsOf visit)).Perm
      ((declarationsOf visit).flatMap Declaration.uses ++ (typeOf visit).declaredNames) := by
  have hnames : namesOf (declarationsOf visit) =
      (walk visit).flatMap fun other => other.leaves.filterMap TypeExpr.declaredName? := by
    unfold declarationsOf
    rw [List.filterMap_eq_flatMap_toList, namesOf, List.map_flatMap]
    exact List.flatMap_congr fun other _ => (declaredNames_leaves other).symm
  have huses : (declarationsOf visit).flatMap Declaration.uses =
      (declarationsOf visit).flatMap fun declaration =>
        declaration.leaves.filterMap TypeExpr.declaredName? :=
    List.flatMap_congr fun declaration _ => declaration.uses_eq_leaves
  rw [hnames, huses, TypeExpr.declaredNames_eq_leaves]
  exact (filterMap_leaves_perm TypeExpr.declaredName? visit).symm

/-- The name that a reference asks for. -/
def Visit.referredName? (visit : Visit) : Option String :=
  match classify visit.value with
  | .reference pointer => some (referenceName pointer)
  | _ => none

/-- The names that the references in a schema ask for, in the order of the walk. -/
def namesReferredTo (visit : Visit) : List String := (walk visit).filterMap Visit.referredName?

theorem referredNames_leaves (visit : Visit) :
    visit.leaves.filterMap TypeExpr.referredName? = visit.referredName?.toList := by
  rw [filterMap_leaves rfl fun _ => rfl, Visit.referredName?]
  cases classify visit.value <;> rfl

/-- The names that the references in a schema ask for are those that its declarations and its type refer
to, each as often. -/
theorem references_perm (visit : Visit) :
    (namesReferredTo visit).Perm
      ((declarationsOf visit).flatMap Declaration.refersTo ++ (typeOf visit).referredNames) := by
  have hnames : namesReferredTo visit = (walk visit).flatMap fun other =>
      other.leaves.filterMap TypeExpr.referredName? := by
    rw [namesReferredTo, List.filterMap_eq_flatMap_toList]
    exact List.flatMap_congr fun other _ => (referredNames_leaves other).symm
  rw [hnames]
  exact (filterMap_leaves_perm TypeExpr.referredName? visit).symm

/-! ### What an emission declares and mentions -/

/-- **What an emission declares is mentioned, name for name.** An emission that did not fail, from any
generator and under either policy, has added declarations behind those that were there. Their names are
the declared names in the fields of those declarations together with the ones in the type returned, each
counted as often as it occurs. -/
theorem emitted_names_balance {policy : CollisionPolicy} {visit : Visit} {generator after : Generator}
    {type : TypeExpr}
    (hemit : runFrom (emit policy visit.property (Node.ofValue visit.value)) generator =
      (.ok type, after)) :
    ∃ added, after.declarations = generator.declarations ++ added ∧
      (namesOf added).Perm (added.flatMap Declaration.uses ++ type.declaredNames) := by
  obtain ⟨rfl, rfl⟩ := emit_of_ok hemit
  refine ⟨declarationsOf visit, ?_, names_perm visit⟩
  rw [Generator.declarations_afterAll, declarationsIn_script]

/-- A record with a field of two enumerations under one name, and a field with a list of records. -/
def sharedNames : Value :=
  .object [("type", .string "object"),
    ("properties", .object [
      ("mode", .object
        [("anyOf", .array [.object [("enum", .array [.string "x"])], .object [("enum", .array [])]])]),
      ("parts", .object [("type", .string "array"), ("items", .object [("type", .string "object")])])])]

/-- A generator under which the name that is shared is already in use. -/
def modeInUse : Generator := Generator.empty.add ⟨"Mode", .literal []⟩

theorem sharedNames_balance :
    ∃ after added, runFrom (emit .warn "root" (Node.ofValue sharedNames)) modeInUse =
      (.ok (.declared "Root"), after) ∧
      after.declarations = modeInUse.declarations ++ added ∧
      namesOf added = ["Mode", "Mode", "Parts", "Root"] ∧
      (namesOf added).Perm (added.flatMap Declaration.uses ++ ["Root"]) := by
  have hemit : runFrom (emit .warn "root" (Node.ofValue sharedNames)) modeInUse =
      (.ok (.declared "Root"),
        (runFrom (emit .warn "root" (Node.ofValue sharedNames)) modeInUse).2) := by
    rfl
  have hnames : namesOf
      (runFrom (emit .warn "root" (Node.ofValue sharedNames)) modeInUse).2.declarations =
      ["Mode"] ++ ["Mode", "Mode", "Parts", "Root"] := by
    decide
  obtain ⟨added, hadded, hbalance⟩ :=
    @emitted_names_balance .warn ⟨"root", sharedNames⟩ modeInUse _ _ hemit
  refine ⟨_, added, hemit, hadded, ?_, hbalance⟩
  rw [hadded, namesOf_append] at hnames
  exact List.append_cancel_left hnames

end SchemaTyping.Emission
