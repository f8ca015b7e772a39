import SchemaTyping.Proofs.Emission.Leaves
import SchemaTyping.Proofs.Emission.Session

/-!
# Children are declared before their parents

A record mentions in its fields the names that its children are declared under, and the walk declares the
children first. The order is a property of the declarations of one schema (`usesKnown_declarationsOf`).
It outlives a run that fails, since such a run keeps a first part of them, and a session, since what is
declared stays where it is. Names that a schema refers to are outside of this order: nothing here says
that they are declared at all.
-/

namespace SchemaTyping.Emission

open Json (Value)
open Schema (Node)
open Typing (TypeExpr Declaration UsesKnown namesOf usesKnown_append)

/-! ### One schema -/

theorem mem_namesOf_child {visit child : Visit} {name : String} (hchild : child ∈ visit.children)
    (hname : name ∈ namesOf (declarationsOf child)) :
    name ∈ namesOf (visit.children.flatMap declarationsOf) := by
  obtain ⟨declaration, hdeclaration, rfl⟩ := List.mem_map.1 hname
  exact List.mem_map_of_mem (List.mem_flatMap.2 ⟨child, hchild, hdeclaration⟩)

/-- A name in the type of a schema is one that the schema declares: what it declares and what it mentions
have the same names. -/
theorem mem_namesOf_of_typeOf {visit : Visit} {name : String}
    (hname : name ∈ (typeOf visit).declaredNames) :
    name ∈ namesOf (declarationsOf visit) :=
  (names_perm visit).mem_iff.2 (List.mem_append_right _ hname)

theorem exists_child_of_uses {visit : Visit} {declaration : Declaration} {name : String}
    (hdeclaration : visit.declaration? = some declaration) (hname : name ∈ declaration.uses) :
    ∃ child ∈ visit.children, name ∈ (typeOf child).declaredNames := by
  unfold Visit.declaration? at hdeclaration
  split at hdeclaration
  · cases hdeclaration
    cases hname
  · cases hdeclaration
    simpa only [Declaration.uses, Visit.fields, List.flatMap_map, List.mem_flatMap] using hname
  · cases hdeclaration

/-- Each declaration of a schema uses only names declared before it. -/
theorem usesKnown_declarationsOf (visit : Visit) : UsesKnown [] (declarationsOf visit) := by
  induction visit using Visit.induction with
  | step visit ih =>
    -- the children need nothing from one another, and the schema itself only what they declare
    rw [declarationsOf_eq, usesKnown_append]
    refine ⟨UsesKnown.flatMap ih, ?_⟩
    cases hdeclaration : visit.declaration? with
    | none => trivial
    | some declaration =>
      refine ⟨fun name hname => ?_, trivial⟩
      obtain ⟨child, hchild, hused⟩ := exists_child_of_uses hdeclaration hname
      exact mem_namesOf_child hchild (mem_namesOf_of_typeOf hused)

/-! ### Sessions -/

theorem usesKnown_session (policy : CollisionPolicy) (visits : List Visit) :
    UsesKnown [] (session policy visits).declarations := by
  induction visits using List.reverseRecOn with
  | nil => trivial
  | append_singleton visits visit ih =>
    obtain ⟨added, hpart, hadded⟩ := exists_added_emit policy (session policy visits) visit
    rw [session_concat, hadded, usesKnown_append]
    have huses : UsesKnown [] added := (usesKnown_declarationsOf visit).of_part hpart
    exact ⟨ih, huses.mono (by simp)⟩

theorem exists_declaration_of_emit {policy : CollisionPolicy} {visit : Visit}
    {generator after : Generator} {type : TypeExpr}
    (hemit : runFrom (visit.emit policy) generator = (.ok type, after)) {name : String}
    (hname : name ∈ type.declaredNames) :
    ∃ declaration ∈ after.declarations, declaration.name = name := by
  obtain ⟨rfl, rfl⟩ := emit_of_ok hemit
  obtain ⟨declaration, hmem, hdeclaration⟩ := List.mem_map.1 (mem_namesOf_of_typeOf hname)
  rw [Generator.declarations_afterAll, declarationsIn_script]
  exact ⟨declaration, List.mem_append_right _ hmem, hdeclaration⟩

/-- **Children are declared before their parents.** In a session, whichever of its emissions failed, a
name in the fields of the record at one position is the name of a declaration at an earlier position. And
a name in the type that an emission of the session returned is the name of a declaration that was there
when the emission returned, and still is. -/
theorem session_childrenFirst (policy : CollisionPolicy) (visits : List Visit) :
    (∀ (i : Nat) (declaration : Declaration),
      (session policy visits).declarations[i]? = some declaration →
      ∀ name ∈ declaration.uses, ∃ j < i, ∃ earlier,
        (session policy visits).declarations[j]? = some earlier ∧ earlier.name = name) ∧
    (∀ (before : List Visit) (visit : Visit) (rest : List Visit) (type : TypeExpr) (after : Generator),
      visits = before ++ visit :: rest →
      runFrom (emit policy visit.property (Node.ofValue visit.value)) (session policy before) =
        (.ok type, after) →
      after.declarations <+: (session policy visits).declarations ∧
        ∀ name ∈ type.declaredNames, ∃ declaration ∈ after.declarations, declaration.name = name) := by
  constructor
  · intro i declaration hdeclaration name hname
    rcases (usesKnown_session policy visits).exists_earlier hdeclaration hname with hknown | hearlier
    · cases hknown
    · exact hearlier
  · intro before visit rest type after hvisits hemit
    have hafter : session policy (before ++ [visit]) = after := by
      rw [session_concat]
      exact congrArg Prod.snd hemit
    refine ⟨?_, fun name hname => exists_declaration_of_emit hemit hname⟩
    rw [hvisits, ← hafter, List.append_cons before visit rest]
    exact declarations_prefix_session policy (before ++ [visit]) rest

/-- A list of records with one field, whose type is an enumeration. -/
def ownerList : Value :=
  .object [("type", .string "array"),
    ("items", .object [("type", .string "object"),
      ("properties", .object [("kind", .object [("enum", .array [.string "cat"])])])])]

/-- The list, and then an enumeration that the strict policy refuses: the list has declared its name. -/
def interruptedSession : List Visit := [⟨"owners", ownerList⟩, ⟨"kind", .object [("enum", .array [])]⟩]

theorem interruptedSession_childrenFirst :
    (runFrom (emit .error "kind" (Node.ofValue (.object [("enum", .array [])])))
      (session .error [⟨"owners", ownerList⟩])).1 =
      .error ⟨"Kind"⟩ ∧
    (session .error interruptedSession).declarations[1]? =
      some ⟨"Owners", .record [⟨"kind", .declared "Kind", false⟩]⟩ ∧
    (∃ j < 1, ∃ earlier, (session .error interruptedSession).declarations[j]? = some earlier ∧
      earlier.name = "Kind") ∧
    ∃ declaration ∈ (session .error interruptedSession).declarations, declaration.name = "Owners" := by
  have hrefused : (runFrom (emit .error "kind" (Node.ofValue (.object [("enum", .array [])])))
      (session .error [⟨"owners", ownerList⟩])).1 = .error ⟨"Kind"⟩ := by
    rfl
  have hrecord : (session .error interruptedSession).declarations[1]? =
      some ⟨"Owners", .record [⟨"kind", .declared "Kind", false⟩]⟩ := by
    rfl
  have hemit : runFrom (emit .error "owners" (Node.ofValue ownerList)) (session .error []) =
      (.ok (.list (.declared "Owners")), session .error [⟨"owners", ownerList⟩]) := by
    rfl
  obtain ⟨hearlier, hreturned⟩ := session_childrenFirst .error interruptedSession
  obtain ⟨hstays, hdeclared⟩ := hreturned [] ⟨"owners", ownerList⟩ _ _ _ rfl hemit
  obtain ⟨declaration, hmem, hname⟩ := hdeclared "Owners" (List.mem_singleton_self _)
  refine ⟨hrefused, hrecord, hearlier 1 _ hrecord "Kind" (List.mem_singleton_self _), ?_⟩
  exact ⟨declaration, hstays.subset hmem, hname⟩

end SchemaTyping.Emission
