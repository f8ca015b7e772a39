import Mathlib.Data.Multiset.Bind
import SchemaTyping.Proofs.Emission.Resolution
import SchemaTyping.Proofs.Schema.Reordering

/-!
# Conversion up to the order of members

When the members of objects are moved the walk meets its visits in another order, and a strict run may
fail at another name. But whether it fails depends on the names of all declarations together and not on
their order. So what has to be compared is the multiset of declarations: reordered schemas have the same
type (`typeOf_reordered`), and their declarations can be matched one to one with ones of the same name,
records with the same fields (`declarationsOf_reordered`).
-/

namespace SchemaTyping.Emission

open Json (Value Members ReorderedMember forall₂_reorderedMember lookup_reordered)
open Schema (classify classify_reordered)
open Typing (TypeExpr Field Declaration quoteLiteral namesOf renderModule)

section

variable {α β γ : Type} {R : α → β → Prop}

theorem rel_of_forall₂ {items : List α} {others : List β} (hitems : List.Forall₂ R items others) :
    Multiset.Rel R (items : Multiset α) (others : Multiset β) := by
  induction hitems with
  | nil => exact .zero
  | cons hitem _ ih => exact .cons hitem ih

theorem map_perm_of_rel {items : List α} {others : List β} {f : α → γ} {g : β → γ}
    (hitems : Multiset.Rel R (items : Multiset α) (others : Multiset β))
    (hsame : ∀ item other, R item other → f item = g other) :
    (items.map f).Perm (others.map g) := by
  rw [← Multiset.coe_eq_coe, ← Multiset.map_coe, ← Multiset.map_coe, ← Multiset.rel_eq, Multiset.rel_map]
  exact hitems.mono fun item _ other _ => hsame item other

theorem map_eq_of_forall₂ {items : List α} {others : List β} {f : α → γ} {g : β → γ}
    (hitems : List.Forall₂ R items others)
    (hsame : ∀ item ∈ items, ∀ other, R item other → f item = g other) :
    items.map f = others.map g := by
  induction hitems with
  | nil => rfl
  | cons hitem _ ih =>
    rw [List.map_cons, List.map_cons, hsame _ List.mem_cons_self _ hitem,
      ih fun item hmem => hsame item (List.mem_cons_of_mem _ hmem)]

theorem flatMap_rel {δ ε : Type} {S : δ → ε → Prop} {items : List α} {others : List β} {f : α → List δ}
    {g : β → List ε} (hitems : Multiset.Rel R (items : Multiset α) (others : Multiset β))
    (hrelated : ∀ item ∈ items, ∀ other, R item other →
      Multiset.Rel S (f item : Multiset δ) (g other : Multiset ε)) :
    Multiset.Rel S (items.flatMap f : Multiset δ) (others.flatMap g : Multiset ε) := by
  rw [← Multiset.coe_bind, ← Multiset.coe_bind]
  refine Multiset.rel_bind
    (r := fun item other => Multiset.Rel S (f item : Multiset δ) (g other : Multiset ε))
    (fun _ _ hrel => hrel) (hitems.mono ?_)
  intro item hmem other _ hitem
  exact hrelated item hmem other hitem

end

/-! ### Visits -/

/-- Visits of reordered schemas under one property. -/
structure Visit.Reordered (visit other : Visit) : Prop where
  property : visit.property = other.property
  value : visit.value.Reordered other.value

theorem Visit.Reordered.refl (visit : Visit) : visit.Reordered visit := ⟨rfl, .refl _⟩

theorem memberVisits_reordered {members others : Members}
    (hreordered : (Value.object members).Reordered (.object others)) :
    Multiset.Rel Visit.Reordered
      (members.map fun (key, value) => (⟨key, value⟩ : Visit) : Multiset Visit)
      (others.map fun (key, value) => (⟨key, value⟩ : Visit) : Multiset Visit) := by
  cases hreordered with
  | refl => exact Multiset.rel_refl_of_refl_on fun visit _ => .refl visit
  | object hmoved hkeys hvalues =>
    rw [Multiset.coe_eq_coe.2 (hmoved.perm.map _), ← Multiset.map_coe, ← Multiset.map_coe,
      Multiset.rel_map]
    exact (rel_of_forall₂ (forall₂_reorderedMember hkeys hvalues)).mono fun _ _ _ _ hmember =>
      ⟨hmember.1, hmember.2⟩

theorem children_reordered {visit other : Visit} (hreordered : visit.Reordered other) :
    Multiset.Rel Visit.Reordered (visit.children : Multiset Visit)
      (other.children : Multiset Visit) := by
  have hshape := classify_reordered hreordered.value
  unfold Visit.children
  rw [hreordered.property]
  generalize classify visit.value = shape at hshape ⊢
  generalize classify other.value = shape' at hshape ⊢
  cases hshape with
  | refl => exact Multiset.rel_refl_of_refl_on fun child _ => .refl child
  | enum _ => exact .zero
  | types _ => exact .zero
  | object _ hproperties => exact memberVisits_reordered hproperties
  | array hitem => exact .cons ⟨rfl, hitem⟩ .zero
  | anyOf halternatives =>
    rw [← Multiset.map_coe, ← Multiset.map_coe, Multiset.rel_map]
    exact (rel_of_forall₂ halternatives).mono fun _ _ _ _ halternative => ⟨rfl, halternative⟩

/-! ### Types -/

theorem entryMeaning_reordered {entry other : Value} (hreordered : entry.Reordered other) :
    entryMeaning entry = entryMeaning other := by
  cases hreordered with
  | refl => rfl
  | array _ => rfl
  | object _ _ _ => rfl

theorem typeOf_reordered {visit other : Visit} (hreordered : visit.Reordered other) :
    typeOf visit = typeOf other := by
  induction visit using Visit.induction generalizing other with
  | step visit ih =>
    have hshape := classify_reordered hreordered.value
    rw [typeOf_eq, typeOf_eq, ← hreordered.property]
    generalize hleft : classify visit.value = shape at hshape ⊢
    generalize classify other.value = shape' at hshape ⊢
    cases hshape with
    | refl => rfl
    | enum _ => rfl
    | object _ _ => rfl
    | array hitem => exact congrArg TypeExpr.list (ih _ (Visit.item_mem_children hleft) ⟨rfl, hitem⟩)
    | anyOf halternatives =>
      refine congrArg TypeExpr.union (map_eq_of_forall₂ halternatives ?_)
      intro alternative hmem other halternative
      exact ih _ (Visit.alternative_mem_children hleft hmem) ⟨rfl, halternative⟩
    | types hnames =>
      exact congrArg TypeExpr.union
        (map_eq_of_forall₂ hnames fun _ _ _ hentry => entryMeaning_reordered hentry)

/-! ### Declarations -/

/-- Declarations of one name that differ in the order of fields at most. A literal stands for a
reordering of the value that the other's stands for. -/
inductive Declaration.Reordered : Declaration → Declaration → Prop
  | literal (name : String) {values others : List Value}
    (hvalues : List.Forall₂ Value.Reordered values others) :
    Declaration.Reordered ⟨name, .literal (values.map quoteLiteral)⟩
      ⟨name, .literal (others.map quoteLiteral)⟩
  | record (name : String) {fields others : List Field} (hfields : fields.Perm others) :
    Declaration.Reordered ⟨name, .record fields⟩ ⟨name, .record others⟩

theorem Declaration.Reordered.name_eq {declaration other : Declaration}
    (hreordered : Declaration.Reordered declaration other) :
    declaration.name = other.name := by
  cases hreordered <;> rfl

theorem fields_reordered {visit other : Visit} {properties properties' : Option Members}
    {required : List String} (hreordered : visit.Reordered other)
    (hleft : classify visit.value = .object properties required)
    (hright : classify other.value = .object properties' required) : visit.fields.Perm other.fields := by
  unfold Visit.fields
  refine map_perm_of_rel (children_reordered hreordered) fun child child' hchild => ?_
  rw [hchild.property, typeOf_reordered hchild, ← contains_required hleft, ← contains_required hright]

theorem declaration_reordered {visit other : Visit} (hreordered : visit.Reordered other) :
    Multiset.Rel Declaration.Reordered (visit.declaration?.toList : Multiset Declaration)
      (other.declaration?.toList : Multiset Declaration) := by
  have hshape := classify_reordered hreordered.value
  have hfields := @fields_reordered visit other
  unfold Visit.declaration?
  rw [← hreordered.property]
  generalize classify visit.value = shape at hshape hfields ⊢
  generalize classify other.value = shape' at hshape hfields ⊢
  cases hshape with
  | refl =>
    cases shape with
    | enum values => exact .cons (.literal _ (List.forall₂_same.2 fun _ _ => .refl _)) .zero
    | object properties required => exact .cons (.record _ (hfields hreordered rfl rfl)) .zero
    | _ => exact .zero
  | enum hvalues => exact .cons (.literal _ hvalues) .zero
  | object required _ => exact .cons (.record _ (hfields hreordered rfl rfl)) .zero
  | array _ => exact .zero
  | anyOf _ => exact .zero
  | types _ => exact .zero

theorem declarationsOf_reordered {visit other : Visit} (hreordered : visit.Reordered other) :
    Multiset.Rel Declaration.Reordered (declarationsOf visit : Multiset Declaration)
      (declarationsOf other : Multiset Declaration) := by
  induction visit using Visit.induction generalizing other with
  | step visit ih =>
    rw [declarationsOf_eq, declarationsOf_eq, ← Multiset.coe_add, ← Multiset.coe_add]
    refine .add ?_ (declaration_reordered hreordered)
    exact flatMap_rel (children_reordered hreordered) fun child hmem other hchild => ih child hmem hchild

/-! ### Documents -/

theorem definitionsOf_reordered {document other : Members}
    (hreordered : (Value.object document).Reordered (.object other)) :
    Option.Rel ReorderedMember (definitionsOf? document) (definitionsOf? other) := by
  unfold definitionsOf?
  induction definitionKeys with
  | nil => exact .none
  | cons key keys ih =>
    have hheld := lookup_reordered hreordered key
    rw [List.findSome?_cons, List.findSome?_cons]
    generalize document.lookup key = held at hheld ⊢
    generalize other.lookup key = held' at hheld ⊢
    cases hheld with
    | none => exact ih
    | @some value _ hvalue =>
      cases hvalue with
      | refl =>
        cases value with
        | null => exact ih
        | _ => exact .some ⟨rfl, .refl _⟩
      | array hitems => exact .some ⟨rfl, .array hitems⟩
      | object hmoved hkeys hvalues => exact .some ⟨rfl, .object hmoved hkeys hvalues⟩

theorem definitions_reordered {document other : Members}
    (hreordered : (Value.object document).Reordered (.object other)) :
    (∃ found found', definitions document = .ok found ∧ definitions other = .ok found' ∧
      (Value.object found).Reordered (.object found')) ∨
    ∃ mismatch mismatch', definitions document = .error mismatch ∧
      definitions other = .error mismatch' := by
  have hheld := definitionsOf_reordered hreordered
  unfold definitions
  generalize definitionsOf? document = held at hheld ⊢
  generalize definitionsOf? other = held' at hheld ⊢
  cases hheld with
  | none => exact .inl ⟨[], [], rfl, rfl, .refl _⟩
  | @some member member' hmember =>
    obtain ⟨key, value⟩ := member
    obtain ⟨key', value'⟩ := member'
    obtain ⟨rfl, hvalue⟩ := hmember
    cases hvalue with
    | refl =>
      cases value with
      | object found => exact .inl ⟨found, found, rfl, rfl, .refl _⟩
      | _ => exact .inr ⟨_, _, rfl, rfl⟩
    | array _ => exact .inr ⟨_, _, rfl, rfl⟩
    | @object found _ found' hmoved hkeys hvalues =>
      exact .inl ⟨found, found', rfl, rfl, .object hmoved hkeys hvalues⟩

theorem documentDeclarations_reordered (rootName : String) {document other found found' : Members}
    (hdocument : (Value.object document).Reordered (.object other))
    (hfound : (Value.object found).Reordered (.object found')) :
    Multiset.Rel Declaration.Reordered
      (documentDeclarations rootName document found : Multiset Declaration)
      (documentDeclarations rootName other found' : Multiset Declaration) := by
  have hroot : Visit.Reordered ⟨rootName, .object document⟩ ⟨rootName, .object other⟩ := ⟨rfl, hdocument⟩
  have hvisits : Multiset.Rel Visit.Reordered (documentVisits rootName document found : Multiset Visit)
      (documentVisits rootName other found' : Multiset Visit) := by
    unfold documentVisits
    rw [← Multiset.coe_add, ← Multiset.coe_add, List.map_reverse, List.map_reverse,
      Multiset.coe_eq_coe.2 (List.reverse_perm _),
      Multiset.coe_eq_coe.2 (List.reverse_perm (found'.map _))]
    exact (memberVisits_reordered hfound).add (.cons hroot .zero)
  exact flatMap_rel hvisits fun visit _ other hvisit => declarationsOf_reordered hvisit

theorem namesOf_perm {declarations others : List Declaration}
    (hdeclarations : Multiset.Rel Declaration.Reordered (declarations : Multiset Declaration)
      (others : Multiset Declaration)) :
    (namesOf declarations).Perm (namesOf others) :=
  map_perm_of_rel hdeclarations fun _ _ hreordered => hreordered.name_eq

/-- A strict conversion succeeds exactly if the definitions can be read and all declared names are
distinct, in whatever order they come. -/
theorem convert_strict_ok_iff {options : Options} {document : Members} :
    (∃ text, (convert { options with collisions := .error } (.object document)).1 = .ok text) ↔
      ∃ found, definitions document = .ok found ∧
        (namesOf (documentDeclarations options.rootName document found)).Nodup := by
  constructor
  · rintro ⟨text, hconvert⟩
    obtain ⟨found, root, after, hfound, hrun, _⟩ := exists_emitDocument_of_convert hconvert
    have hdistinct := nodup_of_emitDocument_strict hrun
    rw [declarations_of_emitDocument hrun] at hdistinct
    exact ⟨found, hfound, hdistinct⟩
  · rintro ⟨found, hfound, hdistinct⟩
    have hfresh : Fresh Generator.empty.names
        (declarationsIn (documentScript options.rootName document found)) := by
      rw [declarationsIn_documentScript]
      exact ⟨hdistinct, fun name _ => List.not_mem_nil⟩
    rw [convert_object, hfound]
    simp only [emitDocument_eq_script, runFrom_bind_of_ok (runFrom_fresh .error hfresh)]
    exact ⟨_, rfl⟩

theorem convert_strict_ok_reordered {options : Options} {document other : Members}
    (hreordered : (Value.object document).Reordered (.object other)) :
    (∃ text, (convert { options with collisions := .error } (.object document)).1 = .ok text) ↔
      ∃ text, (convert { options with collisions := .error } (.object other)).1 = .ok text := by
  rw [convert_strict_ok_iff, convert_strict_ok_iff]
  rcases definitions_reordered hreordered with ⟨found, found', hfound, hfound', hdefinitions⟩ |
    ⟨_, _, hfound, hfound'⟩
  · have hnames := namesOf_perm (documentDeclarations_reordered options.rootName hreordered hdefinitions)
    simp only [hfound, hfound', Except.ok.injEq, exists_eq_left', hnames.nodup_iff]
  · simp only [hfound, hfound', reduceCtorEq, false_and, exists_false]

/-- The declarations and the root type that come of a document's emission. -/
def Emits (options : Options) (document : Value) (declarations : List Declaration)
    (root : TypeExpr) : Prop :=
  ∃ members found after, document = .object members ∧ definitions members = .ok found ∧
    runFrom (emitDocument options members found) .empty = (.ok root, after) ∧
      after.declarations = declarations

/-- **The order of members never decides whether a strict conversion succeeds.** Of two documents that
are reorderings of one another the strict policy converts both or neither. If it converts them they have
the same root type and declare the same names, each once, and their declarations can be matched one to
one: a record with a record of the same fields in some order, each with its type and whether it is
required, and a literal with one of as many values, each quoted from a reordering of the value that it is
matched with. -/
theorem strict_acceptance_reordered {options : Options} {document other : Value}
    (hreordered : document.Reordered other) :
    ((∃ text, (convert { options with collisions := .error } document).1 = .ok text) ↔
      ∃ text, (convert { options with collisions := .error } other).1 = .ok text) ∧
    ∀ text text', (convert { options with collisions := .error } document).1 = .ok text →
      (convert { options with collisions := .error } other).1 = .ok text' →
      ∃ root declarations declarations',
        Emits { options with collisions := .error } document declarations root ∧
        Emits { options with collisions := .error } other declarations' root ∧
        text = renderModule options.rootAlias declarations root ∧
          text' = renderModule options.rootAlias declarations' root ∧
        (namesOf declarations).Nodup ∧ (namesOf declarations).Perm (namesOf declarations') ∧
        Multiset.Rel Declaration.Reordered (declarations : Multiset Declaration)
          (declarations' : Multiset Declaration) := by
  constructor
  · cases hreordered with
    | refl => exact Iff.rfl
    | array _ => simp only [convert, reduceCtorEq, exists_false]
    | object hmoved hkeys hvalues => exact convert_strict_ok_reordered (.object hmoved hkeys hvalues)
  · intro text text' hconvert hconvert'
    obtain ⟨members, rfl⟩ := object_of_convert hconvert
    obtain ⟨members', rfl⟩ := object_of_convert hconvert'
    obtain ⟨found, root, after, hfound, hrun, htext⟩ := exists_emitDocument_of_convert hconvert
    obtain ⟨found', root', after', hfound', hrun', htext'⟩ := exists_emitDocument_of_convert hconvert'
    have hroot : root = root' := by
      rw [root_of_emitDocument hrun, root_of_emitDocument hrun']
      exact typeOf_reordered ⟨rfl, hreordered⟩
    have hdefinitions : (Value.object found).Reordered (.object found') := by
      rcases definitions_reordered hreordered with ⟨_, _, hread, hread', hdefinitions⟩ | ⟨_, _, hread, _⟩
      · rw [hfound] at hread
        rw [hfound'] at hread'
        cases hread
        cases hread'
        exact hdefinitions
      · rw [hfound] at hread
        cases hread
    have hdeclarations := documentDeclarations_reordered options.rootName hreordered hdefinitions
    rw [← declarations_of_emitDocument hrun, ← declarations_of_emitDocument hrun'] at hdeclarations
    subst hroot
    exact ⟨root, after.declarations, after'.declarations,
      ⟨members, found, after, rfl, hfound, hrun, rfl⟩,
      ⟨members', found', after', rfl, hfound', hrun', rfl⟩, htext, htext',
      nodup_of_emitDocument_strict hrun, namesOf_perm hdeclarations, hdeclarations⟩

/-- A record with two fields, and the same with its members and its fields turned around. -/
def pairRecord (first second : String × Value) : Value :=
  .object [("type", .string "object"), ("properties", .object [first, second])]

def turnedRecord (first second : String × Value) : Value :=
  .object [("properties", .object [second, first]), ("type", .string "object")]

theorem turnedRecord_reordered {first second : String × Value} (hdistinct : first.1 ≠ second.1) :
    (pairRecord first second).Reordered (turnedRecord first second) := by
  have hkeys : (Json.Members.keys [first, second]).Nodup := by
    simp [Json.Members.keys, hdistinct]
  have hproperties : (Value.object [first, second]).Reordered (.object [second, first]) :=
    .of_perm hkeys (.swap _ _ _)
  exact .object (.of_perm (by simp [Json.Members.keys]) (.swap _ _ _)) rfl
    (.cons hproperties (.cons (.refl _) .nil))

/-- Two fields that declare a name each. -/
def kindField : String × Value := ("kind", .object [("enum", .array [.string "cat"])])

def sizeField : String × Value := ("size", .object [("enum", .array [.string "big", .string "small"])])

theorem turnedRecord_accepted :
    (pairRecord kindField sizeField).Reordered (turnedRecord kindField sizeField) ∧
    ∃ text text', (convert { collisions := .error } (pairRecord kindField sizeField)).1 = .ok text ∧
      (convert { collisions := .error } (turnedRecord kindField sizeField)).1 = .ok text' ∧
      ∃ root declarations declarations',
        Emits { collisions := .error } (pairRecord kindField sizeField) declarations root ∧
        Emits { collisions := .error } (turnedRecord kindField sizeField) declarations' root ∧
        (namesOf declarations).Perm (namesOf declarations') ∧
        Multiset.Rel Declaration.Reordered (declarations : Multiset Declaration)
          (declarations' : Multiset Declaration) := by
  have hreordered : (pairRecord kindField sizeField).Reordered (turnedRecord kindField sizeField) :=
    turnedRecord_reordered (by decide)
  obtain ⟨haccepted, hsame⟩ := @strict_acceptance_reordered {} _ _ hreordered
  obtain ⟨text, hconvert⟩ : ∃ text,
      (convert { collisions := .error } (pairRecord kindField sizeField)).1 = .ok text := ⟨_, rfl⟩
  obtain ⟨text', hconvert'⟩ := haccepted.1 ⟨text, hconvert⟩
  obtain ⟨root, declarations, declarations', hemits, hemits', _, _, _, hnames, hdeclarations⟩ :=
    hsame text text' hconvert hconvert'
  exact ⟨hreordered, text, text', hconvert, hconvert', root, declarations, declarations', hemits,
    hemits', hnames, hdeclarations⟩

end SchemaTyping.Emission
