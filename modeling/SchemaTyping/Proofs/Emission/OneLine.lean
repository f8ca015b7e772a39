import SchemaTyping.Proofs.Emission.Resolution
import SchemaTyping.Proofs.Typing.LiteralText
import SchemaTyping.Proofs.Typing.ModuleText

/-!
# Schema data stays on its lines

A declaration is printed line by line, and what a schema puts into a line are names, references and
literal values. Names and references come out on one line if they went in so, and a literal value does
unless it is a string that ends a line. So only the line of such a value can be broken, and a module
without one splits at its line ends into the lines that were printed (`lines_broken_only_by_strings`).
-/

namespace SchemaTyping.Typing

open Text (breaks OneLine oneLine_nil oneLine_append intercalate_append)

/-! ### Lines of declarations -/

theorem TypeExpr.oneLine_chars {type : TypeExpr} (hnames : ∀ name ∈ type.names, OneLine name.toList) :
    OneLine type.chars := by
  have hspelling : OneLine typeSpelling := by decide
  intro c hc
  rcases mem_chars hc with hc | ⟨name, hname, hc⟩
  · exact hspelling c hc
  · exact hnames name hname c hc

theorem Field.oneLine_line {field : Field} (hname : OneLine field.name.toList)
    (htype : OneLine field.type.chars) :
    OneLine field.line.toList := by
  have hchars : OneLine field.typeChars := by
    unfold Field.typeChars
    split <;> simp [htype, breaks]
  rw [Field.toList_line]
  simp [hname, hchars, breaks]

/-- A declaration of which all names are on one line, those in types as well. -/
def Declaration.NamedOnOneLine (declaration : Declaration) : Prop :=
  OneLine declaration.name.toList ∧
    match declaration.body with
    | .literal _ => True
    | .record fields => ∀ field ∈ fields, OneLine field.name.toList ∧ OneLine field.type.chars

def Declaration.literals (declaration : Declaration) : List String :=
  match declaration.body with
  | .literal values => values
  | .record _ => []

def literalLine (literal : String) : String := "    " ++ literal ++ ","

/-- Where names are on one line, only the line of a literal value can be broken, by what is in the
value. -/
theorem Declaration.NamedOnOneLine.line {declaration : Declaration} (hnamed : declaration.NamedOnOneLine)
    {line : String} (hline : line ∈ declaration.lines) :
    OneLine line.toList ∨ ∃ literal ∈ declaration.literals, line = literalLine literal ∧
      ¬ OneLine literal.toList := by
  obtain ⟨name, body⟩ := declaration
  obtain ⟨hname, hbody⟩ := hnamed
  change OneLine name.toList at hname
  cases body with
  | literal values =>
    simp only [Declaration.lines, List.cons_append, List.mem_cons, List.mem_append, List.mem_map,
      List.not_mem_nil, or_false] at hline
    rcases hline with rfl | ⟨value, hvalue, rfl⟩ | rfl
    · exact .inl (by simp [hname, breaks])
    · by_cases hbroken : OneLine value.toList
      · exact .inl (by simp [hbroken, breaks])
      · exact .inr ⟨value, hvalue, rfl, hbroken⟩
    · exact .inl (by decide)
  | record fields =>
    refine .inl ?_
    rcases List.mem_cons.1 hline with rfl | hline
    · simp [hname, breaks]
    · cases fields with
      | nil =>
        obtain rfl := List.mem_singleton.1 hline
        decide
      | cons field fields =>
        obtain ⟨field, hfield, rfl⟩ := List.mem_map.1 hline
        exact Field.oneLine_line (hbody field hfield).1 (hbody field hfield).2

/-! ### Lines of modules -/

/-- The lines of a module: those of the preamble, those of each declaration behind an empty one, and the
name for the root behind an empty one, where there is one. -/
def moduleLines (mode : RootAlias) (declarations : List Declaration) (root : TypeExpr) : List String :=
  preamble ++ (declarations.flatMap fun declaration => "" :: declaration.lines) ++
    if mode.applies root then ["", "Root = " ++ root.render] else []

theorem toList_renderModule_eq_intercalate (mode : RootAlias) (declarations : List Declaration)
    (root : TypeExpr) :
    (renderModule mode declarations root).toList =
      ['\n'].intercalate ((moduleLines mode declarations root).map String.toList) := by
  have hpreamble : ("\n".intercalate preamble).toList =
      ['\n'].intercalate (preamble.map String.toList) := by
    rw [String.toList_intercalate]
    rfl
  have hblocks : ((moduleBlocks mode declarations root).flatMap fun block => [] :: block) =
      ((declarations.flatMap fun declaration => "" :: declaration.lines) ++
        if mode.applies root then ["", "Root = " ++ root.render] else []).map String.toList := by
    have halias : (aliasBlocks mode root).flatMap (fun block => [] :: block) =
        (if mode.applies root then ["", "Root = " ++ root.render] else []).map String.toList := by
      unfold aliasBlocks TypeExpr.render
      split <;> simp
    rw [moduleBlocks, List.flatMap_append, halias, List.map_append, List.flatMap_map, List.map_flatMap]
    rfl
  have hfirst : preamble.map String.toList ≠ [] := by simp [preamble]
  rw [toList_renderModule, hpreamble, hblocks, moduleLines, List.append_assoc]
  generalize (declarations.flatMap fun declaration => "" :: declaration.lines) ++ _ = lines
  rw [List.map_append, intercalate_append hfirst]
  rfl

theorem splitOn_renderModule {mode : RootAlias} {declarations : List Declaration} {root : TypeExpr}
    (hdeclarations : ∀ declaration ∈ declarations, ∀ line ∈ declaration.lines, OneLine line.toList)
    (hroot : OneLine root.chars) :
    (renderModule mode declarations root).toList.splitOn '\n' =
      (moduleLines mode declarations root).map String.toList := by
  have hlines : ∀ line ∈ moduleLines mode declarations root, OneLine line.toList := by
    have hpreamble : ∀ line ∈ preamble, OneLine line.toList := by decide
    have halias : ∀ line ∈ if mode.applies root then ["", "Root = " ++ root.render]
        else [], OneLine line.toList := by
      split
      · simp [TypeExpr.render, hroot, breaks]
      · exact List.forall_mem_nil _
    have hempty : OneLine "".toList := oneLine_nil
    intro line hline
    rcases List.mem_append.1 hline with hline | hline
    · rcases List.mem_append.1 hline with hline | hline
      · exact hpreamble line hline
      · obtain ⟨declaration, hdeclaration, hline⟩ := List.mem_flatMap.1 hline
        rcases List.mem_cons.1 hline with rfl | hline
        · exact hempty
        · exact hdeclarations declaration hdeclaration line hline
    · exact halias line hline
  rw [toList_renderModule_eq_intercalate]
  refine List.splitOn_intercalate '\n' ?_ (by simp [moduleLines, preamble])
  intro line hline
  obtain ⟨text, htext, rfl⟩ := List.mem_map.1 hline
  exact (hlines text htext).newline_not_mem

end SchemaTyping.Typing

namespace SchemaTyping.Emission

open Json (Value Members)
open Schema (classify)
open Text (capitalize breaks OneLine oneLine_capitalize)
open Typing (TypeExpr Declaration quoteLiteral literalChars literalLine IsLiteralOf BrokenString moduleLines renderModule
  isLiteralOf_quoteLiteral oneLine_literalChars_iff oneLine_quoteLiteral_iff splitOn_renderModule)

/-! ### What a schema writes -/

/-- The schemas that converting a document visits. -/
def VisitedIn (rootName : String) (document found : Members) (visit : Visit) : Prop :=
  ∃ start ∈ documentVisits rootName document found, Relation.ReflTransGen Visit.Above start visit

/-- The values that a document enumerates. -/
def EnumeratedIn (rootName : String) (document found : Members) (value : Value) : Prop :=
  ∃ visit values, VisitedIn rootName document found visit ∧ classify visit.value = .enum values ∧
    value ∈ values

/-- Documents in which no name and no reference has a character that ends a line. -/
structure NamedOnOneLine (rootName : String) (document found : Members) : Prop where
  root : OneLine rootName.toList
  definitions : ∀ definition ∈ found, OneLine definition.1.toList
  properties : ∀ visit, VisitedIn rootName document found visit → ∀ properties required,
    classify visit.value = .object (some properties) required → ∀ property ∈ properties,
    OneLine property.1.toList
  references : ∀ visit, VisitedIn rootName document found visit → ∀ pointer,
    classify visit.value = .reference pointer → OneLine pointer.toList

theorem Visit.property_of_above {visit child : Visit} (habove : visit.Above child) :
    child.property = visit.property ∨ ∃ properties required,
      classify visit.value = .object (some properties) required ∧
      ⟨child.property, child.value⟩ ∈ properties := by
  unfold Visit.Above Visit.children at habove
  cases hshape : classify visit.value with
  | object properties required =>
    simp only [hshape] at habove
    cases properties with
    | none => cases habove
    | some properties =>
      obtain ⟨member, hmember, rfl⟩ := List.mem_map.1 habove
      exact .inr ⟨properties, required, rfl, hmember⟩
  | array item? =>
    cases item? with
    | none => simp [hshape] at habove
    | some item =>
      simp only [hshape, List.mem_singleton] at habove
      rw [habove]
      exact .inl rfl
  | anyOf alternatives =>
    simp only [hshape, List.mem_map] at habove
    obtain ⟨alternative, _, rfl⟩ := habove
    exact .inl rfl
  | _ => simp [hshape] at habove

section

variable {rootName : String} {document found : Members} {visit : Visit}

theorem VisitedIn.below {other : Visit} (hvisited : VisitedIn rootName document found visit)
    (hbelow : Relation.ReflTransGen Visit.Above visit other) :
    VisitedIn rootName document found other := by
  obtain ⟨start, hstart, hreached⟩ := hvisited
  exact ⟨start, hstart, hreached.trans hbelow⟩

theorem NamedOnOneLine.property (hnamed : NamedOnOneLine rootName document found)
    (hvisited : VisitedIn rootName document found visit) : OneLine visit.property.toList := by
  obtain ⟨start, hstart, hreached⟩ := hvisited
  induction hreached with
  | refl =>
    rcases List.mem_append.1 hstart with hstart | hstart
    · obtain ⟨definition, hdefinition, rfl⟩ := List.mem_map.1 hstart
      exact hnamed.definitions definition (List.mem_reverse.1 hdefinition)
    · obtain rfl := List.mem_singleton.1 hstart
      exact hnamed.root
  | @tail parent child hparent habove ih =>
    rcases Visit.property_of_above habove with hsame | ⟨properties, required, hshape, hmember⟩
    · rw [hsame]
      exact ih
    · exact hnamed.properties parent ⟨start, hstart, hparent⟩ properties required hshape _ hmember

theorem referenceName_subset (pointer : String) : (referenceName pointer).toList ⊆ pointer.toList := by
  intro c hc
  rw [referenceName, String.toList_ofList, afterLastSlash, List.mem_reverse] at hc
  exact List.mem_reverse.1 ((List.takeWhile_sublist _).subset hc)

/-- A name in the type of a schema is written by the schema or by one below it: its property,
capitalised, or the end of its reference. -/
theorem exists_writer_of_mem_names {name : String} (hname : name ∈ (typeOf visit).names) :
    ∃ other, Relation.ReflTransGen Visit.Above visit other ∧
      (name = capitalize other.property ∨ ∃ pointer, classify other.value = .reference pointer ∧
        name = referenceName pointer) := by
  induction visit using Visit.induction with
  | step visit ih =>
    have hbelow : ∀ child ∈ visit.children, name ∈ (typeOf child).names →
        ∃ other, Relation.ReflTransGen Visit.Above visit other ∧
        (name = capitalize other.property ∨ ∃ pointer, classify other.value = .reference pointer ∧
          name = referenceName pointer) := by
      intro child hchild hname
      obtain ⟨other, hreached, hwritten⟩ := ih child hchild hname
      exact ⟨other, hreached.head hchild, hwritten⟩
    rw [typeOf_eq] at hname
    cases hshape : classify visit.value with
    | enum values =>
      rw [hshape] at hname
      exact ⟨visit, .refl, .inl (List.mem_singleton.1 hname)⟩
    | object properties required =>
      rw [hshape] at hname
      exact ⟨visit, .refl, .inl (List.mem_singleton.1 hname)⟩
    | reference pointer =>
      rw [hshape] at hname
      exact ⟨visit, .refl, .inr ⟨pointer, hshape, List.mem_singleton.1 hname⟩⟩
    | array item? =>
      rw [hshape] at hname
      cases item? with
      | none => cases hname
      | some item => exact hbelow _ (Visit.item_mem_children hshape) hname
    | anyOf alternatives =>
      rw [hshape] at hname
      obtain ⟨arm, harm, hname⟩ := TypeExpr.mem_names_union.1 hname
      obtain ⟨alternative, hmem, rfl⟩ := List.mem_map.1 harm
      exact hbelow _ (Visit.alternative_mem_children hshape hmem) hname
    | types names =>
      rw [hshape] at hname
      obtain ⟨arm, harm, hname⟩ := TypeExpr.mem_names_union.1 hname
      obtain ⟨entry, _, rfl⟩ := List.mem_map.1 harm
      unfold entryMeaning at hname
      split at hname <;> cases hname
    | _ =>
      rw [hshape] at hname
      cases hname

theorem NamedOnOneLine.type (hnamed : NamedOnOneLine rootName document found)
    (hvisited : VisitedIn rootName document found visit) : OneLine (typeOf visit).chars := by
  refine TypeExpr.oneLine_chars fun name hname => ?_
  obtain ⟨other, hbelow, rfl | ⟨pointer, hshape, rfl⟩⟩ := exists_writer_of_mem_names hname
  · exact oneLine_capitalize (hnamed.property (hvisited.below hbelow))
  · exact (hnamed.references other (hvisited.below hbelow) pointer hshape).of_subset
      (referenceName_subset pointer)

theorem NamedOnOneLine.declaration (hnamed : NamedOnOneLine rootName document found)
    (hvisited : VisitedIn rootName document found visit) {declaration : Declaration}
    (hdeclaration : visit.declaration? = some declaration) : declaration.NamedOnOneLine := by
  have hname : OneLine (capitalize visit.property).toList :=
    oneLine_capitalize (hnamed.property hvisited)
  unfold Visit.declaration? at hdeclaration
  split at hdeclaration
  · cases hdeclaration
    exact ⟨hname, trivial⟩
  · cases hdeclaration
    refine ⟨hname, fun field hfield => ?_⟩
    obtain ⟨child, hchild, rfl⟩ := List.mem_map.1 hfield
    have hbelow : VisitedIn rootName document found child := hvisited.below (.single hchild)
    exact ⟨hnamed.property hbelow, hnamed.type hbelow⟩
  · cases hdeclaration

/-- The literal values of a schema's declaration are values that the schema enumerates, quoted. -/
theorem exists_enumerated_of_literal (hvisited : VisitedIn rootName document found visit)
    {declaration : Declaration} (hdeclaration : visit.declaration? = some declaration) {literal : String}
    (hliteral : literal ∈ declaration.literals) :
    ∃ value, EnumeratedIn rootName document found value ∧ literal = quoteLiteral value := by
  unfold Visit.declaration? at hdeclaration
  split at hdeclaration
  · rename_i values hshape
    cases hdeclaration
    obtain ⟨value, hvalue, rfl⟩ := List.mem_map.1 hliteral
    exact ⟨value, ⟨visit, values, hvisited, hshape, hvalue⟩, rfl⟩
  · cases hdeclaration
    cases hliteral
  · cases hdeclaration

theorem exists_visit_of_declaration {declaration : Declaration}
    (hmem : declaration ∈ documentDeclarations rootName document found) :
    ∃ visit, VisitedIn rootName document found visit ∧ visit.declaration? = some declaration := by
  obtain ⟨start, hstart, hmem⟩ := List.mem_flatMap.1 hmem
  obtain ⟨visit, hvisit, hdeclaration⟩ := List.mem_filterMap.1 hmem
  exact ⟨visit, ⟨start, hstart, mem_walk_iff.1 hvisit⟩, hdeclaration⟩

end

/-- **Only a string that ends a line can break one.** Let a document be converted in which no property,
no definition, no reference and not the name of the root has a character that ends a line. A literal in a
declaration is an enumerated value, quoted; it is a Python literal of the value's text on one line,
unless the value is itself a string with such a character. A line of a declaration has no such character
unless it is the line of such a value. If no enumerated value is such a string, all lines of declarations
are on one line, and the module splits at its line ends into the lines of the preamble, of the
declarations and of the root's name, each block behind an empty line. -/
theorem lines_broken_only_by_strings {options : Options} {document found : Members} {text : String}
    (hconvert : (convert options (.object document)).1 = .ok text)
    (hfound : definitions document = .ok found)
    (hnamed : NamedOnOneLine options.rootName document found) :
    ∃ root after, runFrom (emitDocument options document found) .empty = (.ok root, after) ∧
      text = renderModule options.rootAlias after.declarations root ∧
      (∀ declaration ∈ after.declarations, ∀ literal ∈ declaration.literals, ∃ value,
        EnumeratedIn options.rootName document found value ∧ literal = quoteLiteral value ∧
          (¬ BrokenString value → IsLiteralOf literal.toList (literalChars value))) ∧
      (∀ declaration ∈ after.declarations, ∀ line ∈ declaration.lines, ¬ OneLine line.toList → ∃ value,
        EnumeratedIn options.rootName document found value ∧ BrokenString value ∧
        line = literalLine (quoteLiteral value)) ∧
      ((∀ value, EnumeratedIn options.rootName document found value → ¬ BrokenString value) →
        (∀ declaration ∈ after.declarations, ∀ line ∈ declaration.lines, OneLine line.toList) ∧
        text.toList.splitOn '\n' =
          (moduleLines options.rootAlias after.declarations root).map String.toList) := by
  obtain ⟨found', root, after, hfound', hrun, htext⟩ := exists_emitDocument_of_convert hconvert
  obtain rfl : found' = found := Except.ok.inj (hfound'.symm.trans hfound)
  have hdeclared : ∀ declaration ∈ after.declarations,
      ∃ visit, VisitedIn options.rootName document found' visit ∧
        visit.declaration? = some declaration := by
    rw [declarations_of_emitDocument hrun]
    exact fun declaration => exists_visit_of_declaration
  have hliterals : ∀ declaration ∈ after.declarations, ∀ literal ∈ declaration.literals, ∃ value,
      EnumeratedIn options.rootName document found' value ∧ literal = quoteLiteral value := by
    intro declaration hdeclaration literal hliteral
    obtain ⟨visit, hvisited, hvisit⟩ := hdeclared declaration hdeclaration
    exact exists_enumerated_of_literal hvisited hvisit hliteral
  have hlines : ∀ declaration ∈ after.declarations, ∀ line ∈ declaration.lines, ¬ OneLine line.toList →
      ∃ value,
      EnumeratedIn options.rootName document found' value ∧ BrokenString value ∧
        line = literalLine (quoteLiteral value) := by
    intro declaration hdeclaration line hline hbroken
    obtain ⟨visit, hvisited, hvisit⟩ := hdeclared declaration hdeclaration
    obtain ⟨literal, hliteral, rfl, hliteralBroken⟩ :=
      ((hnamed.declaration hvisited hvisit).line hline).resolve_left hbroken
    obtain ⟨value, henumerated, rfl⟩ := hliterals declaration hdeclaration literal hliteral
    exact ⟨value, henumerated, by rwa [oneLine_quoteLiteral_iff, not_not] at hliteralBroken, rfl⟩
  refine ⟨root, after, hrun, htext, fun declaration hdeclaration literal hliteral => ?_, hlines,
    fun hwhole => ?_⟩
  · obtain ⟨value, henumerated, rfl⟩ := hliterals declaration hdeclaration literal hliteral
    exact ⟨value, henumerated, rfl,
      fun hwhole => isLiteralOf_quoteLiteral (oneLine_literalChars_iff.2 hwhole)⟩
  · have hall : ∀ declaration ∈ after.declarations, ∀ line ∈ declaration.lines, OneLine line.toList := by
      intro declaration hdeclaration line hline
      by_contra hbroken
      obtain ⟨value, henumerated, hstring, _⟩ := hlines declaration hdeclaration line hline hbroken
      exact hwhole value henumerated hstring
    have hroot : VisitedIn options.rootName document found' ⟨options.rootName, .object document⟩ :=
      ⟨_, List.mem_append_right _ (List.mem_singleton_self _), .refl⟩
    refine ⟨hall, ?_⟩
    rw [htext, root_of_emitDocument hrun]
    exact splitOn_renderModule hall (hnamed.type hroot)

/-- An enumeration of a string with quotes and of a list with a string that ends a line. -/
def moodEnumeration : Value := .object [("enum", .array [.string "say \"hi\"", .array [.string "a\nb"]])]

/-- A record with the enumeration and a reference. -/
def moodDocument : Members :=
  [("type", .string "object"),
    ("properties",
      .object [("mood", moodEnumeration), ("pet", .object [("$ref", .string "#/definitions/Pet")])])]

theorem moodDocument_visits {visit : Visit} (hvisited : VisitedIn "root" moodDocument [] visit) :
    visit ∈ [⟨"mood", moodEnumeration⟩, ⟨"pet", .object [("$ref", .string "#/definitions/Pet")]⟩,
      ⟨"root", .object moodDocument⟩] := by
  obtain ⟨start, hstart, hreached⟩ := hvisited
  obtain rfl := List.mem_singleton.1 hstart
  have hroot : (⟨"root", .object moodDocument⟩ : Visit).children =
      [⟨"mood", moodEnumeration⟩, ⟨"pet", .object [("$ref", .string "#/definitions/Pet")]⟩] := rfl
  have hmood : (⟨"mood", moodEnumeration⟩ : Visit).children = [] := rfl
  have hpet : (⟨"pet", .object [("$ref", .string "#/definitions/Pet")]⟩ : Visit).children = [] := rfl
  have hwalk := mem_walk_iff.2 hreached
  rw [walk_eq, hroot] at hwalk
  simpa only [List.flatMap_cons, List.flatMap_nil, walk_eq, hmood, hpet, List.nil_append,
    List.append_nil, List.cons_append] using hwalk

theorem moodDocument_named : NamedOnOneLine "root" moodDocument [] where
  root := by decide
  definitions := List.forall_mem_nil _
  properties := by
    intro visit hvisited properties required hshape
    have hvisits := moodDocument_visits hvisited
    simp only [List.mem_cons, List.not_mem_nil, or_false] at hvisits
    rcases hvisits with rfl | rfl | rfl
    · cases hshape
    · cases hshape
    · cases hshape
      decide
  references := by
    intro visit hvisited pointer hshape
    have hvisits := moodDocument_visits hvisited
    simp only [List.mem_cons, List.not_mem_nil, or_false] at hvisits
    rcases hvisits with rfl | rfl | rfl
    · cases hshape
    · cases hshape
      decide
    · cases hshape

theorem moodDocument_enumerated {value : Value}
    (henumerated : EnumeratedIn "root" moodDocument [] value) : ¬ BrokenString value := by
  obtain ⟨visit, values, hvisited, hshape, hvalue⟩ := henumerated
  have hvisits := moodDocument_visits hvisited
  simp only [List.mem_cons, List.not_mem_nil, or_false] at hvisits
  rcases hvisits with rfl | rfl | rfl
  · cases hshape
    simp only [List.mem_cons, List.not_mem_nil, or_false] at hvalue
    rcases hvalue with rfl | rfl
    · rintro ⟨text, htext, hbroken⟩
      cases htext
      exact hbroken (by decide)
    · rintro ⟨text, htext, _⟩
      cases htext
  · cases hshape
  · cases hshape

theorem moodDocument_lines :
    ∃ text, (convert {} (.object moodDocument)).1 = .ok text ∧
      (∀ value, EnumeratedIn "root" moodDocument [] value → ¬ BrokenString value) ∧
      text.toList.splitOn '\n' = (Typing.preamble ++
        ["", "Mood = Literal[", "    \"say \\\"hi\\\"\",", "    \"[\\\"a\\\\nb\\\"]\",", "]",
          "", "class Root(TypedDict):", "    mood: NotRequired[Mood]", "    pet: NotRequired[Pet]"]).map
            String.toList := by
  obtain ⟨text, hconvert⟩ : ∃ text, (convert {} (.object moodDocument)).1 = .ok text := ⟨_, rfl⟩
  obtain ⟨root, after, hrun, _, _, _, hwhole⟩ :=
    lines_broken_only_by_strings hconvert rfl moodDocument_named
  have hafter : runFrom (emitDocument {} moodDocument []) .empty = (.ok (.declared "Root"),
      (runFrom (emitDocument {} moodDocument []) .empty).2) := rfl
  obtain ⟨hroot, hdeclarations⟩ := Prod.mk.inj (hrun.symm.trans hafter)
  cases hroot
  refine ⟨text, hconvert, fun value => moodDocument_enumerated, ?_⟩
  rw [(hwhole fun value => moodDocument_enumerated).2, hdeclarations]
  decide

/-- An enumeration of a string that ends a line. -/
def brokenDocument : Members := [("enum", .array [.string "a\nb"])]

theorem brokenDocument_visit {visit : Visit} (hvisited : VisitedIn "root" brokenDocument [] visit) :
    visit = ⟨"root", .object brokenDocument⟩ := by
  obtain ⟨start, hstart, hreached⟩ := hvisited
  obtain rfl := List.mem_singleton.1 hstart
  rcases hreached.cases_head with hself | ⟨child, hchild, _⟩
  · exact hself.symm
  · cases hchild

theorem brokenDocument_named : NamedOnOneLine "root" brokenDocument [] where
  root := by decide
  definitions := List.forall_mem_nil _
  properties := by
    intro visit hvisited properties required hshape
    obtain rfl := brokenDocument_visit hvisited
    cases hshape
  references := by
    intro visit hvisited pointer hshape
    obtain rfl := brokenDocument_visit hvisited
    cases hshape

/-- A string that ends a line ends the line that it is written on, between its quotes. -/
theorem string_breaks_line :
    NamedOnOneLine "root" brokenDocument [] ∧ definitions brokenDocument = .ok [] ∧
      ∃ root after, runFrom (emitDocument {} brokenDocument []) .empty = (.ok root, after) ∧
        (convert {} (.object brokenDocument)).1 = .ok (renderModule .bracket after.declarations root) ∧
        (∃ declaration ∈ after.declarations, ∃ line ∈ declaration.lines, ¬ OneLine line.toList) ∧
        (∃ declaration ∈ after.declarations, ∃ literal ∈ declaration.literals, ∀ text,
          ¬ IsLiteralOf literal.toList text) ∧
        (renderModule .bracket after.declarations root).toList.splitOn '\n' ≠
          (moduleLines .bracket after.declarations root).map String.toList := by
  refine ⟨brokenDocument_named, rfl, _, _, rfl, rfl, ?_, ?_, ?_⟩
  · decide
  · refine ⟨_, List.mem_singleton_self _, _, List.mem_singleton_self _, fun text hliteral => ?_⟩
    exact absurd hliteral.oneLine (by decide)
  · decide +kernel

end SchemaTyping.Emission
