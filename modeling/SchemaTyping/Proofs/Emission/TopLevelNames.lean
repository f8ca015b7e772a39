import SchemaTyping.Proofs.Emission.PostOrder
import SchemaTyping.Proofs.Text.Case
import SchemaTyping.Proofs.Typing.ModuleText

/-!
# The names that a module binds

A module binds names at three places: the preamble imports some, each declaration binds its own, and the
root may get a name at the end. The strict policy looks at declarations only. So among themselves their
names are distinct, but a declaration may still take a name that is imported or that of the root, and
nothing else can make a module bind a name twice. Two of the imported names have a capital in the middle,
which no declaration's name has.
-/

namespace SchemaTyping.Emission

open Json (Members)
open Text (capitalize capitalize_ne)
open Typing (TypeExpr Declaration RootAlias namesOf preamble renderModule)

/-- What a module imports: from where, and which names. -/
def imports : List (String × List String) :=
  [("typing", ["Any", "TypedDict", "Union", "Literal", "List"]), ("typing_extensions", ["NotRequired"])]

def importLine (imported : String × List String) : String :=
  "from " ++ imported.1 ++ " import " ++ ", ".intercalate imported.2

theorem preamble_eq_imports : preamble = imports.map importLine ++ ["", ""] := by
  decide

theorem importLines_prefix (mode : RootAlias) (declarations : List Declaration) (root : TypeExpr) :
    (imports.map importLine).map String.toList <+:
      (renderModule mode declarations root).toList.splitOn '\n' := by
  have hpreamble : ("\n".intercalate preamble).toList =
      ['\n'].intercalate ((imports.map importLine).map String.toList) ++ '\n' :: ['\n'] := by
    rw [preamble_eq_imports]
    decide
  have hlines : ∀ line ∈ (imports.map importLine).map String.toList, '\n' ∉ line := by decide
  have hsome : (imports.map importLine).map String.toList ≠ [] := by simp [imports]
  rw [Typing.toList_renderModule, hpreamble, List.append_assoc, List.cons_append,
    List.splitOn_append_cons_self, List.splitOn_intercalate '\n' hlines hsome]
  exact List.prefix_append _ _

/-- The names that the preamble binds. -/
def importedNames : List String := imports.flatMap Prod.snd

/-- The name that the root gets at the end of a module, if it gets one. -/
def aliasNames (mode : RootAlias) (root : TypeExpr) : List String :=
  if mode.applies root then ["Root"] else []

/-- The names that a module binds, from its first line to its last. -/
def topLevelNames (mode : RootAlias) (declarations : List Declaration) (root : TypeExpr) : List String :=
  importedNames ++ namesOf declarations ++ aliasNames mode root

theorem mem_aliasNames {mode : RootAlias} {root : TypeExpr} {name : String} :
    name ∈ aliasNames mode root ↔ mode.applies root = true ∧ name = "Root" := by
  unfold aliasNames
  split
  · rename_i happlies
    simp [happlies]
  · rename_i hnone
    simp [hnone]

theorem topLevelNames_nodup_iff {mode : RootAlias} {declarations : List Declaration} {root : TypeExpr}
    (hnames : (namesOf declarations).Nodup) :
    (topLevelNames mode declarations root).Nodup ↔
      (∀ name ∈ importedNames, name ∉ namesOf declarations) ∧
        (mode.applies root = true → "Root" ∉ namesOf declarations) := by
  have himported : importedNames.Nodup := by decide
  have hroot : "Root" ∉ importedNames := by decide
  have halias : (aliasNames mode root).Nodup := by
    unfold aliasNames
    split <;> simp
  unfold topLevelNames
  rw [List.nodup_append, List.nodup_append]
  constructor
  · rintro ⟨⟨_, _, himports⟩, _, hlast⟩
    refine ⟨fun name hname hdeclared => himports name hname name hdeclared rfl,
      fun happlies hdeclared => ?_⟩
    exact hlast "Root" (List.mem_append_right _ hdeclared) "Root" (mem_aliasNames.2 ⟨happlies, rfl⟩) rfl
  · rintro ⟨himports, hlast⟩
    refine ⟨⟨himported, hnames, ?_⟩, halias, ?_⟩
    · rintro name hname _ hdeclared rfl
      exact himports name hname hdeclared
    · rintro name hname _ haliased rfl
      obtain ⟨happlies, rfl⟩ := mem_aliasNames.1 haliased
      rcases List.mem_append.1 hname with hname | hdeclared
      · exact hroot hname
      · exact hlast happlies hdeclared

/-! ### The names of declarations -/

theorem name_of_declaration {visit : Visit} {declaration : Declaration}
    (hdeclaration : visit.declaration? = some declaration) :
    declaration.name = capitalize visit.property := by
  unfold Visit.declaration? at hdeclaration
  split at hdeclaration <;> cases hdeclaration <;> rfl

theorem capitalized_of_mem_document {rootName : String} {document found : Members} {name : String}
    (hname : name ∈ namesOf (documentDeclarations rootName document found)) :
    ∃ property, name = capitalize property := by
  obtain ⟨declaration, hmem, rfl⟩ := List.mem_map.1 hname
  obtain ⟨visit, _, hmem⟩ := List.mem_flatMap.1 hmem
  obtain ⟨other, _, hdeclaration⟩ := List.mem_filterMap.1 hmem
  exact ⟨other.property, name_of_declaration hdeclaration⟩

theorem not_declared_of_capital {rootName : String} {document found : Members} {name : String}
    (hcapital : name.toList.tail.any Char.isUpper = true) :
    name ∉ namesOf (documentDeclarations rootName document found) := by
  intro hdeclared
  obtain ⟨property, rfl⟩ := capitalized_of_mem_document hdeclared
  exact capitalize_ne hcapital property rfl

/-- The imported names that a declaration can take. -/
def takeableImports : List String := ["Any", "Union", "Literal", "List"]

/-- The imported names that have a capital in the middle. -/
def innerCapitalImports : List String := ["TypedDict", "NotRequired"]

theorem innerCapitalImports_not_declared {rootName : String} {document found : Members} :
    ∀ name ∈ innerCapitalImports, name ∉ namesOf (documentDeclarations rootName document found) := by
  have hcapitals : ∀ name ∈ innerCapitalImports, name.toList.tail.any Char.isUpper = true := by decide
  intro name hname
  exact not_declared_of_capital (hcapitals name hname)

theorem imports_not_taken_iff {rootName : String} {document found : Members} :
    (∀ name ∈ importedNames, name ∉ namesOf (documentDeclarations rootName document found)) ↔
      ∀ name ∈ takeableImports, name ∉ namesOf (documentDeclarations rootName document found) := by
  constructor
  · intro hnone name hname
    have hsubset : takeableImports ⊆ importedNames := by decide
    exact hnone name (hsubset hname)
  · intro hnone name hname
    have hcases : importedNames ⊆ takeableImports ++ innerCapitalImports := by decide
    rcases List.mem_append.1 (hcases hname) with htakeable | hcapital
    · exact hnone name htakeable
    · exact innerCapitalImports_not_declared name hcapital

theorem nodup_of_emitDocument_strict {options : Options} {document found : Members} {root : TypeExpr}
    {after : Generator}
    (hrun : runFrom (emitDocument { options with collisions := .error } document found) .empty =
      (.ok root, after)) :
    (namesOf after.declarations).Nodup := by
  rw [declarations_of_emitDocument hrun, ← declarationsIn_documentScript]
  rw [emitDocument_eq_script] at hrun
  exact (fresh_of_script_ok hrun).1

/-- **A strict module binds its names once, but for names that are imported or the root's.** Let a
document be converted under the strict policy. The text starts with the lines of the imports. The names
of its declarations are distinct, and none is `TypedDict` or `NotRequired`. All names that the module
binds, those of the imports and of the root included, are distinct exactly if no declaration is called
`Any`, `Union`, `Literal` or `List`, and none is called `Root` in a module that gives its root that
name. -/
theorem strict_topLevelNames_nodup_iff {options : Options} {document : Members} {text : String}
    (hconvert : (convert { options with collisions := .error } (.object document)).1 = .ok text) :
    ∃ found root after, definitions document = .ok found ∧
      runFrom (emitDocument { options with collisions := .error } document found) .empty =
        (.ok root, after) ∧
      text = renderModule options.rootAlias after.declarations root ∧
      (imports.map importLine).map String.toList <+: text.toList.splitOn '\n' ∧
      (namesOf after.declarations).Nodup ∧
      (∀ name ∈ ["TypedDict", "NotRequired"], name ∉ namesOf after.declarations) ∧
      ((topLevelNames options.rootAlias after.declarations root).Nodup ↔
        (∀ name ∈ ["Any", "Union", "Literal", "List"], name ∉ namesOf after.declarations) ∧
          (options.rootAlias.applies root = true → "Root" ∉ namesOf after.declarations)) := by
  obtain ⟨found, root, after, hfound, hrun, htext⟩ := exists_emitDocument_of_convert hconvert
  have hnames := nodup_of_emitDocument_strict hrun
  refine ⟨found, root, after, hfound, hrun, htext, ?_, hnames, ?_, ?_⟩
  · rw [htext]
    exact importLines_prefix ..
  · rw [declarations_of_emitDocument hrun]
    exact innerCapitalImports_not_declared
  · rw [topLevelNames_nodup_iff hnames, declarations_of_emitDocument hrun, imports_not_taken_iff]
    exact Iff.rfl

/-- A list of records, to be declared under a name of its own. -/
def recordList : Members := [("type", .string "array"), ("items", .object [("type", .string "object")])]

theorem ownerList_topLevelNames :
    ∃ text root after,
      (convert { rootName := "owners", collisions := .error } (.object recordList)).1 = .ok text ∧
      runFrom (emitDocument { rootName := "owners", collisions := .error } recordList []) .empty =
        (.ok root, after) ∧
      namesOf after.declarations = ["Owners"] ∧ aliasNames .bracket root = ["Root"] ∧
      (topLevelNames .bracket after.declarations root).Nodup := by
  have hdeclared : namesOf
      (runFrom (emitDocument { rootName := "owners", collisions := .error } recordList [])
        .empty).2.declarations =
        ["Owners"] := by
    decide
  have htype :
      (runFrom (emitDocument { rootName := "owners", collisions := .error } recordList []) .empty).1 =
      .ok (.list (.declared "Owners")) := by
    rfl
  obtain ⟨text, hconvert⟩ :
      ∃ text, (convert { rootName := "owners", collisions := .error } (.object recordList)).1 =
        .ok text := ⟨_, rfl⟩
  obtain ⟨found, root, after, hfound, hrun, _, _, _, _, hdistinct⟩ :=
    @strict_topLevelNames_nodup_iff { rootName := "owners" } recordList text hconvert
  obtain rfl : [] = found := Except.ok.inj hfound
  rw [hrun] at hdeclared htype
  cases htype
  refine ⟨text, _, after, hconvert, hrun, hdeclared, by decide, hdistinct.2 ?_⟩
  rw [hdeclared]
  decide

/-- A definition under the name of an import. -/
def anyDefinitions : Members := [("Any", .object [("enum", .array [.string "x"])])]

def anyDocument : Members := [("definitions", .object anyDefinitions), ("type", .string "object")]

theorem strict_module_binds_twice :
    (∃ root after,
      runFrom (emitDocument { collisions := .error } anyDocument anyDefinitions) .empty =
      (.ok root, after) ∧
      (convert { collisions := .error } (.object anyDocument)).1 =
        .ok (renderModule .bracket after.declarations root) ∧
      topLevelNames .bracket after.declarations root = importedNames ++ ["Any", "Root"] ∧
      ¬ (topLevelNames .bracket after.declarations root).Nodup) ∧
    (∃ root after,
      runFrom (emitDocument { collisions := .error } recordList []) .empty = (.ok root, after) ∧
      (convert { collisions := .error } (.object recordList)).1 =
        .ok (renderModule .bracket after.declarations root) ∧
      topLevelNames .bracket after.declarations root = importedNames ++ ["Root", "Root"] ∧
      ¬ (topLevelNames .bracket after.declarations root).Nodup) := by
  exact ⟨⟨_, _, rfl, rfl, by decide, by decide⟩, ⟨_, _, rfl, rfl, by decide, by decide⟩⟩

end SchemaTyping.Emission
