import SchemaTyping.Proofs.Typing.DeclarationText

/-!
# The text of a module can be read back

A module is printed line by line, with an empty line in front of each declaration and of the name for the
root. No other line is empty, so the blocks can be told from one another, and a declaration has more
lines than the name for the root. So modules with the same text declare the same, in the same order
(`renderModule_eq_iff`), but for whether a name in a type is a declared one.
-/

namespace SchemaTyping.Typing

open Text (isAlphanumeric startsWith_nil startsWith_cons StartsWith word_append_inj flatMap_cons_inj intercalate_cons map_eq_of_map_eq)

/-! ### Blocks -/

/-- The lines of a declaration. -/
def Declaration.block (declaration : Declaration) : List (List Char) :=
  declaration.lines.map String.toList

theorem Declaration.length_block (declaration : Declaration) : 1 < declaration.block.length := by
  obtain ⟨name, body⟩ := declaration
  cases body with
  | literal values => simp [Declaration.block, Declaration.lines]
  | record fields => cases fields <;> simp [Declaration.block, Declaration.lines]

/-- The line that names the root, where there is one. -/
def aliasBlocks (mode : RootAlias) (root : TypeExpr) : List (List (List Char)) :=
  if mode.applies root then [["Root = ".toList ++ root.chars]] else []

/-- The blocks of a module behind its preamble. -/
def moduleBlocks (mode : RootAlias) (declarations : List Declaration) (root : TypeExpr) :
    List (List (List Char)) :=
  declarations.map Declaration.block ++ aliasBlocks mode root

/-! ### The text of blocks

Each block has an empty line in front of it, and each line a break. -/

theorem flatMap_block {block : List (List Char)} (hblock : block ≠ []) :
    (([] :: block).flatMap fun line => '\n' :: line) = '\n' :: '\n' :: ['\n'].intercalate block := by
  cases block with
  | nil => exact absurd rfl hblock
  | cons line lines => rw [intercalate_cons, List.flatMap_cons, List.flatMap_cons]; rfl

theorem Declaration.toList_render (declaration : Declaration) :
    declaration.render.toList = ['\n'].intercalate declaration.block := by
  unfold Declaration.render Declaration.block
  rw [String.toList_intercalate]
  rfl

theorem Declaration.block_ne_nil (declaration : Declaration) : declaration.block ≠ [] :=
  List.ne_nil_of_length_pos (Nat.lt_trans Nat.zero_lt_one declaration.length_block)

theorem toList_renderModule (mode : RootAlias) (declarations : List Declaration) (root : TypeExpr) :
    (renderModule mode declarations root).toList =
      ("\n".intercalate preamble).toList ++
        ((moduleBlocks mode declarations root).flatMap fun block => [] :: block).flatMap fun line =>
          '\n' :: line := by
  have hdeclarations : ((declarations.map Declaration.render).map String.toList).flatMap
      (fun text => "\n\n".toList ++ text) =
      ((declarations.map Declaration.block).flatMap fun block => [] :: block).flatMap fun line =>
        '\n' :: line := by
    rw [List.map_map, List.flatMap_map, List.flatMap_assoc, List.flatMap_map]
    apply List.flatMap_congr
    intro declaration _
    rw [flatMap_block declaration.block_ne_nil, ← declaration.toList_render]
    rfl
  have halias : (if mode.applies root then "\n\nRoot = " ++ root.render else "").toList =
      ((aliasBlocks mode root).flatMap fun block => [] :: block).flatMap fun line => '\n' :: line := by
    unfold aliasBlocks TypeExpr.render
    split <;> simp
  unfold renderModule moduleBlocks
  rw [String.toList_append, String.toList_intercalate, List.map_cons, intercalate_cons,
    hdeclarations, halias, List.flatMap_append, List.flatMap_append, List.append_assoc]

/-! ### Reading blocks back -/

theorem TypeExpr.Worded.isLine {root : TypeExpr} (hroot : root.Worded) :
    IsLine ("Root = ".toList ++ root.chars) := by
  simp [IsLine, hroot.one_line]

section

variable {mode : RootAlias} {declarations others : List Declaration} {root root' : TypeExpr}

theorem isLine_of_mem_moduleBlocks (hdeclarations : ∀ declaration ∈ declarations, declaration.Worded)
    (hroot : root.Worded) :
    ∀ block ∈ moduleBlocks mode declarations root, ∀ line ∈ block, IsLine line := by
  intro block hblock line hline
  rcases List.mem_append.1 hblock with hblock | hblock
  · obtain ⟨declaration, hdeclaration, rfl⟩ := List.mem_map.1 hblock
    obtain ⟨text, htext, rfl⟩ := List.mem_map.1 hline
    exact (hdeclarations declaration hdeclaration).isLine text htext
  · unfold aliasBlocks at hblock
    split at hblock
    · obtain rfl := List.mem_singleton.1 hblock
      obtain rfl := List.mem_singleton.1 hline
      exact hroot.isLine
    · cases hblock

theorem moduleBlocks_eq_of_renderModule
    (hdeclarations : ∀ declaration ∈ declarations, declaration.Worded)
    (hothers : ∀ declaration ∈ others, declaration.Worded) (hroot : root.Worded) (hroot' : root'.Worded)
    (hsame : renderModule mode declarations root = renderModule mode others root') :
    moduleBlocks mode declarations root = moduleBlocks mode others root' := by
  have hlines := @isLine_of_mem_moduleBlocks mode _ _ hdeclarations hroot
  have hlines' := @isLine_of_mem_moduleBlocks mode _ _ hothers hroot'
  have hbroken : ∀ {blocks : List (List (List Char))}, (∀ block ∈ blocks, ∀ line ∈ block, IsLine line) →
      ∀ line ∈ blocks.flatMap fun block => [] :: block, '\n' ∉ line := by
    intro blocks hblocks line hline
    obtain ⟨block, hblock, hline⟩ := List.mem_flatMap.1 hline
    rcases List.mem_cons.1 hline with rfl | hline
    · exact List.not_mem_nil
    · exact (hblocks block hblock line hline).2
  -- lines first, at the breaks between them, and then blocks, at the empty lines
  rw [← String.toList_inj, toList_renderModule, toList_renderModule] at hsame
  have hbody := flatMap_cons_inj (hbroken hlines) (hbroken hlines') (List.append_cancel_left hsame)
  exact flatMap_cons_inj (fun block hblock hmem => (hlines block hblock [] hmem).1 rfl)
    (fun block hblock hmem => (hlines' block hblock [] hmem).1 rfl) hbody

theorem moduleBlocks_inj (hsame : moduleBlocks mode declarations root = moduleBlocks mode others root') :
    declarations.map Declaration.block = others.map Declaration.block ∧
      aliasBlocks mode root = aliasBlocks mode root' := by
  -- a declaration has more lines than the name for the root
  have hlong : ∀ declarations : List Declaration, ∀ block ∈ declarations.map Declaration.block,
      ¬ block.length = 1 := by
    intro declarations block hblock
    obtain ⟨declaration, _, rfl⟩ := List.mem_map.1 hblock
    have hlength := declaration.length_block
    omega
  have hshort : ∀ root : TypeExpr,
      StartsWith (fun block : List (List Char) => block.length = 1) (aliasBlocks mode root) := by
    intro root
    unfold aliasBlocks
    split
    · refine startsWith_cons ?_ _
      rfl
    · exact startsWith_nil _
  exact word_append_inj (hlong declarations) (hlong others) (hshort root) (hshort root') hsame

theorem untagged_eq_of_blocks (hdeclarations : ∀ declaration ∈ declarations, declaration.Worded)
    (hothers : ∀ declaration ∈ others, declaration.Worded)
    (hsame : declarations.map Declaration.block = others.map Declaration.block) :
    declarations.map Declaration.untagged = others.map Declaration.untagged := by
  refine map_eq_of_map_eq (fun declaration hdeclaration other hother hblock => ?_) hsame
  have hlines : declaration.lines = other.lines :=
    (List.map_inj_right fun _ _ => String.toList_inj.1).1 hblock
  exact Declaration.untagged_eq_of_lines (hdeclarations declaration hdeclaration)
    (hothers other hother) hlines

theorem aliasBlocks_eq_iff (hroot : root.Worded) (hroot' : root'.Worded) :
    aliasBlocks mode root = aliasBlocks mode root' ↔
      mode.applies root = mode.applies root' ∧
      (mode.applies root = true → root.untagged = root'.untagged) := by
  unfold aliasBlocks
  rw [TypeExpr.untagged_eq_iff hroot.wellNamed hroot'.wellNamed]
  cases mode.applies root <;> cases mode.applies root' <;> simp

end

/-- **A module's text tells what it declares.** Take modules in which all names are words, no name in a
type is spelled like `Any` or a primitive type, and literal values stay on their lines. In either mode
two of them have the same text exactly if they have the same declarations in the same order, and either
none has a name for its root or both have one for the same type. The same are names, values, fields, what
is required and types, except that a name in a type may be a declared one in one module and one that a
schema refers to in the other. -/
theorem renderModule_eq_iff {mode : RootAlias} {declarations others : List Declaration}
    {root root' : TypeExpr} (hdeclarations : ∀ declaration ∈ declarations, declaration.Worded)
    (hothers : ∀ declaration ∈ others, declaration.Worded) (hroot : root.Worded)
    (hroot' : root'.Worded) :
    renderModule mode declarations root = renderModule mode others root' ↔
      declarations.map Declaration.untagged = others.map Declaration.untagged ∧
        mode.applies root = mode.applies root' ∧
        (mode.applies root = true → root.untagged = root'.untagged) := by
  rw [← aliasBlocks_eq_iff hroot hroot']
  constructor
  · intro hsame
    have hblocks := moduleBlocks_eq_of_renderModule hdeclarations hothers hroot hroot' hsame
    obtain ⟨hdeclared, halias⟩ := moduleBlocks_inj hblocks
    exact ⟨untagged_eq_of_blocks hdeclarations hothers hdeclared, halias⟩
  · rintro ⟨hdeclared, halias⟩
    have huntagged : ∀ declarations : List Declaration,
        declarations.map Declaration.block =
          (declarations.map Declaration.untagged).map Declaration.block := by
      intro declarations
      rw [List.map_map]
      exact List.map_congr_left fun declaration _ =>
        congrArg (List.map String.toList) declaration.lines_untagged.symm
    have hblocks : moduleBlocks mode declarations root = moduleBlocks mode others root' := by
      rw [moduleBlocks, moduleBlocks, huntagged declarations, huntagged others, hdeclared, halias]
    rw [← String.toList_inj, toList_renderModule, toList_renderModule, hblocks]

/-- A record with a list of names in it. -/
def kindRecord (kind : TypeExpr) (required : Bool) : Declaration :=
  ⟨"Pet", .record [⟨"kinds", .list kind, required⟩]⟩

theorem isWord_of_all {name : String} (hnonempty : name ≠ "")
    (hchars : (name.toList.all fun c => isAlphanumeric c || c = '_') = true) : IsWord name where
  nonempty := hnonempty
  chars := by
    intro c hc
    simpa using List.all_eq_true.1 hchars c hc

theorem isWord_kinds : IsWord "Pet" ∧ IsWord "kinds" ∧ IsWord "Kind" :=
  ⟨isWord_of_all (by decide) (by decide), isWord_of_all (by decide) (by decide),
    isWord_of_all (by decide) (by decide)⟩

theorem worded_of_names {type : TypeExpr} {name : String} (hnames : type.names = [name])
    (hword : IsWord name) (hother : name ∉ typeWords) : type.Worded := by
  intro other hmem
  rw [hnames] at hmem
  obtain rfl := List.mem_singleton.1 hmem
  exact ⟨hword, hother⟩

theorem worded_kindRecord {kind : TypeExpr} {required : Bool} (hkind : kind.names = ["Kind"]) :
    ∀ declaration ∈ [kindRecord kind required], declaration.Worded := by
  intro declaration hdeclaration
  obtain rfl := List.mem_singleton.1 hdeclaration
  refine ⟨isWord_kinds.1, fun field hfield => ?_⟩
  obtain rfl := List.mem_singleton.1 hfield
  exact ⟨isWord_kinds.2.1, worded_of_names hkind isWord_kinds.2.2 (by decide)⟩

/-- The texts are the same whether `Kind` and `Pet` are declared or referred to, and differ in whether
`kinds` is required. -/
theorem kindRecord_texts :
    renderModule .bracket [kindRecord (.declared "Kind") false] (.list (.declared "Pet")) =
      renderModule .bracket [kindRecord (.reference "Kind") false] (.list (.reference "Pet")) ∧
    renderModule .bracket [kindRecord (.declared "Kind") false] (.list (.declared "Pet")) ≠
      renderModule .bracket [kindRecord (.declared "Kind") true] (.list (.declared "Pet")) := by
  have hdeclared : (TypeExpr.list (.declared "Pet")).Worded :=
    worded_of_names rfl isWord_kinds.1 (by decide)
  have hreferred : (TypeExpr.list (.reference "Pet")).Worded :=
    worded_of_names rfl isWord_kinds.1 (by decide)
  constructor
  · exact (renderModule_eq_iff (worded_kindRecord rfl) (worded_kindRecord rfl) hdeclared hreferred).2
      ⟨rfl, rfl, fun _ => rfl⟩
  · intro hsame
    obtain ⟨hdeclarations, _⟩ :=
      (renderModule_eq_iff (worded_kindRecord rfl) (worded_kindRecord rfl) hdeclared hdeclared).1 hsame
    simp [kindRecord, Declaration.untagged, Field.untagged] at hdeclarations

end SchemaTyping.Typing
