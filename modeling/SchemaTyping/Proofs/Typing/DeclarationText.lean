import SchemaTyping.Proofs.Typing.TypeReading
import SchemaTyping.Text.Alphanumeric

/-!
# The lines of a declaration can be read back

Where names are words and literal values stay on their lines, no line of a declaration is empty or has a
break in it (`Declaration.Worded.isLine`). The first line tells a literal from a record. A literal's
other lines are its values; a record's are its fields, whose names end at the first colon, or one line
that no field has. So declarations with the same lines are the same (`Declaration.untagged_eq_of_lines`),
but for whether a name in a type is a declared one.
-/

namespace SchemaTyping.Typing

open Text (isAlphanumeric startsWith_nil startsWith_cons StartsWith word_append_inj map_eq_of_map_eq)

/-! ### Words for names -/

/-- The characters that tell the names in a line from what is around them. -/
def marks : List Char := ['\n', ':', '[', ']', ',']

theorem isAlphanumeric_mark {c : Char} (hmem : c ∈ marks) : isAlphanumeric c = false := by
  have hmarks : (marks.all fun c => !isAlphanumeric c) = true := by decide +kernel
  simpa using List.all_eq_true.1 hmarks c hmem

/-- A text of letters, digits and underscores that is not empty. -/
structure IsWord (name : String) : Prop where
  nonempty : name ≠ ""
  chars : ∀ c ∈ name.toList, isAlphanumeric c = true ∨ c = '_'

theorem IsWord.not_mark {name : String} (hword : IsWord name) {c : Char} (hc : c ∈ name.toList) :
    c ∉ marks := by
  intro hmark
  rcases hword.chars c hc with halphanumeric | rfl
  · rw [isAlphanumeric_mark hmark] at halphanumeric
    cases halphanumeric
  · exact absurd hmark (by decide)

/-- Types in which all names are words, and none is spelled like `Any` or a primitive type. -/
def TypeExpr.Worded (type : TypeExpr) : Prop := ∀ name ∈ type.names, IsWord name ∧ name ∉ typeWords

theorem TypeExpr.Worded.wellNamed {type : TypeExpr} (hworded : type.Worded) : type.WellNamed := by
  intro name hname
  obtain ⟨hword, hother⟩ := hworded name hname
  have hmarks : delimiters ⊆ marks := by decide
  exact ⟨hword.nonempty, fun c hc hdelimiter => hword.not_mark hc (hmarks hdelimiter), hother⟩

theorem TypeExpr.Worded.one_line {type : TypeExpr} (hworded : type.Worded) : '\n' ∉ type.chars := by
  intro hmem
  rcases mem_chars hmem with hspelling | ⟨name, hname, hc⟩
  · exact absurd hspelling (by decide)
  · exact (hworded name hname).1.not_mark hc (by decide)

/-- Declarations in which all names are words, those in types as well, and each literal value stays on
its line. -/
def Declaration.Worded (declaration : Declaration) : Prop :=
  IsWord declaration.name ∧
    match declaration.body with
    | .literal values => ∀ value ∈ values, '\n' ∉ value.toList
    | .record fields => ∀ field ∈ fields, IsWord field.name ∧ field.type.Worded

/-- A field with all names in its type as declared ones. -/
def Field.untagged (field : Field) : Field := { field with type := field.type.untagged }

/-- A declaration with all names in the types of its fields as declared ones. -/
def Declaration.untagged (declaration : Declaration) : Declaration :=
  match declaration.body with
  | .literal _ => declaration
  | .record fields => ⟨declaration.name, .record (fields.map Field.untagged)⟩

/-! ### Fields -/

/-- What a field's line has behind the name. -/
def Field.typeChars (field : Field) : List Char :=
  if field.required then field.type.chars else "NotRequired".toList ++ '[' :: (field.type.chars ++ [']'])

theorem Field.toList_line (field : Field) :
    field.line.toList = "    ".toList ++ (field.name.toList ++ ':' :: ' ' :: field.typeChars) := by
  unfold Field.line Field.typeChars TypeExpr.render
  split <;> simp

theorem Field.line_untagged (field : Field) : field.untagged.line = field.line := by
  rw [← String.toList_inj, Field.toList_line, Field.toList_line]
  simp only [Field.untagged, Field.typeChars, TypeExpr.chars_untagged]

theorem chars_ne_notRequired {type : TypeExpr} (hnamed : type.WellNamed) (more : List Char) :
    type.chars ≠ "NotRequired".toList ++ '[' :: more := by
  intro hsame
  have hends : StartsWith (· ∈ delimiters) type.bracketed := by
    have hnothing := startsWith_bracketed type (startsWith_nil _)
    rwa [List.append_nil] at hnothing
  have hplain : ∀ c ∈ "NotRequired".toList, c ∉ delimiters := by
    simp [delimiters]
  rw [type.chars_eq_word] at hsame
  obtain ⟨hword, hbracketed⟩ :=
    word_append_inj hnamed.word.2 hplain hends (startsWith_cons (by decide) _) hsame
  cases type with
  | list item => cases hword
  | union arms => cases hword
  | _ => cases hbracketed

theorem Field.typeChars_inj {field other : Field} (hnamed : field.type.WellNamed)
    (hother : other.type.WellNamed) (hsame : field.typeChars = other.typeChars) :
    field.required = other.required ∧ field.type.untagged = other.type.untagged := by
  unfold Field.typeChars at hsame
  cases hleft : field.required <;> cases hright : other.required
    <;> simp only [hleft, hright, if_true, Bool.false_eq_true, if_false] at hsame
  · have hchars : field.type.chars = other.type.chars := by simpa using hsame
    exact ⟨rfl, (TypeExpr.untagged_eq_iff hnamed hother).2 hchars⟩
  · exact absurd hsame.symm (chars_ne_notRequired hother _)
  · exact absurd hsame (chars_ne_notRequired hnamed _)
  · exact ⟨rfl, (TypeExpr.untagged_eq_iff hnamed hother).2 hsame⟩

theorem Field.untagged_eq_of_line {field other : Field} (hfield : IsWord field.name ∧ field.type.Worded)
    (hother : IsWord other.name ∧ other.type.Worded) (hsame : field.line = other.line) :
    field.untagged = other.untagged := by
  rw [← String.toList_inj, Field.toList_line, Field.toList_line] at hsame
  have hcolon : ∀ {name : String}, IsWord name → ∀ c ∈ name.toList, ¬ c ∈ [':'] := by
    intro name hword c hc hmem
    have hmarks : [':'] ⊆ marks := by decide
    exact hword.not_mark hc (hmarks hmem)
  obtain ⟨hname, hrest⟩ :=
    word_append_inj (hcolon hfield.1) (hcolon hother.1) (startsWith_cons (by decide) _)
    (startsWith_cons (by decide) _) (List.append_cancel_left hsame)
  have hchars : field.typeChars = other.typeChars := by simpa using hrest
  obtain ⟨hrequired, htype⟩ := Field.typeChars_inj hfield.2.wellNamed hother.2.wellNamed hchars
  unfold Field.untagged
  rw [String.toList_inj.1 hname, hrequired, htype]

/-! ### Declarations -/

def fieldLines (fields : List Field) : List String :=
  if fields.isEmpty then ["    pass"] else fields.map Field.line

theorem fieldLines_untagged (fields : List Field) :
    fieldLines (fields.map Field.untagged) = fieldLines fields := by
  cases fields with
  | nil => rfl
  | cons field fields => simp [fieldLines, Field.line_untagged, Function.comp_def]

theorem Field.line_ne_pass (field : Field) : field.line ≠ "    pass" := by
  intro hsame
  have hcolon : ':' ∈ field.line.toList := by
    rw [Field.toList_line]
    simp
  rw [hsame] at hcolon
  exact absurd hcolon (by decide)

theorem untagged_eq_of_fieldLines {fields others : List Field}
    (hfields : ∀ field ∈ fields, IsWord field.name ∧ field.type.Worded)
    (hothers : ∀ field ∈ others, IsWord field.name ∧ field.type.Worded)
    (hsame : fieldLines fields = fieldLines others) :
    fields.map Field.untagged = others.map Field.untagged := by
  cases fields with
  | nil =>
    cases others with
    | nil => rfl
    | cons other others => exact absurd (List.cons.inj hsame).1.symm other.line_ne_pass
  | cons field fields =>
    cases others with
    | nil => exact absurd (List.cons.inj hsame).1 field.line_ne_pass
    | cons other others =>
      refine map_eq_of_map_eq (fun field hfield other hother => ?_) hsame
      exact Field.untagged_eq_of_line (hfields field hfield) (hothers other hother)

theorem Declaration.lines_untagged (declaration : Declaration) :
    declaration.untagged.lines = declaration.lines := by
  obtain ⟨name, body⟩ := declaration
  cases body with
  | literal values => rfl
  | record fields =>
    exact congrArg (List.cons ("class " ++ name ++ "(TypedDict):")) (fieldLines_untagged fields)

theorem literal_header_ne (name other : String) :
    name ++ " = Literal[" ≠ "class " ++ other ++ "(TypedDict):" := by
  intro hsame
  -- one ends with a bracket, the other with a colon
  have hlast := congrArg (fun line => line.toList.getLast?) hsame
  simp [List.getLast?_cons, List.getLast?_append] at hlast

theorem Declaration.untagged_eq_of_lines {declaration other : Declaration}
    (hdeclaration : declaration.Worded) (hother : other.Worded)
    (hsame : declaration.lines = other.lines) : declaration.untagged = other.untagged := by
  obtain ⟨name, body⟩ := declaration
  obtain ⟨name', body'⟩ := other
  cases body with
  | literal values =>
    cases body' with
    | literal values' =>
      obtain ⟨hheader, hrest⟩ := List.cons.inj hsame
      have hname : name = name' := by simpa using hheader
      have hvalues : values = values' := by
        refine (List.map_inj_right fun value value' hvalue => ?_).1 (List.append_cancel_right hrest)
        simpa using hvalue
      rw [hname, hvalues]
    | record fields' => exact absurd (List.cons.inj hsame).1 (literal_header_ne _ _)
  | record fields =>
    cases body' with
    | literal values' => exact absurd (List.cons.inj hsame).1.symm (literal_header_ne _ _)
    | record fields' =>
      obtain ⟨hheader, hrest⟩ := List.cons.inj hsame
      have hname : name = name' := by simpa using hheader
      have hfields := untagged_eq_of_fieldLines hdeclaration.2 hother.2 hrest
      unfold Declaration.untagged
      simp only [hname, hfields]

/-! ### Lines -/

/-- A line that is not empty and has no break in it. -/
def IsLine (line : List Char) : Prop := line ≠ [] ∧ '\n' ∉ line

theorem IsWord.one_line {name : String} (hword : IsWord name) : '\n' ∉ name.toList :=
  fun hmem => hword.not_mark hmem (by decide)

theorem Field.isLine {field : Field} (hname : IsWord field.name) (htype : field.type.Worded) :
    IsLine field.line.toList := by
  have hchars : '\n' ∉ field.typeChars := by
    unfold Field.typeChars
    split <;> simp [htype.one_line]
  rw [Field.toList_line]
  simp [IsLine, hname.one_line, hchars]

theorem Declaration.Worded.isLine {declaration : Declaration} (hworded : declaration.Worded) :
    ∀ line ∈ declaration.lines, IsLine line.toList := by
  obtain ⟨name, body⟩ := declaration
  obtain ⟨hname, hbody⟩ := hworded
  have hbreak : '\n' ∉ name.toList := hname.one_line
  intro line hline
  cases body with
  | literal values =>
    simp only [Declaration.lines, List.cons_append, List.mem_cons, List.mem_append, List.mem_map,
      List.not_mem_nil, or_false] at hline
    rcases hline with rfl | ⟨value, hvalue, rfl⟩ | rfl
    · simp [IsLine, hbreak]
    · simp [IsLine, hbody value hvalue]
    · simp [IsLine]
  | record fields =>
    rcases List.mem_cons.1 hline with rfl | hline
    · simp [IsLine, hbreak]
    · cases fields with
      | nil =>
        obtain rfl := List.mem_singleton.1 hline
        simp [IsLine]
      | cons field fields =>
        obtain ⟨field, hfield, rfl⟩ := List.mem_map.1 hline
        exact Field.isLine (hbody field hfield).1 (hbody field hfield).2

end SchemaTyping.Typing
