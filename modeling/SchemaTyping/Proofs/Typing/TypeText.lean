import SchemaTyping.Proofs.Text.Separated
import SchemaTyping.Proofs.Typing.Leaves

/-!
# The text of a type

A type is printed as a word, and lists and unions have brackets behind theirs with what they hold in
between. Names that are free of brackets and commas are words (`TypeExpr.WellNamed.word`), so a type's
word ends at its bracket or at what follows the type (`startsWith_bracketed`). Whether a name is a
declared one or one that a schema refers to does not show (`TypeExpr.chars_untagged`), and all characters
that no name has are those of a few words and marks (`mem_chars`).
-/

namespace SchemaTyping.Typing

open Schema (Primitive)
open Text (StartsWith startsWith_cons)

/-- What holds of the leaves, and of lists and unions whenever it holds of what they hold, holds of every
type. -/
theorem TypeExpr.induction {motive : TypeExpr → Prop} (any : motive .any)
    (primitive : ∀ type, motive (.primitive type)) (reference : ∀ name, motive (.reference name))
    (declared : ∀ name, motive (.declared name)) (list : ∀ item, motive item → motive (.list item))
    (union : ∀ arms, (∀ arm ∈ arms, motive arm) → motive (.union arms)) (type : TypeExpr) :
    motive type := by
  cases type with
  | any => exact any
  | primitive type => exact primitive type
  | reference name => exact reference name
  | declared name => exact declared name
  | list item => exact list item (TypeExpr.induction any primitive reference declared list union item)
  | union arms =>
    exact union arms fun arm _ => TypeExpr.induction any primitive reference declared list union arm
termination_by sizeOf type

theorem TypeExpr.chars_list (item : TypeExpr) :
    (TypeExpr.list item).chars = "List[".toList ++ item.chars ++ [']'] := rfl

theorem TypeExpr.chars_union (arms : List TypeExpr) :
    (TypeExpr.union arms).chars = "Union[".toList ++ armChars arms ++ [']'] := rfl

/-! ### Names -/

/-- The name that a leaf is, declared or referred to. -/
def TypeExpr.name? : TypeExpr → Option String
  | .reference name => some name
  | .declared name => some name
  | _ => none

/-- The names in a type, from left to right. -/
def TypeExpr.names (type : TypeExpr) : List String := type.leaves.filterMap TypeExpr.name?

theorem TypeExpr.mem_names_union {arms : List TypeExpr} {name : String} :
    name ∈ (TypeExpr.union arms).names ↔ ∃ arm ∈ arms, name ∈ arm.names := by
  simp only [TypeExpr.names, TypeExpr.leaves, armLeaves_eq_flatMap, List.filterMap_flatMap,
    List.mem_flatMap]

mutual
/-- A type with all names in it as declared ones. -/
def TypeExpr.untagged : TypeExpr → TypeExpr
  | .any => .any
  | .primitive type => .primitive type
  | .reference name => .declared name
  | .declared name => .declared name
  | .list item => .list item.untagged
  | .union arms => .union (untaggedArms arms)

def untaggedArms : List TypeExpr → List TypeExpr
  | [] => []
  | arm :: arms => arm.untagged :: untaggedArms arms
end

mutual
theorem TypeExpr.chars_untagged : (type : TypeExpr) → type.untagged.chars = type.chars
  | .any | .primitive _ | .reference _ | .declared _ => rfl
  | .list item =>
    by rw [TypeExpr.untagged, TypeExpr.chars_list, TypeExpr.chars_list, item.chars_untagged]
  | .union arms =>
    by rw [TypeExpr.untagged, TypeExpr.chars_union, TypeExpr.chars_union, armChars_untagged arms]

theorem armChars_untagged : (arms : List TypeExpr) → armChars (untaggedArms arms) = armChars arms
  | [] => rfl
  | arm :: arms =>
    by rw [untaggedArms, armChars, armChars, arm.chars_untagged, moreArmChars_untagged arms]

theorem moreArmChars_untagged :
    (arms : List TypeExpr) → moreArmChars (untaggedArms arms) = moreArmChars arms
  | [] => rfl
  | arm :: arms =>
    by rw [untaggedArms, moreArmChars, moreArmChars, arm.chars_untagged, moreArmChars_untagged arms]
end

/-! ### Words

A text falls into words at brackets and commas. -/

/-- The characters that end a word. -/
def delimiters : List Char := ['[', ']', ',']

/-- The characters that follow a type inside of brackets. -/
def closers : List Char := [',', ']']

/-- The words that are types without being names. -/
def typeWords : List String := ["Any", "str", "int", "bool", "float", "None"]

/-- Names that a type's text can be read back with. -/
structure IsTypeName (name : String) : Prop where
  nonempty : name ≠ ""
  plain : ∀ c ∈ name.toList, c ∉ delimiters
  other : name ∉ typeWords

/-- Types in which all names are such. -/
def TypeExpr.WellNamed (type : TypeExpr) : Prop := ∀ name ∈ type.names, IsTypeName name

theorem TypeExpr.WellNamed.item {item : TypeExpr} (hnamed : (TypeExpr.list item).WellNamed) :
    item.WellNamed := hnamed

theorem TypeExpr.WellNamed.arm {arms : List TypeExpr} (hnamed : (TypeExpr.union arms).WellNamed)
    {arm : TypeExpr} (hmem : arm ∈ arms) : arm.WellNamed :=
  fun name hname => hnamed name (TypeExpr.mem_names_union.2 ⟨arm, hmem, hname⟩)

/-! ### The characters of a type -/

/-- What a type is spelled with besides its names. -/
def typeSpelling : List Char := typeWords.flatMap String.toList ++ "List[Union[, ]".toList

theorem mem_moreArmChars {arms : List TypeExpr} {c : Char} (hmem : c ∈ moreArmChars arms) :
    c ∈ typeSpelling ∨ ∃ arm ∈ arms, c ∈ arm.chars := by
  induction arms with
  | nil => cases hmem
  | cons arm arms ih =>
    have hseparator : ',' ∈ typeSpelling ∧ ' ' ∈ typeSpelling := by decide
    simp only [moreArmChars, List.cons_append, List.mem_cons, List.mem_append] at hmem
    rcases hmem with rfl | rfl | harm | hmore
    · exact .inl hseparator.1
    · exact .inl hseparator.2
    · exact .inr ⟨arm, List.mem_cons_self, harm⟩
    · exact (ih hmore).imp id fun ⟨other, hother, hc⟩ => ⟨other, List.mem_cons_of_mem _ hother, hc⟩

theorem mem_armChars {arms : List TypeExpr} {c : Char} (hmem : c ∈ armChars arms) :
    c ∈ typeSpelling ∨ ∃ arm ∈ arms, c ∈ arm.chars := by
  cases arms with
  | nil => cases hmem
  | cons arm arms => exact mem_moreArmChars (List.mem_cons_of_mem _ (List.mem_cons_of_mem _ hmem))

theorem mem_chars {type : TypeExpr} {c : Char} (hmem : c ∈ type.chars) :
    c ∈ typeSpelling ∨ ∃ name ∈ type.names, c ∈ name.toList := by
  induction type using TypeExpr.induction with
  | any => exact .inl ((by decide : "Any".toList ⊆ typeSpelling) hmem)
  | primitive type =>
    have hspelling : type.pythonName.toList ⊆ typeSpelling := by cases type <;> decide
    exact .inl (hspelling hmem)
  | reference name => exact .inr ⟨name, List.mem_singleton_self name, hmem⟩
  | declared name => exact .inr ⟨name, List.mem_singleton_self name, hmem⟩
  | list item ih =>
    have hspelling : "List[".toList ⊆ typeSpelling ∧ [']'] ⊆ typeSpelling := by decide
    simp only [TypeExpr.chars_list, List.mem_append] at hmem
    rcases hmem with (hmem | hmem) | hmem
    · exact .inl (hspelling.1 hmem)
    · exact ih hmem
    · exact .inl (hspelling.2 hmem)
  | union arms ih =>
    have hspelling : "Union[".toList ⊆ typeSpelling ∧ [']'] ⊆ typeSpelling := by decide
    simp only [TypeExpr.chars_union, List.mem_append] at hmem
    rcases hmem with (hmem | hmem) | hmem
    · exact .inl (hspelling.1 hmem)
    · rcases mem_armChars hmem with hmem | ⟨arm, harm, hmem⟩
      · exact .inl hmem
      · refine (ih arm harm hmem).imp id fun ⟨name, hname, hc⟩ => ⟨name, ?_, hc⟩
        exact TypeExpr.mem_names_union.2 ⟨arm, harm, hname⟩
    · exact .inl (hspelling.2 hmem)

/-! ### The word that a type starts with -/

/-- The word that a type's text starts with. -/
def TypeExpr.word : TypeExpr → List Char
  | .list _ => "List".toList
  | .union _ => "Union".toList
  | type => type.chars

/-- What follows the word, brackets and all. -/
def TypeExpr.bracketed : TypeExpr → List Char
  | .list item => '[' :: item.chars ++ [']']
  | .union arms => '[' :: armChars arms ++ [']']
  | _ => []

theorem TypeExpr.chars_eq_word (type : TypeExpr) : type.chars = type.word ++ type.bracketed := by
  cases type with
  | list item => rfl
  | union arms => rfl
  | _ => exact (List.append_nil _).symm

theorem TypeExpr.bracketed_cases (type : TypeExpr) :
    type.bracketed = [] ∨ ∃ inner, type.bracketed = '[' :: inner := by
  cases type with
  | list item => exact .inr ⟨_, rfl⟩
  | union arms => exact .inr ⟨_, rfl⟩
  | _ => exact .inl rfl

theorem TypeExpr.WellNamed.word {type : TypeExpr} (hnamed : type.WellNamed) :
    type.word ≠ [] ∧ ∀ c ∈ type.word, c ∉ delimiters := by
  have hname : ∀ name, IsTypeName name → name.toList ≠ [] ∧ ∀ c ∈ name.toList, c ∉ delimiters :=
    fun name h => ⟨fun hnil => h.nonempty (String.toList_eq_nil_iff.1 hnil), h.plain⟩
  cases type with
  | any =>
    show "Any".toList ≠ [] ∧ ∀ c ∈ "Any".toList, c ∉ delimiters
    simp [delimiters]
  | primitive type =>
    show type.pythonName.toList ≠ [] ∧ ∀ c ∈ type.pythonName.toList, c ∉ delimiters
    cases type <;> simp [Primitive.pythonName, delimiters]
  | reference name => exact hname name (hnamed name (List.mem_singleton_self name))
  | declared name => exact hname name (hnamed name (List.mem_singleton_self name))
  | list item =>
    show "List".toList ≠ [] ∧ ∀ c ∈ "List".toList, c ∉ delimiters
    simp [delimiters]
  | union arms =>
    show "Union".toList ≠ [] ∧ ∀ c ∈ "Union".toList, c ∉ delimiters
    simp [delimiters]

/-! ### What follows a word or a type -/

section

variable {type : TypeExpr} {rest : List Char}

theorem startsWith_bracketed (type : TypeExpr) (hrest : StartsWith (· ∈ closers) rest) :
    StartsWith (· ∈ delimiters) (type.bracketed ++ rest) := by
  have hclosers : closers ⊆ delimiters := by decide
  rcases type.bracketed_cases with hleaf | ⟨inner, hinner⟩
  · rw [hleaf]
    exact fun c hc => hclosers (hrest c hc)
  · rw [hinner]
    exact startsWith_cons (by decide) _

theorem startsWith_moreArmChars (arms : List TypeExpr) (rest : List Char) :
    StartsWith (· ∈ closers) (moreArmChars arms ++ ']' :: rest) := by
  cases arms with
  | nil => exact startsWith_cons (by decide) _
  | cons arm arms => exact startsWith_cons (by decide) _

theorem chars_append_ne_closer (hnamed : type.WellNamed) (more : List Char) :
    type.chars ++ more ≠ ']' :: rest := by
  intro hsame
  obtain ⟨hword, hplain⟩ := hnamed.word
  rw [type.chars_eq_word] at hsame
  cases hchars : type.word with
  | nil => exact hword hchars
  | cons c word =>
    rw [hchars] at hsame hplain
    obtain rfl : c = ']' := (List.cons.inj hsame).1
    exact absurd (hplain ']' List.mem_cons_self) (by decide)

end

end SchemaTyping.Typing
