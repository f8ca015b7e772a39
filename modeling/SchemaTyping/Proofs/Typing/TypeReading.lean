import SchemaTyping.Proofs.Typing.TypeText

/-!
# The text of a type can be read back

The reader goes by words: a word is followed by the bracket that it opens, or it is a type of its own. A
name free of brackets and commas ends where its word ends, so a type is read up to its end from any text
in which a comma or a closing bracket follows it (`readType?_chars`), and what follows is left as it is.
So texts of types can be told apart behind one another (`TypeExpr.readsBack`): none goes on behind a
comma or a closing bracket as the text of another, and a union is read arm by arm. One thing is lost:
whether a name is a declared one or one that a schema refers to.
-/

namespace SchemaTyping.Typing

open Schema (Primitive)
open Text (StartsWith startsWith_nil startsWith_cons)

/-! ### Words that are types -/

/-- The type that a word is the whole text of. -/
def typeOfWord (word : String) : TypeExpr :=
  if word = "Any" then .any
  else
    match [Primitive.string, .integer, .boolean, .number, .null].find? (·.pythonName = word) with
    | some type => .primitive type
    | none => .declared word

theorem typeOfWord_name {name : String} (hother : name ∉ typeWords) :
    typeOfWord name = .declared name := by
  simp only [typeWords, List.mem_cons, not_or, List.not_mem_nil, not_false_eq_true, and_true] at hother
  simp [typeOfWord, Primitive.pythonName, hother, Ne.symm]

theorem typeOfWord_word {type : TypeExpr} (hleaf : type.bracketed = []) (hnamed : type.WellNamed) :
    typeOfWord (String.ofList type.word) = type.untagged := by
  have hname : ∀ name, IsTypeName name → typeOfWord (String.ofList name.toList) = .declared name := by
    intro name h
    rw [String.ofList_toList]
    exact typeOfWord_name h.other
  cases type with
  | any => rfl
  | primitive type => cases type <;> rfl
  | reference name => exact hname name (hnamed name (List.mem_singleton_self name))
  | declared name => exact hname name (hnamed name (List.mem_singleton_self name))
  | list item => cases hleaf
  | union arms => cases hleaf

/-! ### The reader -/

/-- The type that a word is with these types in brackets behind it. A list holds one. -/
def typeOfBrackets? (word : List Char) (inner : List TypeExpr) : Option TypeExpr :=
  if word = "Union".toList then some (.union inner)
  else if word = "List".toList then
    match inner with
    | [item] => some (.list item)
    | _ => none
  else none

mutual
/-- The type that a text starts with, and what follows it, with `budget` at least the length of the
type's text. Names are read as declared ones. -/
def readTypeWithin : (budget : Nat) → List Char → Option (TypeExpr × List Char)
  | 0, _ => none
  | budget + 1, text =>
    let word := text.takeWhile (· ∉ delimiters)
    if word = [] then none
    else
      match text.dropWhile (· ∉ delimiters) with
      | '[' :: ']' :: rest => do
        let type ← typeOfBrackets? word []
        some (type, rest)
      | '[' :: inner => do
        let (arms, rest) ← readArmsWithin budget inner
        let type ← typeOfBrackets? word arms
        some (type, rest)
      | rest => some (typeOfWord (String.ofList word), rest)
/-- The types inside of brackets, of which there has to be one, from after the bracket that opens, and
what follows the one that closes. -/
def readArmsWithin : (budget : Nat) → List Char → Option (List TypeExpr × List Char)
  | 0, _ => none
  | budget + 1, text => do
    let (arm, rest) ← readTypeWithin budget text
    match rest with
    | ']' :: rest => some ([arm], rest)
    | ',' :: ' ' :: more => do
      let (arms, rest) ← readArmsWithin budget more
      some (arm :: arms, rest)
    | _ => none
end

/-- The type that a text starts with, with all names as declared ones, and what follows it. -/
def readType? (text : List Char) : Option (TypeExpr × List Char) := readTypeWithin text.length text

section

variable {word inner rest : List Char} {budget : Nat} {arms : List TypeExpr}

theorem word_cut (hplain : ∀ c ∈ word, c ∉ delimiters) (hrest : StartsWith (· ∈ delimiters) rest) :
    (word ++ rest).takeWhile (· ∉ delimiters) = word ∧
      (word ++ rest).dropWhile (· ∉ delimiters) = rest := by
  have hpos : ∀ c ∈ word, decide (c ∉ delimiters) = true := fun c hc => decide_eq_true (hplain c hc)
  have hstop : rest.takeWhile (· ∉ delimiters) = [] ∧ rest.dropWhile (· ∉ delimiters) = rest := by
    cases rest with
    | nil => exact ⟨rfl, rfl⟩
    | cons c more =>
      have hneg : ¬ decide (c ∉ delimiters) = true := by simpa using hrest c rfl
      exact ⟨List.takeWhile_cons_of_neg hneg, List.dropWhile_cons_of_neg hneg⟩
  rw [List.takeWhile_append_of_pos hpos, List.dropWhile_append_of_pos hpos, hstop.1, hstop.2,
    List.append_nil]
  exact ⟨rfl, rfl⟩

theorem readTypeWithin_word (hword : word ≠ []) (hplain : ∀ c ∈ word, c ∉ delimiters)
    (hrest : StartsWith (· ∈ closers) rest) :
    readTypeWithin (budget + 1) (word ++ rest) = some (typeOfWord (String.ofList word), rest) := by
  have hclosers : closers ⊆ delimiters := by decide
  obtain ⟨htake, hdrop⟩ := word_cut hplain fun c hc => hclosers (hrest c hc)
  simp only [readTypeWithin, htake, hdrop, hword, if_false]
  split
  · exact absurd (hrest '[' rfl) (by decide)
  · exact absurd (hrest '[' rfl) (by decide)
  · rfl

theorem readTypeWithin_empty {type : TypeExpr} (hword : word ≠ []) (hplain : ∀ c ∈ word, c ∉ delimiters)
    (htype : typeOfBrackets? word [] = some type) :
    readTypeWithin (budget + 1) (word ++ '[' :: ']' :: rest) = some (type, rest) := by
  have hopens : '[' ∈ delimiters := by decide
  obtain ⟨htake, hdrop⟩ := word_cut hplain (startsWith_cons hopens (']' :: rest))
  simp only [readTypeWithin, htake, hdrop, hword, if_false, htype, Option.bind_eq_bind, Option.bind_some]

theorem readTypeWithin_inner {type : TypeExpr} (hword : word ≠ []) (hplain : ∀ c ∈ word, c ∉ delimiters)
    (hinner : ∀ more, inner ≠ ']' :: more) (harms : readArmsWithin budget inner = some (arms, rest))
    (htype : typeOfBrackets? word arms = some type) :
    readTypeWithin (budget + 1) (word ++ '[' :: inner) = some (type, rest) := by
  have hopens : '[' ∈ delimiters := by decide
  obtain ⟨htake, hdrop⟩ := word_cut hplain (startsWith_cons hopens inner)
  simp only [readTypeWithin, htake, hdrop, hword, if_false, harms, htype, Option.bind_eq_bind,
    Option.bind_some]

theorem readArmsWithin_last {arm : TypeExpr}
    (harm : readTypeWithin budget inner = some (arm, ']' :: rest)) :
    readArmsWithin (budget + 1) inner = some ([arm], rest) := by
  rw [readArmsWithin, harm]
  rfl

theorem readArmsWithin_comma {arm : TypeExpr} {more : List Char}
    (harm : readTypeWithin budget inner = some (arm, ',' :: ' ' :: more))
    (harms : readArmsWithin budget more = some (arms, rest)) :
    readArmsWithin (budget + 1) inner = some (arm :: arms, rest) := by
  rw [readArmsWithin, harm]
  simp only [Option.bind_eq_bind, Option.bind_some, harms]

end

/-! ### Reading what is printed -/

/-- A type that the reader finds in front of whatever follows it. -/
def TypeExpr.IsRead (type : TypeExpr) : Prop :=
  ∀ (budget : Nat) (rest : List Char), type.WellNamed → StartsWith (· ∈ closers) rest →
    type.chars.length ≤ budget →
    readTypeWithin budget (type.chars ++ rest) = some (type.untagged, rest)

section

variable {arm : TypeExpr} {arms : List TypeExpr} {word rest : List Char} {budget : Nat}

theorem isRead_leaf {type : TypeExpr} (hleaf : type.bracketed = []) : type.IsRead := by
  intro budget rest hnamed hrest hbudget
  have hchars : type.chars = type.word := by rw [type.chars_eq_word, hleaf, List.append_nil]
  rw [hchars] at hbudget ⊢
  have hpos : 0 < type.word.length := List.length_pos_of_ne_nil hnamed.word.1
  cases budget with
  | zero => omega
  | succ budget =>
    rw [readTypeWithin_word hnamed.word.1 hnamed.word.2 hrest, typeOfWord_word hleaf hnamed]

theorem readArmsWithin_armChars (ih : ∀ other ∈ arm :: arms, other.IsRead)
    (hnamed : ∀ other ∈ arm :: arms, other.WellNamed)
    (hbudget : (armChars (arm :: arms)).length < budget) :
    readArmsWithin budget (armChars (arm :: arms) ++ ']' :: rest) =
      some (untaggedArms (arm :: arms), rest) := by
  induction arms generalizing arm budget with
  | nil =>
    cases budget with
    | zero => omega
    | succ budget =>
      simp only [armChars, moreArmChars, List.append_nil] at hbudget ⊢
      have hcloses : ']' ∈ closers := by decide
      have harm :=
        ih arm List.mem_cons_self budget _ (hnamed arm List.mem_cons_self) (startsWith_cons hcloses rest)
        (Nat.le_of_lt_succ hbudget)
      exact readArmsWithin_last harm
  | cons other arms ihArms =>
    cases budget with
    | zero => omega
    | succ budget =>
      -- both the arm and the arms behind its comma are shorter than the text by more than one step of
      -- the budget
      have hmore : moreArmChars (other :: arms) = ',' :: ' ' :: armChars (other :: arms) := rfl
      rw [armChars, hmore, List.append_assoc]
      rw [armChars, hmore, List.length_append, List.length_cons, List.length_cons] at hbudget
      have harm :=
        ih arm List.mem_cons_self budget _ (hnamed arm List.mem_cons_self)
          (startsWith_moreArmChars (other :: arms) rest)
        (show arm.chars.length ≤ budget by omega)
      have harms := ihArms (fun type hmem => ih type (List.mem_cons_of_mem _ hmem))
        (fun type hmem => hnamed type (List.mem_cons_of_mem _ hmem))
          (show (armChars (other :: arms)).length < budget by omega)
      exact readArmsWithin_comma harm harms

theorem readTypeWithin_bracketed {type : TypeExpr} (ih : ∀ arm ∈ arms, arm.IsRead)
    (hnamed : ∀ arm ∈ arms, arm.WellNamed) (hword : word ≠ []) (hplain : ∀ c ∈ word, c ∉ delimiters)
    (htype : typeOfBrackets? word (untaggedArms arms) = some type)
    (hbudget : (armChars arms).length < budget) :
    readTypeWithin (budget + 1) (word ++ '[' :: (armChars arms ++ ']' :: rest)) = some (type, rest) := by
  cases arms with
  | nil => exact readTypeWithin_empty hword hplain htype
  | cons arm arms =>
    refine readTypeWithin_inner hword hplain (fun more hclosed => ?_)
      (readArmsWithin_armChars ih hnamed hbudget) htype
    -- an arm does not start with the bracket that would close a union without arms
    rw [armChars, List.append_assoc] at hclosed
    exact chars_append_ne_closer (hnamed arm List.mem_cons_self) _ hclosed

theorem isRead_bracketed {type : TypeExpr} (ih : ∀ arm ∈ arms, arm.IsRead)
    (hnamed : ∀ arm ∈ arms, type.WellNamed → arm.WellNamed)
    (hbracketed : type.bracketed = '[' :: armChars arms ++ [']'])
    (htype : typeOfBrackets? type.word (untaggedArms arms) = some type.untagged) : type.IsRead := by
  intro budget rest hwell _ hbudget
  have hchars : type.chars ++ rest = type.word ++ '[' :: (armChars arms ++ ']' :: rest) := by
    rw [type.chars_eq_word, hbracketed]
    simp
  have hlength : type.chars.length = type.word.length + (armChars arms).length + 2 := by
    rw [type.chars_eq_word, hbracketed]
    simp only [List.length_append, List.length_cons, List.length_nil]
    omega
  cases budget with
  | zero => omega
  | succ budget =>
    rw [hchars]
    exact readTypeWithin_bracketed ih (fun arm hmem => hnamed arm hmem hwell) hwell.word.1 hwell.word.2
      htype (by omega)

end

theorem TypeExpr.isRead (type : TypeExpr) : type.IsRead := by
  induction type using TypeExpr.induction with
  | any => exact isRead_leaf rfl
  | primitive type => exact isRead_leaf rfl
  | reference name => exact isRead_leaf rfl
  | declared name => exact isRead_leaf rfl
  | list item ih =>
    have hitem : armChars [item] = item.chars := List.append_nil _
    refine isRead_bracketed (List.forall_mem_singleton.2 ih)
      (List.forall_mem_singleton.2 TypeExpr.WellNamed.item) ?_ rfl
    rw [hitem, TypeExpr.bracketed]
  | union arms ih => exact isRead_bracketed ih (fun arm hmem hnamed => hnamed.arm hmem) rfl rfl

/-! ### Texts behind one another -/

/-- The reader finds a type in front of whatever a comma or a closing bracket starts, and leaves that. -/
theorem readType?_chars {type : TypeExpr} {rest : List Char} (hnamed : type.WellNamed)
    (hrest : StartsWith (· ∈ closers) rest) :
    readType? (type.chars ++ rest) = some (type.untagged, rest) := by
  refine type.isRead _ rest hnamed hrest ?_
  rw [List.length_append]
  exact Nat.le_add_right _ _

/-- A type that can be told from its text and whatever follows. -/
def TypeExpr.ReadsBack (type : TypeExpr) : Prop :=
  ∀ {other : TypeExpr} {rest rest' : List Char}, type.WellNamed → other.WellNamed →
    StartsWith (· ∈ closers) rest → StartsWith (· ∈ closers) rest' →
      type.chars ++ rest = other.chars ++ rest' →
    type.untagged = other.untagged ∧ rest = rest'

/-- Every type can be told from its text and whatever follows it. -/
theorem TypeExpr.readsBack (type : TypeExpr) : type.ReadsBack := by
  intro other rest rest' hnamed hother hrest hrest' hsame
  have hread := readType?_chars hnamed hrest
  rw [hsame, readType?_chars hother hrest'] at hread
  obtain ⟨htype, hrests⟩ := Prod.mk.inj (Option.some.inj hread)
  exact ⟨htype.symm, hrests.symm⟩

theorem TypeExpr.untagged_eq_iff {type other : TypeExpr} (hnamed : type.WellNamed)
    (hother : other.WellNamed) :
    type.untagged = other.untagged ↔ type.chars = other.chars := by
  constructor
  · intro hsame
    rw [← type.chars_untagged, hsame, other.chars_untagged]
  · intro hsame
    refine (type.readsBack hnamed hother (startsWith_nil _) (startsWith_nil _) ?_).1
    rw [hsame]

theorem chars_append_closer_ne {type other : TypeExpr} (hnamed : type.WellNamed)
    (hother : other.WellNamed) {c : Char} (hc : c ∈ closers) (more : List Char) :
    type.chars ++ c :: more ≠ other.chars := by
  intro hsame
  have hends : type.chars ++ c :: more = other.chars ++ [] := by rw [hsame, List.append_nil]
  obtain ⟨_, hnothing⟩ := type.readsBack hnamed hother (startsWith_cons hc more) (startsWith_nil _) hends
  cases hnothing

/-- **The text of a type can be read back.** Take types in which no name is empty, has a bracket or a
comma in it, or is spelled like `Any` or a primitive type. Two of them have the same text exactly if they
are the same, but for which names are declared ones. The text of one does not go on behind a comma or a
closing bracket as the text of another, so the reader finds a type in front of all that can follow it in
a larger one, and the arms of a union one by one: whichever arm it has come to, it reads that arm and
leaves the others. -/
theorem type_texts_read_back {type : TypeExpr} (hnamed : type.WellNamed) :
    (∀ other : TypeExpr, other.WellNamed →
      (type.render = other.render ↔ type.untagged = other.untagged) ∧
        ∀ c ∈ closers, ∀ more, type.render.toList ++ c :: more ≠ other.render.toList) ∧
    (∀ rest, StartsWith (· ∈ closers) rest →
      readType? (type.render.toList ++ rest) = some (type.untagged, rest)) ∧
    ∀ before arm after, type = .union (before ++ arm :: after) → ∀ rest,
      readType? (armChars (arm :: after) ++ ']' :: rest) =
        some (arm.untagged, moreArmChars after ++ ']' :: rest) := by
  have hrender : ∀ type : TypeExpr, type.render.toList = type.chars := fun type => String.toList_ofList
  refine ⟨fun other hother => ⟨?_, fun c hc more => ?_⟩, fun rest hrest => ?_, ?_⟩
  · rw [TypeExpr.untagged_eq_iff hnamed hother, ← String.toList_inj, hrender, hrender]
  · rw [hrender, hrender]
    exact chars_append_closer_ne hnamed hother hc more
  · rw [hrender]
    exact readType?_chars hnamed hrest
  · rintro before arm after rfl rest
    have harm : arm.WellNamed := hnamed.arm (List.mem_append_right before List.mem_cons_self)
    rw [armChars, List.append_assoc]
    exact readType?_chars harm (startsWith_moreArmChars after rest)

/-- A union in which `Union` and `List` stand with brackets behind them and, as names, without. -/
def nestedUnion (name : String → TypeExpr) : TypeExpr :=
  .union [.list (.union []), name "Union", .union [.primitive .integer], .list (name "List")]

theorem wellNamed_of_names {type : TypeExpr} (hnames : type.names = ["Union", "List"]) :
    type.WellNamed := by
  intro name hname
  rw [hnames] at hname
  have hcases : name = "Union" ∨ name = "List" := by simpa using hname
  rcases hcases with rfl | rfl
  · exact ⟨by decide, by simp [delimiters], by decide⟩
  · exact ⟨by decide, by simp [delimiters], by decide⟩

theorem nestedUnion_reads_back :
    (nestedUnion .declared).render = (nestedUnion .reference).render ∧
      (∀ more, (nestedUnion .declared).render.toList ++ ',' :: more ≠
        (nestedUnion .reference).render.toList) ∧
      readType? ("Union[List[Union[]], Union, Union[int], List[List]]".toList ++ ", None]".toList) =
        some (nestedUnion .declared, ", None]".toList) ∧
      readType? "Union, Union[int], List[List]]".toList =
        some (.declared "Union", ", Union[int], List[List]]".toList) := by
  have hdeclared : (nestedUnion .declared).WellNamed := wellNamed_of_names rfl
  have hreferred : (nestedUnion .reference).WellNamed := wellNamed_of_names rfl
  have hcomma : ',' ∈ closers := by decide
  have hunion : (nestedUnion .declared).render.toList =
      "Union[List[Union[]], Union, Union[int], List[List]]".toList := rfl
  have harms :
      armChars [.declared "Union", .union [.primitive .integer], .list (.declared "List")] ++ [']'] =
      "Union, Union[int], List[List]]".toList := rfl
  have hothers : moreArmChars [.union [.primitive .integer], .list (.declared "List")] ++ [']'] =
      ", Union[int], List[List]]".toList := rfl
  obtain ⟨htold, hread, hnext⟩ := type_texts_read_back hdeclared
  have hfound := hread ", None]".toList (startsWith_cons hcomma _)
  have hsecond := hnext [.list (.union [])] _ _ rfl []
  rw [hunion] at hfound
  rw [harms, hothers] at hsecond
  exact ⟨(htold _ hreferred).1.2 rfl, (htold _ hreferred).2 ',' hcomma, hfound, hsecond⟩

end SchemaTyping.Typing
