import SchemaTyping.Json.Pointer
import SchemaTyping.Proofs.Json.Numeral

/-!
# Pointers and paths

A path leads to a node by steps that are keys or indices, and its pointer writes the steps after slashes,
with tildes and slashes in them escaped. Following the pointer leads to the node at the path
(`Value.pointer?_pointerTo`), and a pointer in which tildes only escape leads to nothing else
(`Value.exists_path_of_pointer?`). What makes this hold is that steps can be told apart in the text, that
the two replacements undo the escaping, and that an index has one decimal.
-/

namespace SchemaTyping.Json

open Text (intercalate_cons)

/-! ### Paths -/

/-- A step from a value to one of its parts: to the value under a key, or to the item at an index. -/
inductive PathStep where
  | key (name : String)
  | index (place : Nat)
  deriving DecidableEq, Repr

/-- The part that a step leads to. Only in an object does a key lead on, and only in a list an index
below its length. -/
def Value.part? : Value → PathStep → Option Value
  | .object members, .key name => members.lookup name
  | .array items, .index place => items[place]?
  | _, _ => none

/-- The node that a path leads to. -/
def Value.nodeAt? : Value → List PathStep → Option Value
  | value, [] => some value
  | value, step :: path => (value.part? step).bind fun part => part.nodeAt? path

/-- What names a step in a pointer before anything is escaped: the key, or the index in decimal. -/
def PathStep.token : PathStep → List Char
  | .key name => name.toList
  | .index place => Decimal.natChars place

/-- A character in a pointer. A tilde starts an escape and a slash a step, so both are escaped. -/
def escapeTokenChar (c : Char) : List Char :=
  if c = '~' then ['~', '0'] else if c = '/' then ['~', '1'] else [c]

def escapeToken (token : List Char) : List Char := token.flatMap escapeTokenChar

/-- The pointer to the node at a path: the steps, each after a slash. -/
def pointerTo (path : List PathStep) : String :=
  String.ofList (path.flatMap fun step => '/' :: escapeToken step.token)

example : pointerTo [.key "", .key "a/b~1", .index 10] = "//a~1b~01/10" := by decide

theorem Value.nodeAt?_append (value : Value) (path more : List PathStep) :
    value.nodeAt? (path ++ more) = (value.nodeAt? path).bind fun node => node.nodeAt? more := by
  induction path generalizing value with
  | nil => rfl
  | cons step path ih =>
    rw [List.cons_append, Value.nodeAt?, Value.nodeAt?, Option.bind_assoc]
    simp only [ih]

/-! ### Splitting at separators -/

theorem splitAt_eq_splitOn (separator : Char) (chars : List Char) :
    splitAt separator chars = chars.splitOn separator := by
  induction chars with
  | nil => rfl
  | cons c rest ih =>
    rw [splitAt, List.splitOn_cons_eq_if_modifyHead, ih]
    by_cases hc : c = separator
    · rw [if_pos hc, if_pos (beq_iff_eq.2 hc)]
    · rw [if_neg hc, if_neg (mt beq_iff_eq.1 hc)]
      cases hparts : rest.splitOn separator with
      | nil => exact absurd hparts (List.splitOn_ne_nil _ _)
      | cons part parts => rfl

theorem not_mem_of_mem_splitAt {separator : Char} {chars part : List Char}
    (hpart : part ∈ splitAt separator chars) :
    separator ∉ part := by
  induction chars generalizing part with
  | nil =>
    obtain rfl := List.mem_singleton.1 hpart
    exact List.not_mem_nil
  | cons c rest ih =>
    rw [splitAt] at hpart
    split at hpart
    · rcases List.mem_cons.1 hpart with rfl | hpart
      · exact List.not_mem_nil
      · exact ih hpart
    · rename_i hc
      cases hparts : splitAt separator rest with
      | nil =>
        rw [hparts, List.mem_singleton] at hpart
        rw [hpart, List.mem_singleton]
        exact Ne.symm hc
      | cons first parts =>
        rw [hparts] at hpart ih
        rcases List.mem_cons.1 hpart with rfl | hpart
        · rw [List.mem_cons, not_or]
          exact ⟨Ne.symm hc, ih List.mem_cons_self⟩
        · exact ih (List.mem_cons_of_mem _ hpart)

theorem flatMap_splitAt (separator : Char) (chars : List Char) :
    ((splitAt separator chars).flatMap fun part => separator :: part) = separator :: chars := by
  have hparts : chars.splitOn separator ≠ [] := List.splitOn_ne_nil _ _
  rw [splitAt_eq_splitOn]
  cases hsplit : chars.splitOn separator with
  | nil => exact absurd hsplit hparts
  | cons first parts =>
    have htext : [separator].intercalate (chars.splitOn separator) = chars :=
      List.intercalate_splitOn separator
    rw [hsplit, intercalate_cons] at htext
    rw [List.flatMap_cons, List.cons_append, ← htext]
    rfl

theorem splitAt_flatMap {separator : Char} {first : List Char} {parts : List (List Char)}
    (hfirst : separator ∉ first) (hparts : ∀ part ∈ parts, separator ∉ part) :
    splitAt separator (first ++ parts.flatMap fun part => separator :: part) = first :: parts := by
  have htext := intercalate_cons [separator] first parts
  rw [splitAt_eq_splitOn]
  simp only [List.singleton_append] at htext
  rw [← htext]
  exact List.splitOn_intercalate separator (List.forall_mem_cons.2 ⟨hfirst, hparts⟩)
    (List.cons_ne_nil _ _)

/-! ### Escaping -/

/-- A text in which every tilde is followed by a zero or a one. -/
def WellEscaped (text : List Char) : Prop :=
  ∀ before after, text = before ++ '~' :: after → after.head? = some '0' ∨ after.head? = some '1'

/-- What an escaped text stands for, read from left to right. A tilde with nothing to escape stands for
nothing. -/
def decodeToken? : List Char → Option (List Char)
  | [] => some []
  | '~' :: '0' :: rest => (decodeToken? rest).map ('~' :: ·)
  | '~' :: '1' :: rest => (decodeToken? rest).map ('/' :: ·)
  | c :: rest => if c = '~' then none else (decodeToken? rest).map (c :: ·)

/-- What the steps of a pointer stand for. Only the empty pointer starts without a slash. -/
def decodePointer? : List Char → Option (List (List Char))
  | [] => some []
  | c :: rest => if c = '/' then (rest.splitOn '/').mapM decodeToken? else none

theorem WellEscaped.tail {c : Char} {rest : List Char} (hescaped : WellEscaped (c :: rest)) :
    WellEscaped rest := by
  rintro before after rfl
  exact hescaped (c :: before) after rfl

theorem WellEscaped.of_append {text rest : List Char} (hescaped : WellEscaped (text ++ rest))
    (hrest : rest.head? ≠ some '0' ∧ rest.head? ≠ some '1') : WellEscaped text := by
  rintro before after rfl
  have hafter := hescaped before (after ++ rest) (by simp)
  cases after with
  | nil => exact absurd hafter (not_or.2 hrest)
  | cons c after => exact hafter

theorem WellEscaped.part {parts : List (List Char)}
    (hescaped : WellEscaped (parts.flatMap fun part => '/' :: part)) {part : List Char}
    (hpart : part ∈ parts) : WellEscaped part := by
  induction parts with
  | nil => cases hpart
  | cons first parts ih =>
    rw [List.flatMap_cons, List.cons_append] at hescaped
    rcases List.mem_cons.1 hpart with rfl | hpart
    · refine hescaped.tail.of_append ?_
      cases parts with
      | nil => simp
      | cons next parts => simp
    · refine ih ?_ hpart
      rintro before after hsplit
      exact hescaped.tail (first ++ before) after (by rw [hsplit, List.append_assoc])

theorem exists_decodeToken? {part : List Char} (hescaped : WellEscaped part) :
    ∃ token, decodeToken? part = some token := by
  induction part using decodeToken?.induct with
  | case1 => exact ⟨[], rfl⟩
  | case2 rest ih =>
    obtain ⟨token, hdecode⟩ := ih hescaped.tail.tail
    exact ⟨'~' :: token, by rw [decodeToken?, hdecode, Option.map_some]⟩
  | case3 rest ih =>
    obtain ⟨token, hdecode⟩ := ih hescaped.tail.tail
    exact ⟨'/' :: token, by rw [decodeToken?, hdecode, Option.map_some]⟩
  | case4 rest hzero hone =>
    rcases hescaped [] rest rfl with hnext | hnext <;> obtain ⟨after, rfl⟩ :=
      List.head?_eq_some_iff.1 hnext
    · exact (hzero after rfl rfl).elim
    · exact (hone after rfl rfl).elim
  | case5 c rest hzero hone hc ih =>
    obtain ⟨token, hdecode⟩ := ih hescaped.tail
    exact ⟨c :: token, by rw [decodeToken?, if_neg hc, hdecode, Option.map_some] <;> assumption⟩

theorem escapeToken_cons (c : Char) (token : List Char) :
    escapeToken (c :: token) = escapeTokenChar c ++ escapeToken token := rfl

theorem escapeToken_of_plain {token : List Char} (hplain : ∀ c ∈ token, c ≠ '~' ∧ c ≠ '/') :
    escapeToken token = token := by
  induction token with
  | nil => rfl
  | cons c token ih =>
    obtain ⟨⟨htilde, hslash⟩, htoken⟩ := List.forall_mem_cons.1 hplain
    rw [escapeToken_cons, escapeTokenChar, if_neg htilde, if_neg hslash, ih htoken,
      List.singleton_append]

theorem decodeToken?_escapeToken (token : List Char) :
    decodeToken? (escapeToken token) = some token := by
  induction token with
  | nil => rfl
  | cons c token ih =>
    rw [escapeToken_cons, escapeTokenChar]
    split
    · rename_i hc
      subst hc
      exact congrArg (Option.map _) ih
    · rename_i htilde
      split
      · rename_i hc
        subst hc
        exact congrArg (Option.map _) ih
      · rw [List.singleton_append, decodeToken?, if_neg htilde, ih, Option.map_some]
        · exact fun _ hc _ => htilde hc
        · exact fun _ hc _ => htilde hc

theorem escapeToken_of_decode {part token : List Char} (hslash : '/' ∉ part)
    (hdecode : decodeToken? part = some token) :
    escapeToken token = part := by
  induction part using decodeToken?.induct generalizing token with
  | case1 =>
    cases hdecode
    rfl
  | case2 rest ih =>
    rw [decodeToken?, Option.map_eq_some_iff] at hdecode
    obtain ⟨token, hdecode, rfl⟩ := hdecode
    rw [escapeToken_cons, ih (fun hmem => hslash (by simp [hmem])) hdecode]
    rfl
  | case3 rest ih =>
    rw [decodeToken?, Option.map_eq_some_iff] at hdecode
    obtain ⟨token, hdecode, rfl⟩ := hdecode
    rw [escapeToken_cons, ih (fun hmem => hslash (by simp [hmem])) hdecode]
    rfl
  | case4 rest hzero hone =>
    rw [decodeToken?, if_pos rfl] at hdecode
    · cases hdecode
    · exact hzero
    · exact hone
  | case5 c rest hzero hone hc ih =>
    rw [decodeToken?, if_neg hc, Option.map_eq_some_iff] at hdecode
    · obtain ⟨token, hdecode, rfl⟩ := hdecode
      obtain ⟨hslash, hrest⟩ := not_or.1 (mt List.mem_cons.2 hslash)
      rw [escapeToken_cons, ih hrest hdecode, escapeTokenChar, if_neg hc, if_neg (Ne.symm hslash)]
      rfl
    · exact hzero
    · exact hone

theorem slash_not_mem_escapeToken (token : List Char) : '/' ∉ escapeToken token := by
  intro hmem
  obtain ⟨c, _, hmem⟩ := List.mem_flatMap.1 hmem
  unfold escapeTokenChar at hmem
  split at hmem
  · simp at hmem
  · split at hmem
    · simp at hmem
    · rename_i hc
      exact hc (List.mem_singleton.1 hmem).symm

theorem unescapeSlashes_cons {c : Char} (hc : c ≠ '~') (rest : List Char) :
    unescapeSlashes (c :: rest) = c :: unescapeSlashes rest := by
  rw [unescapeSlashes]
  exact fun _ hc' _ => hc hc'

theorem unescapeTildes_cons {c : Char} (hc : c ≠ '~') (rest : List Char) :
    unescapeTildes (c :: rest) = c :: unescapeTildes rest := by
  rw [unescapeTildes]
  exact fun _ hc' _ => hc hc'

theorem unescapeStep_cons {c : Char} (hc : c ≠ '~') (rest : List Char) :
    unescapeStep (c :: rest) = c :: unescapeStep rest := by
  rw [unescapeStep, unescapeSlashes_cons hc, unescapeTildes_cons hc]
  rfl

theorem unescapeStep_tilde (rest : List Char) :
    unescapeStep ('~' :: '0' :: rest) = '~' :: unescapeStep rest := by
  have hslashes : unescapeSlashes ('~' :: '0' :: rest) = '~' :: '0' :: unescapeSlashes rest := by
    rw [unescapeSlashes, unescapeSlashes_cons (by decide)]
    rintro rest - ⟨⟩
  rw [unescapeStep, hslashes, unescapeTildes]
  rfl

theorem unescapeStep_slash (rest : List Char) :
    unescapeStep ('~' :: '1' :: rest) = '/' :: unescapeStep rest := by
  rw [unescapeStep, unescapeSlashes, unescapeTildes_cons (by decide)]
  rfl

/-- The two replacements do not get in each other's way: no tilde that the second one writes was there
for the first. -/
theorem unescapeStep_escapeToken (token : List Char) : unescapeStep (escapeToken token) = token := by
  induction token with
  | nil => rfl
  | cons c token ih =>
    rw [escapeToken_cons, escapeTokenChar]
    split
    · rename_i hc
      rw [List.cons_append, List.singleton_append, unescapeStep_tilde, ih, hc]
    · rename_i htilde
      split
      · rename_i hc
        rw [List.cons_append, List.singleton_append, unescapeStep_slash, ih, hc]
      · rw [List.singleton_append, unescapeStep_cons htilde, ih]

/-! ### Following steps -/

/-- Adds a digit to the number that the ones before it write. -/
def addDigit (value : Option Nat) (c : Char) : Option Nat := do
  let value ← value
  if '0' ≤ c ∧ c ≤ '9' then some (value * 10 + (c.toNat - '0'.toNat)) else none

theorem foldl_addDigit_none (text : List Char) : text.foldl addDigit none = none := by
  induction text with
  | nil => rfl
  | cons c text ih => exact ih

theorem foldl_addDigit_eq_some_iff {text : List Char} {value number : Nat} :
    text.foldl addDigit (some value) = some number ↔
      AllDigits text ∧ Nat.ofDigitChars 10 text value = number := by
  induction text generalizing value with
  | nil => simp [AllDigits]
  | cons c text ih =>
    have hdigits : AllDigits (c :: text) ↔ c.isDigit = true ∧ AllDigits text := List.forall_mem_cons
    have hdigit : ('0' ≤ c ∧ c ≤ '9') ↔ c.isDigit = true := Char.isDigit_iff_toNat.symm
    have hadd : addDigit (some value) c = if '0' ≤ c ∧
        c ≤ '9' then some (value * 10 + (c.toNat - '0'.toNat)) else none := rfl
    rw [List.foldl_cons, hadd, hdigits, Nat.ofDigitChars_cons, Nat.mul_comm 10]
    by_cases hc : c.isDigit = true
    · rw [if_pos (hdigit.2 hc), ih]
      simp [hc]
    · rw [if_neg (mt hdigit.1 hc), foldl_addDigit_none]
      simp [hc]

theorem decimal?_eq_some_iff {text : List Char} {number : Nat} :
    decimal? text = some number ↔ text ≠ [] ∧ AllDigits text ∧ digitsValue text = number := by
  cases text with
  | nil => simp [decimal?]
  | cons c text =>
    have hfold : decimal? (c :: text) = (c :: text).foldl addDigit (some 0) := rfl
    rw [hfold, foldl_addDigit_eq_some_iff, digitsValue]
    simp

theorem indexOfStep?_eq_some_iff {token : List Char} {index : Nat} :
    indexOfStep? token = some index ↔ Decimal.natChars index = token := by
  unfold Decimal.natChars
  constructor
  · -- digits without a leading zero are those of the number that they write
    intro hindex
    unfold indexOfStep? at hindex
    split at hindex
    · cases hindex
    · rename_i hzero
      obtain ⟨hne, hdigits, rfl⟩ := decimal?_eq_some_iff.1 hindex
      refine toDigits_digitsValue hdigits hne fun hhead => ?_
      obtain ⟨rest, rfl⟩ := List.head?_eq_some_iff.1 hhead
      cases rest with
      | nil => rfl
      | cons c rest => exact (hzero c rest rfl).elim
  · rintro rfl
    have hnumber : decimal? (Nat.toDigits 10 index) = some index := decimal?_eq_some_iff.2
      ⟨Nat.toDigits_ne_nil, fun _ hc => Nat.isDigit_of_mem_toDigits (by decide) (by decide) hc,
        Nat.ofDigitChars_toDigits (by decide) (by decide)⟩
    unfold indexOfStep?
    split
    · rename_i hdigits
      have hhead := head?_toDigits (congrArg List.head? hdigits)
      rw [hhead] at hdigits
      simp at hdigits
    · exact hnumber

theorem Value.step?_eq_some_iff {value part : Value} {token : List Char} :
    value.step? token = some part ↔ ∃ step :
      PathStep, step.token = token ∧ value.part? step = some part := by
  constructor
  · -- the value tells which kind of step it is: digits are a key of an object, and an index of a list
    intro hstep
    unfold Value.step? at hstep
    split at hstep
    · exact ⟨.key (String.ofList token), String.toList_ofList, hstep⟩
    · obtain ⟨index, hindex, hitem⟩ := Option.bind_eq_some_iff.1 hstep
      exact ⟨.index index, indexOfStep?_eq_some_iff.1 hindex, hitem⟩
    · cases hstep
  · rintro ⟨step, rfl, hpart⟩
    unfold Value.part? at hpart
    split at hpart
    · rw [PathStep.token, Value.step?, String.ofList_toList]
      exact hpart
    · rw [PathStep.token, Value.step?, indexOfStep?_eq_some_iff.2 rfl]
      exact hpart
    · cases hpart

theorem Value.steps?_eq_some_iff {value node : Value} {tokens : List (List Char)} :
    value.steps? tokens = some node ↔ ∃ path :
      List PathStep, path.map PathStep.token = tokens ∧ value.nodeAt? path = some node := by
  induction tokens generalizing value with
  | nil => simp [Value.steps?, Value.nodeAt?]
  | cons token tokens ih =>
    have hsteps : value.steps? (token :: tokens) = (value.step? token).bind fun part =>
        part.steps? tokens := rfl
    rw [hsteps, Option.bind_eq_some_iff]
    constructor
    · rintro ⟨part, hstep, hrest⟩
      obtain ⟨step, htoken, hpart⟩ := Value.step?_eq_some_iff.1 hstep
      obtain ⟨path, htokens, hnode⟩ := ih.1 hrest
      refine ⟨step :: path, by rw [List.map_cons, htoken, htokens], ?_⟩
      rw [Value.nodeAt?, hpart, Option.bind_some, hnode]
    · rintro ⟨path, htokens, hnode⟩
      obtain ⟨step, path, rfl, htoken, htokens⟩ := List.map_eq_cons_iff.1 htokens
      obtain ⟨part, hpart, hrest⟩ := Option.bind_eq_some_iff.1 hnode
      exact ⟨part, Value.step?_eq_some_iff.2 ⟨step, htoken, hpart⟩, ih.2 ⟨path, htokens, hrest⟩⟩

/-! ### Following pointers -/

theorem mapM_decodeToken?_eq_some_iff {parts tokens : List (List Char)}
    (hslash : ∀ part ∈ parts, '/' ∉ part) :
    parts.mapM decodeToken? = some tokens ↔ tokens.map escapeToken = parts := by
  induction parts generalizing tokens with
  | nil => simp [eq_comm]
  | cons part parts ih =>
    obtain ⟨hpart, hparts⟩ := List.forall_mem_cons.1 hslash
    have hdecode : (part :: parts).mapM decodeToken? =
        (decodeToken? part).bind fun token => (parts.mapM decodeToken?).bind fun tokens =>
          some (token :: tokens) := List.mapM_cons
    rw [hdecode, Option.bind_eq_some_iff, List.map_eq_cons_iff]
    constructor
    · rintro ⟨token, htoken, hrest⟩
      obtain ⟨tokens, htokens, hrest⟩ := Option.bind_eq_some_iff.1 hrest
      cases hrest
      exact ⟨token, tokens, rfl, escapeToken_of_decode hpart htoken, (ih hparts).1 htokens⟩
    · rintro ⟨token, tokens, rfl, rfl, htokens⟩
      refine ⟨token, decodeToken?_escapeToken token, ?_⟩
      rw [(ih hparts).2 htokens, Option.bind_some]

/-- Decoding a pointer undoes its writing. -/
theorem decodePointer?_eq_some_iff {pointer : List Char} {tokens : List (List Char)} :
    decodePointer? pointer = some tokens ↔
      (tokens.flatMap fun token => '/' :: escapeToken token) = pointer := by
  have hwritten : (tokens.flatMap fun token => '/' :: escapeToken token) =
      (tokens.map escapeToken).flatMap fun part => '/' :: part :=
    (List.flatMap_map escapeToken _ _).symm
  rw [hwritten]
  unfold decodePointer?
  split
  · cases tokens with
    | nil => simp
    | cons token tokens => simp
  · rename_i c rest
    rw [← splitAt_eq_splitOn]
    split
    · rename_i hc
      subst hc
      have hslash : ∀ part ∈ splitAt '/' rest, '/' ∉ part :=
        fun part hpart => not_mem_of_mem_splitAt hpart
      rw [mapM_decodeToken?_eq_some_iff hslash]
      constructor
      · intro hparts
        rw [hparts, flatMap_splitAt]
      · intro htext
        cases tokens with
        | nil => cases htext
        | cons token tokens =>
          rw [List.map_cons, List.flatMap_cons, List.cons_append] at htext
          have hrest := (List.cons.inj htext).2
          rw [← hrest, splitAt_flatMap (slash_not_mem_escapeToken token), List.map_cons]
          exact List.forall_mem_map.2 fun token _ => slash_not_mem_escapeToken token
    · rename_i hc
      cases tokens with
      | nil => simp
      | cons token tokens =>
        constructor
        · rintro ⟨⟩
        · intro htext
          exact absurd (List.cons.inj htext).1.symm hc

theorem exists_decodePointer? {rest : List Char} (hescaped : WellEscaped ('/' :: rest)) :
    ∃ tokens, decodePointer? ('/' :: rest) = some tokens := by
  rw [← flatMap_splitAt] at hescaped
  have hparts : ∀ part ∈ splitAt '/' rest, part ∈ Set.range escapeToken := by
    intro part hpart
    obtain ⟨token, hdecode⟩ := exists_decodeToken? (hescaped.part hpart)
    exact ⟨token, escapeToken_of_decode (not_mem_of_mem_splitAt hpart) hdecode⟩
  obtain ⟨tokens, htokens⟩ : splitAt '/' rest ∈ Set.range (List.map escapeToken) := by
    rw [Set.range_list_map]
    exact hparts
  refine ⟨tokens, decodePointer?_eq_some_iff.2 ?_⟩
  rw [← flatMap_splitAt, ← htokens, List.flatMap_map]

/-- A pointer that can be decoded leads along the paths that have its tokens. -/
theorem Value.pointer?_eq_some_iff_of_decode {value node : Value} {pointer : String}
    {tokens : List (List Char)} (hdecode : decodePointer? pointer.toList = some tokens) :
    value.pointer? pointer = some node ↔ ∃ path :
      List PathStep, path.map PathStep.token = tokens ∧ value.nodeAt? path = some node := by
  rw [decodePointer?_eq_some_iff] at hdecode
  have hpointer : value.pointer? pointer = value.steps? tokens := by
    unfold Value.pointer?
    cases tokens with
    | nil =>
      rw [← hdecode]
      rfl
    | cons token tokens =>
      have hparts : splitAt '/'
          (escapeToken token ++ tokens.flatMap fun token => '/' :: escapeToken token) =
          (token :: tokens).map escapeToken := by
        have hslash : ∀ part ∈ tokens.map escapeToken, '/' ∉ part :=
          List.forall_mem_map.2 fun token _ => slash_not_mem_escapeToken token
        have hsplit := splitAt_flatMap (slash_not_mem_escapeToken token) hslash
        rwa [List.flatMap_map] at hsplit
      have hundone : unescapeStep ∘ escapeToken = id := funext unescapeStep_escapeToken
      rw [← hdecode, List.flatMap_cons, List.cons_append]
      simp only [hparts, List.map_map, hundone, List.map_id]
  rw [hpointer, Value.steps?_eq_some_iff]

theorem decodePointer?_pointerTo (path : List PathStep) :
    decodePointer? (pointerTo path).toList = some (path.map PathStep.token) := by
  rw [decodePointer?_eq_some_iff, List.flatMap_map, pointerTo, String.toList_ofList]

theorem Value.pointer?_pointerTo {value node : Value} {path : List PathStep}
    (hnode : value.nodeAt? path = some node) :
    value.pointer? (pointerTo path) = some node :=
  (Value.pointer?_eq_some_iff_of_decode (decodePointer?_pointerTo path)).2 ⟨path, rfl, hnode⟩

/-- A pointer in which tildes only escape leads to nothing but the node along the path that it decodes
to. -/
theorem Value.exists_path_of_pointer? {value node : Value} {pointer : String}
    (hescaped : WellEscaped pointer.toList) (hpointer : value.pointer? pointer = some node) :
    ∃ path : List PathStep, decodePointer? pointer.toList = some (path.map PathStep.token) ∧
      pointerTo path = pointer ∧
      value.nodeAt? path = some node := by
  have hdecode : ∃ tokens, decodePointer? pointer.toList = some tokens := by
    unfold Value.pointer? at hpointer
    split at hpointer
    · rename_i hempty
      exact ⟨[], by rw [hempty]; rfl⟩
    · rename_i rest hrest
      rw [hrest] at hescaped ⊢
      exact exists_decodePointer? hescaped
    · cases hpointer
  obtain ⟨tokens, hdecode⟩ := hdecode
  obtain ⟨path, rfl, hnode⟩ := (Value.pointer?_eq_some_iff_of_decode hdecode).1 hpointer
  rw [decodePointer?_eq_some_iff, List.flatMap_map] at hdecode
  have hwritten : pointerTo path = pointer :=
    String.toList_inj.1 (by rw [pointerTo, String.toList_ofList, hdecode])
  exact ⟨path, hwritten ▸ decodePointer?_pointerTo path, hwritten, hnode⟩

end SchemaTyping.Json
