import SchemaTyping.Proofs.Json.Pointer
import SchemaTyping.Proofs.Query.RoundTrip

/-!
# Paths of fields

A filter that writes keys after points leads from the input to the node under these keys. Its text is
read in stages, each with a lemma on what it makes of such a text: the text is cut into a token for each
key (`tokens?_fieldPath`), the tokens make a step for each key (`term?_fields`), and the steps are
followed from object to object (`followAll_fields`). So the query for such a path gives the node that the
keys lead to, if texts give it back (`runQueryForOne_fieldPath`).
-/

namespace SchemaTyping.Query

open Json (Value Members PathStep)
open Text (StartsWith startsWith_nil startsWith_cons)

/-- A key that can be written after a point: letters, digits and underscores, of which the first is no
digit. No word is reserved there. -/
structure IsIdentifier (key : String) : Prop where
  nonempty : key ≠ ""
  characters : ∀ c ∈ key.toList, c.isAlphanum = true ∨ c = '_'
  start : StartsWith (fun c => c.isDigit = false) key.toList

instance : DecidablePred IsIdentifier := fun key =>
  decidable_of_iff
    (key ≠ "" ∧ (key.toList.all fun c => c.isAlphanum || c = '_') ∧
      key.toList.head?.all fun c => !c.isDigit)
    ⟨fun ⟨hnonempty, hcharacters, hstart⟩ =>
      ⟨hnonempty, by simpa using hcharacters, by simpa [StartsWith, Option.all_eq_true] using hstart⟩,
      fun ⟨hnonempty, hcharacters, hstart⟩ =>
        ⟨hnonempty, by simpa using hcharacters, by simpa [StartsWith, Option.all_eq_true] using hstart⟩⟩

def fieldPath (keys : List String) : String := String.join (keys.map fun key => "." ++ key)

/-! ### Cutting into tokens -/

theorem IsIdentifier.exists_word {key : String} (hkey : IsIdentifier key) :
    ∃ first more, key.toList = first :: more ∧ isWordStart first = true ∧ ∀ c ∈ more,
      isWordChar c = true := by
  obtain ⟨hnonempty, hcharacters, hstart⟩ := hkey
  cases hchars : key.toList with
  | nil => exact absurd (String.toList_eq_nil_iff.1 hchars) hnonempty
  | cons first more =>
    rw [hchars] at hcharacters hstart
    obtain ⟨hfirst, hmore⟩ := List.forall_mem_cons.1 hcharacters
    have hdigit : first.isDigit = false := hstart first rfl
    refine ⟨first, more, rfl, ?_, fun c hc => by simpa [isWordChar] using hmore c hc⟩
    simpa [isWordStart, Char.isAlphanum, hdigit] using hfirst

theorem toList_fieldPath (keys : List String) :
    (fieldPath keys).toList = keys.flatMap fun key => '.' :: key.toList := by
  rw [fieldPath, String.toList_join, List.flatMap_map]
  simp only [String.toList_append]
  rfl

/-- A key ends where a character stands that no word goes on with. -/
theorem tokensWithin_field {first : Char} {more rest : List Char} {tokens : List Token} {budget : Nat}
    {within : List Delimiter} (hfirst : isWordStart first = true)
    (hmore : ∀ c ∈ more, isWordChar c = true) (hrest : StartsWith (fun c => isWordChar c = false) rest)
    (htokens : tokensWithin budget within rest = some tokens) :
    tokensWithin (budget + 1) within ('.' :: first :: (more ++ rest)) =
      some (.field (String.ofList (first :: more)) :: tokens) := by
  have hpoint : first ≠ '.' := by
    rintro rfl
    cases hfirst
  have hstop : rest.takeWhile isWordChar = [] ∧ rest.dropWhile isWordChar = rest := by
    cases rest with
    | nil => exact ⟨rfl, rfl⟩
    | cons c rest =>
      have hc : isWordChar c = false := hrest c rfl
      simp [hc]
  have htake : (more ++ rest).takeWhile isWordChar = more := by
    rw [List.takeWhile_append_of_pos hmore, hstop.1, List.append_nil]
  have hdrop : (more ++ rest).dropWhile isWordChar = rest := by
    rw [List.dropWhile_append_of_pos hmore, hstop.2]
  have hblank : Text.isBlank '.' = false := by decide
  have hstart : isWordStart '.' = false := by decide
  rw [tokensWithin.eq_def]
  simp only [hblank, hstart, Bool.false_eq_true, if_false, if_pos, Char.reduceEq, hfirst, htake, hdrop,
    htokens]
  rfl

theorem tokensWithin_fieldPath {keys : List String} (hkeys : ∀ key ∈ keys, IsIdentifier key)
    (budget : Nat) :
    tokensWithin (keys.length + budget) [] (keys.flatMap fun key => '.' :: key.toList) =
      some (keys.map Token.field) := by
  induction keys with
  | nil => cases budget <;> rfl
  | cons key keys ih =>
    obtain ⟨hkey, hkeys⟩ := List.forall_mem_cons.1 hkeys
    obtain ⟨first, more, hchars, hfirst, hmore⟩ := hkey.exists_word
    have hnext : StartsWith (fun c => isWordChar c = false)
        (keys.flatMap fun key => '.' :: key.toList) := by
      cases keys with
      | nil => exact startsWith_nil _
      | cons key keys => exact startsWith_cons (by decide) _
    have htoken := tokensWithin_field hfirst hmore hnext (ih hkeys)
    rw [← hchars, String.ofList_toList] at htoken
    rw [List.flatMap_cons, hchars, List.length_cons, Nat.add_right_comm]
    exact htoken

theorem tokens?_fieldPath {keys : List String} (hkeys : ∀ key ∈ keys, IsIdentifier key) :
    tokens? (fieldPath keys) = some (keys.map Token.field) := by
  have hlength : keys.length ≤ (keys.flatMap fun key => '.' :: key.toList).length := by
    have hsum := List.length_le_sum_of_one_le (keys.map fun key => ('.' :: key.toList).length)
      (List.forall_mem_map.2 fun key _ => Nat.succ_le_succ (Nat.zero_le _))
    rwa [List.length_map, ← List.length_flatMap] at hsum
  obtain ⟨budget, hbudget⟩ := Nat.exists_eq_add_of_le hlength
  rw [tokens?, toList_fieldPath, hbudget, tokensWithin_fieldPath hkeys]

/-! ### Reading steps -/

/-- The step that a key makes, which fails if it cannot be taken. -/
def fieldStep (key : String) : Step × Bool := (.index (.string key), false)

/-- The filter that follows keys from the input. -/
def fields (keys : List String) : Filter := .path .identity (keys.map fieldStep)

theorem forgiving_fields (keys : List String) :
    forgiving (keys.map Token.field) = (false, keys.map Token.field) := by
  cases keys <;> rfl

theorem steps?_fields (keys : List String) (budget : Nat) :
    steps? (keys.length + budget + 1) (keys.map Token.field) = some (keys.map fieldStep, []) := by
  induction keys with
  | nil => rfl
  | cons key keys ih =>
    rw [List.length_cons, Nat.add_right_comm keys.length 1, List.map_cons, List.map_cons, steps?]
    simp only [Option.bind_eq_bind, Option.bind_some, forgiving_fields, ih]
    rfl

theorem term?_fields {keys : List String} (hkeys : keys ≠ []) (budget : Nat) :
    term? (keys.length + budget + 3) true (keys.map Token.field) = some (fields keys, []) := by
  obtain ⟨key, more, rfl⟩ := List.exists_cons_of_ne_nil hkeys
  have hsource : source? ((key :: more).length + budget + 1) ((key :: more).map Token.field) =
      some (.identity, (key :: more).map Token.field) := by
    rw [List.map_cons, source?.eq_def]
  have hattempts : attempts .identity ((key :: more).map Token.field) =
      (.identity, (key :: more).map Token.field) := rfl
  have hoperand : operand? ((key :: more).length + budget + 2) ((key :: more).map Token.field) =
      some (fields (key :: more), []) := by
    rw [operand?]
    simp only [Option.bind_eq_bind, Option.bind_some, hsource, hattempts, steps?_fields]
    rfl
  rw [term?]
  simp only [Option.bind_eq_bind, Option.bind_some, hoperand]
  rw [operandsAfter?]
  rfl

theorem parse?_fieldPath {keys : List String} (hidentifiers : ∀ key ∈ keys, IsIdentifier key)
    (hkeys : keys ≠ []) :
    Filter.parse? (fieldPath keys) = some (fields keys) := by
  have hhead : (headWords.any fun word => (keys.map Token.field).head? = some (.word word)) = false := by
    cases keys <;> rfl
  have hbudget : 8 * ((keys.map Token.field).length + 1) = keys.length + (7 * keys.length + 5) + 3 := by
    rw [List.length_map]
    omega
  rw [Filter.parse?, tokens?_fieldPath hidentifiers]
  simp only [Option.bind_eq_bind, Option.bind_some, hhead, hbudget, term?_fields hkeys]
  rfl

theorem unknown_fields (keys : List String) (names : Names) : (fields keys).unknown names = [] := by
  have hsteps : unknownInSteps names (keys.map fieldStep) = [] := by
    induction keys with
    | nil => rw [List.map_nil, unknownInSteps]
    | cons key keys ih =>
      rw [List.map_cons, fieldStep, unknownInSteps, Step.unknown, Filter.unknown, ih, List.append_nil]
  rw [fields, Filter.unknown, Filter.unknown, hsteps, List.append_nil]

theorem compile_fieldPath {keys : List String} (hidentifiers : ∀ key ∈ keys, IsIdentifier key)
    (hkeys : keys ≠ []) :
    compile (fieldPath keys) = .ok (fields keys) := by
  rw [compile, parse?_fieldPath hidentifiers hkeys]
  simp only [unknown_fields]

/-! ### Following steps -/

theorem stepAccesses_fields {run : Place → Filter → Outputs Datum}
    (hrun : ∀ place text, run place (.string text) = .one (.string text)) (place : Place)
    (keys : List String) :
    stepAccesses run place (keys.map fieldStep) =
      .one (keys.map fun key => (.index (.string key), false)) := by
  induction keys with
  | nil => rfl
  | cons key keys ih =>
    rw [List.map_cons, fieldStep, stepAccesses, Step.accesses, hrun, Outputs.map_one, Outputs.pair_one,
      ih, Outputs.map_one, Outputs.map_one]
    rfl

/-- Keys lead to a document's nodes as they do to the nodes of what a filter sees of it. -/
theorem followAll_fields {value node : Value} {keys : List String}
    (hnode : value.nodeAt? (keys.map PathStep.key) = some node) (place : Place) :
    followAll place (keys.map fun key => (.index (.string key), false)) (.ofJson value) =
      .one (.ofJson node) := by
  induction keys generalizing value place with
  | nil =>
    cases hnode
    rfl
  | cons key keys ih =>
    obtain ⟨part, hpart, hrest⟩ := Option.bind_eq_some_iff.1 hnode
    cases value with
    | object members =>
      have hfollow : (Access.index (.string key)).follow place (.ofJson (.object members)) =
          .one (.ofJson part) := by
        have hlookup : members.lookup key = some part := hpart
        rw [Access.follow, Datum.ofJson, Datum.atIndex, entriesOfJson_eq_map, Json.lookup_map_values,
          hlookup]
        rfl
      rw [List.map_cons, followAll, hfollow]
      simp only [Bool.false_eq_true, if_false, Outputs.bindNumbered_one]
      exact ih hrest _
    | _ => cases hpart

theorem outputs_fields {value node : Value} {keys : List String}
    (hnode : value.nodeAt? (keys.map PathStep.key) = some node) :
    (fields keys).outputs (.ofJson value) = .one (.ofJson node) := by
  obtain ⟨places, hrun⟩ := run_path_identity 99999998 [] .empty (.ofJson value) (keys.map fieldStep)
  rw [stepAccesses_fields (fun place text => run_string _ place _ _ text), Outputs.bindNumbered_one,
    followAll_fields hnode] at hrun
  exact hrun

/-- The query for a path of fields gives the node that the keys lead to. -/
theorem runQueryForOne_fieldPath {value node : Value} {keys : List String}
    (hidentifiers : ∀ key ∈ keys, IsIdentifier key) (hkeys : keys ≠ [])
    (hnode : value.nodeAt? (keys.map PathStep.key) = some node) (hlossless : Lossless node) :
    runQueryForOne (fieldPath keys) value = .ok node := by
  rw [runQueryForOne_eq_ok_iff, runQuery_of_compile (compile_fieldPath hidentifiers hkeys),
    outputs_fields hnode]
  exact documentsAfter_ofList (List.forall_mem_singleton.2 hlossless) []

end SchemaTyping.Query
