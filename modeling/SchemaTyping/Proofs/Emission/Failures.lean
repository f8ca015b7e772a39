import SchemaTyping.Proofs.Emission.PostOrder

/-!
# How a conversion fails

A conversion refuses a document before it emits anything: one that is no object, and one whose
definitions are no object (`convert_cases`). Once it emits, only the strict policy can make it fail. Of
the two keys that may hold definitions just one is read, and the other has no say in the result: where
`definitions` is read, what `$defs` holds can only show in a warning that prints the whole root
(`convert_defs_unread`).
-/

namespace SchemaTyping.Emission

open Json (Value Members)
open Schema (Node classify classifyMembers)
open Typing (TypeExpr renderModule)

/-! ### The definitions of a document -/

/-- The key and the value that a document's definitions are read from: the first of the two keys that is
there with a value other than `null`. -/
inductive HoldsDefinitions (document : Members) : String → Value → Prop
  | definitions {value : Value} (hvalue : document.lookup "definitions" = some value)
    (hnull : value ≠ .null) :
    HoldsDefinitions document "definitions" value
  | defs {value : Value}
    (hmissing : document.lookup "definitions" = none ∨ document.lookup "definitions" = some .null)
    (hvalue : document.lookup "$defs" = some value) (hnull : value ≠ .null) :
    HoldsDefinitions document "$defs" value

/-- A key with its value, if it is there with a value other than `null`. -/
def heldUnder (document : Members) (key : String) : Option (String × Value) :=
  match document.lookup key with
  | none | some .null => none
  | some value => some (key, value)

theorem heldUnder_eq_some_iff {document : Members} {key key' : String} {value : Value} :
    heldUnder document key = some (key', value) ↔ key' = key ∧ document.lookup key = some value ∧
      value ≠ .null := by
  unfold heldUnder
  constructor
  · intro hheld
    split at hheld
    · cases hheld
    · cases hheld
    · rename_i hnull hvalue
      cases hheld
      exact ⟨rfl, hvalue, hnull⟩
  · rintro ⟨rfl, hvalue, hnull⟩
    rw [hvalue]
    cases value with
    | null => exact absurd rfl hnull
    | _ => rfl

theorem heldUnder_eq_none_iff {document : Members} {key : String} :
    heldUnder document key = none ↔ document.lookup key = none ∨ document.lookup key = some .null := by
  unfold heldUnder
  cases document.lookup key with
  | none => exact ⟨fun _ => .inl rfl, fun _ => rfl⟩
  | some value =>
    cases value with
    | null => exact ⟨fun _ => .inr rfl, fun _ => rfl⟩
    | _ =>
      refine ⟨nofun, ?_⟩
      rintro (hmissing | hmissing) <;> cases hmissing

theorem definitionsOf?_eq (document : Members) :
    definitionsOf? document = (heldUnder document "definitions").or (heldUnder document "$defs") := by
  have hkeys : definitionsOf? document = definitionKeys.findSome? (heldUnder document) := rfl
  rw [hkeys, definitionKeys, List.findSome?_cons, List.findSome?_singleton]
  cases heldUnder document "definitions" <;> rfl

theorem definitionsOf?_eq_some_iff {document : Members} {key : String} {value : Value} :
    definitionsOf? document = some (key, value) ↔ HoldsDefinitions document key value := by
  rw [definitionsOf?_eq, Option.or_eq_some_iff, heldUnder_eq_some_iff, heldUnder_eq_none_iff,
    heldUnder_eq_some_iff]
  constructor
  · rintro (⟨rfl, hvalue, hnull⟩ | ⟨hmissing, rfl, hvalue, hnull⟩)
    · exact .definitions hvalue hnull
    · exact .defs hmissing hvalue hnull
  · intro hholds
    cases hholds with
    | definitions hvalue hnull => exact .inl ⟨rfl, hvalue, hnull⟩
    | defs hmissing hvalue hnull => exact .inr ⟨hmissing, rfl, hvalue, hnull⟩

/-- The definitions of a document are none, or an object, or refused under the key that holds them. -/
theorem definitions_cases (document : Members) :
    (∃ found, definitions document = .ok found ∧ ∀ key value, HoldsDefinitions document key value →
      value = .object found) ∨
      ∃ key value mismatch, definitions document = .error mismatch ∧
        HoldsDefinitions document key value ∧
        (∀ found, value ≠ .object found) ∧ mismatch.path = [.key key] := by
  cases hheld : definitionsOf? document with
  | none =>
    refine .inl ⟨[], by rw [definitions, hheld], fun key value hholds => ?_⟩
    rw [definitionsOf?_eq_some_iff.2 hholds] at hheld
    cases hheld
  | some held =>
    obtain ⟨key, value⟩ := held
    have hholds := definitionsOf?_eq_some_iff.1 hheld
    have hunique : ∀ key' value', HoldsDefinitions document key' value' → value' = value := by
      intro key' value' hholds'
      rw [definitionsOf?_eq_some_iff.2 hholds'] at hheld
      exact (Prod.mk.inj (Option.some.inj hheld)).2
    cases value with
    | object found => exact .inl ⟨found, by rw [definitions, hheld], hunique⟩
    | _ => exact .inr ⟨key, _, _, by rw [definitions, hheld], hholds, nofun, rfl⟩

/-! ### What a conversion does -/

/-- The definitions of a document are read from under a key and are no object. -/
def RefusedUnder (document : Value) (key : String) : Prop :=
  ∃ members value, document = .object members ∧ HoldsDefinitions members key value ∧ ∀ found,
    value ≠ .object found

def Accepted (document : Value) (members found : Members) : Prop :=
  document = .object members ∧ definitions members = .ok found ∧
    ∀ key value, HoldsDefinitions members key value → value = .object found

/-- A conversion refuses what is no object, refuses definitions that are no object, or emits. -/
theorem convert_cases (options : Options) (document : Value) :
    ((∀ members, document ≠ .object members) ∧
      convert options document = (.error (.notAnObject document.kind), [])) ∨
      (∃ key mismatch, RefusedUnder document key ∧ mismatch.path = [.key key] ∧
        convert options document = (.error (.mismatched mismatch none), [])) ∨
      ∃ members found, Accepted document members found := by
  cases document with
  | object members =>
    obtain ⟨found, hfound, hholds⟩ | ⟨key, value, mismatch, hrefused, hholds, hother, hpath⟩ :=
      definitions_cases members
    · exact .inr (.inr ⟨members, found, rfl, hfound, hholds⟩)
    · refine .inr (.inl ⟨key, mismatch, ⟨members, value, rfl, hholds, hother⟩, hpath, ?_⟩)
      rw [convert_object, hrefused]
  | _ => exact .inl ⟨nofun, rfl⟩

def resultOf (options : Options) : Except RepeatedName TypeExpr × Generator →
    Except ConversionError String × List Event
  | (.ok root, generator) =>
    (.ok (renderModule options.rootAlias generator.declarations root), generator.log)
  | (.error repeated, generator) => (.error (.repeatedName repeated.name), generator.log)

theorem resultOf_log (options : Options) (run : Except RepeatedName TypeExpr × Generator) :
    (resultOf options run).2 = run.2.log := by
  obtain ⟨_ | _, _⟩ := run <;> rfl

theorem convert_of_definitions {members found : Members} (hfound : definitions members = .ok found)
    (options : Options) :
    convert options (.object members) =
      resultOf options (runFrom (emitDocument options members found) .empty) := by
  rw [convert_object, hfound]
  cases hrun : runFrom (emitDocument options members found) .empty with
  | mk outcome after => cases outcome <;> simp only [hrun, resultOf]

/-- Once a conversion emits, it fails under the strict policy only, and on a repeated name. -/
theorem Accepted.error_eq {document : Value} {members found : Members}
    (haccepted : Accepted document members found) {options : Options} {error : ConversionError}
    (hresult : (convert options document).1 = .error error) :
    options.collisions = .error ∧ ∃ name, error = .repeatedName name := by
  obtain ⟨rfl, hfound, _⟩ := haccepted
  rw [convert_of_definitions hfound] at hresult
  cases hrun : runFrom (emitDocument options members found) .empty with
  | mk outcome after =>
    rw [hrun] at hresult
    cases outcome with
    | ok root => cases hresult
    | error repeated =>
      cases hresult
      refine ⟨?_, repeated.name, rfl⟩
      cases hpolicy : options.collisions with
      | error => rfl
      | warn =>
        rw [emitDocument_eq_script, hpolicy, runFrom_bind_of_ok (runFrom_warn _ _)] at hrun
        cases hrun

theorem Accepted.not_refused {document : Value} {members found : Members}
    (haccepted : Accepted document members found) (key : String) : ¬ RefusedUnder document key := by
  rintro ⟨members', value, hdocument, hholds, hother⟩
  obtain ⟨rfl, _, hobject⟩ := haccepted
  cases hdocument
  exact hother found (hobject key value hholds)

theorem RefusedUnder.unique {document : Value} {key key' : String} (hrefused : RefusedUnder document key)
    (hrefused' : RefusedUnder document key') : key = key' := by
  obtain ⟨members, value, rfl, hholds, _⟩ := hrefused
  obtain ⟨members', value', hdocument, hholds', _⟩ := hrefused'
  cases hdocument
  have hsame := (definitionsOf?_eq_some_iff.2 hholds).symm.trans (definitionsOf?_eq_some_iff.2 hholds')
  exact (Prod.mk.inj (Option.some.inj hsame)).1

theorem convert_notAnObject_iff (options : Options) (document : Value) :
    (∃ kind, (convert options document).1 = .error (.notAnObject kind)) ↔
      ∀ members, document ≠ .object members := by
  obtain ⟨hother, hconvert⟩ | ⟨key, mismatch, ⟨members, _, rfl, _⟩, _, hconvert⟩ |
      ⟨members, found, haccepted⟩ :=
    convert_cases options document
  · exact ⟨fun _ => hother, fun _ => ⟨document.kind, by rw [hconvert]⟩⟩
  · constructor
    · rintro ⟨kind, hresult⟩
      rw [hconvert] at hresult
      cases hresult
    · intro hother
      exact absurd rfl (hother members)
  · constructor
    · rintro ⟨kind, hresult⟩
      obtain ⟨_, name, herror⟩ := haccepted.error_eq hresult
      cases herror
    · intro hother
      exact absurd haccepted.1 (hother members)

theorem convert_mismatched_iff (options : Options) (document : Value) (key : String) :
    (∃ mismatch location, (convert options document).1 = .error (.mismatched mismatch location) ∧
      Decode.pathText mismatch.path = key) ↔ RefusedUnder document key := by
  have hpathText : ∀ key, Decode.pathText [.key key] = key := fun key => String.append_empty
  obtain ⟨hother, hconvert⟩ | ⟨held, mismatch, hrefused, hpath, hconvert⟩ |
      ⟨members, found, haccepted⟩ := convert_cases options document
  · constructor
    · rintro ⟨mismatch, location, hresult, _⟩
      rw [hconvert] at hresult
      cases hresult
    · rintro ⟨members, _, hdocument, _⟩
      exact absurd hdocument (hother members)
  · constructor
    · rintro ⟨mismatch', location, hresult, rfl⟩
      rw [hconvert] at hresult
      cases hresult
      rwa [hpath, hpathText]
    · intro hrefused'
      refine ⟨mismatch, none, by rw [hconvert], ?_⟩
      rw [hpath, hpathText, hrefused.unique hrefused']
  · constructor
    · rintro ⟨mismatch, location, hresult, _⟩
      obtain ⟨_, name, herror⟩ := haccepted.error_eq hresult
      cases herror
    · intro hrefused
      exact absurd hrefused (haccepted.not_refused key)

theorem convert_warn_ok_iff {options : Options} (hpolicy : options.collisions = .warn)
    (document : Value) :
    (∃ text, (convert options document).1 = .ok text) ↔ (∃ members, document = .object members) ∧
      ∀ key, ¬ RefusedUnder document key := by
  constructor
  · rintro ⟨text, hresult⟩
    obtain ⟨_, hconvert⟩ | ⟨_, _, _, _, hconvert⟩ | ⟨members, found, haccepted⟩ :=
      convert_cases options document
    · rw [hconvert] at hresult
      cases hresult
    · rw [hconvert] at hresult
      cases hresult
    · exact ⟨⟨members, haccepted.1⟩, haccepted.not_refused⟩
  · rintro ⟨⟨members, hdocument⟩, hnone⟩
    obtain ⟨hother, _⟩ | ⟨key, _, hrefused, _, _⟩ | ⟨_, found, haccepted⟩ :=
      convert_cases options document
    · exact absurd hdocument (hother members)
    · exact absurd hrefused (hnone key)
    · cases hresult : (convert options document).1 with
      | ok text => exact ⟨text, rfl⟩
      | error error =>
        obtain ⟨hstrict, _⟩ := haccepted.error_eq hresult
        rw [hpolicy] at hstrict
        cases hstrict

/-- A document that is refused leaves no trace. -/
theorem log_of_refused {options : Options} {document : Value} {error : ConversionError}
    (hresult : (convert options document).1 = .error error)
    (hrefused : ∀ name, error ≠ .repeatedName name) :
    (convert options document).2 = [] := by
  obtain ⟨_, hconvert⟩ | ⟨_, _, _, _, hconvert⟩ | ⟨members, found, haccepted⟩ :=
    convert_cases options document
  · rw [hconvert]
  · rw [hconvert]
  · obtain ⟨_, name, herror⟩ := haccepted.error_eq hresult
    exact absurd herror (hrefused name)

/-! ### The key that is not read -/

theorem classifyMembers_congr {members others : Members}
    (hsame : ∀ key, key ≠ "$defs" → members.lookup key = others.lookup key) :
    classifyMembers members = classifyMembers others := by
  simp only [classifyMembers, Schema.classifyType, Schema.properties?, Schema.requiredNames,
    hsame "enum" (by decide), hsame "$ref" (by decide), hsame "type" (by decide),
    hsame "anyOf" (by decide), hsame "properties" (by decide), hsame "required" (by decide),
    hsame "items" (by decide)]

/-- The schema of a root is told from other keys than `$defs`, unless the root is not recognised. -/
theorem ofValue_congr {members others : Members}
    (hsame : ∀ key, key ≠ "$defs" → members.lookup key = others.lookup key) {value : Value}
    (hpresent : members.lookup "definitions" = some value)
    (hshape : classify (.object members) ≠ .unrecognized) :
    Node.ofValue (.object members) = Node.ofValue (.object others) := by
  have hothers : others.lookup "definitions" = some value := by
    rw [← hsame "definitions" (by decide), hpresent]
  have hshapes : classify (.object members) = classify (.object others) := by
    rw [Schema.classify_object hpresent, Schema.classify_object hothers, classifyMembers_congr hsame]
  rw [Node.ofValue_eq, Node.ofValue_eq (.object others), ← hshapes]
  generalize classify (.object members) = shape at hshape ⊢
  cases shape with
  | unrecognized => exact absurd rfl hshape
  | array item? => cases item? <;> rfl
  | _ => rfl

theorem definitions_congr {members others : Members}
    (hsame : ∀ key, key ≠ "$defs" → members.lookup key = others.lookup key) {value : Value}
    (hpresent : members.lookup "definitions" = some value) (hnull : value ≠ .null) :
    definitions members = definitions others := by
  have hothers : others.lookup "definitions" = some value := by
    rw [← hsame "definitions" (by decide), hpresent]
  unfold definitions
  rw [definitionsOf?_eq_some_iff.2 (.definitions hpresent hnull),
    definitionsOf?_eq_some_iff.2 (.definitions hothers hnull)]

theorem runFrom_emit_unrecognized (policy : CollisionPolicy) (property : String) {value : Value}
    (hshape : classify value = .unrecognized) (generator : Generator) :
    runFrom (emit policy property (Node.ofValue value)) generator =
      (.ok .any, generator.record (.unknownNode property value)) := by
  rw [Node.ofValue_eq, hshape, emit]
  rfl

theorem runFrom_emitDocument_congr (options : Options) {members others : Members} (found : Members)
    (hsame : classify (.object members) ≠ .unrecognized →
      Node.ofValue (.object members) = Node.ofValue (.object others))
    (hprinted : ∀ property, Event.unknownNode property (.object members) ∉
      (runFrom (emitDocument options members found) .empty).2.log) :
    runFrom (emitDocument options others found) .empty =
      runFrom (emitDocument options members found) .empty := by
  by_cases hshape : classify (.object members) = .unrecognized
  · -- the root comes last: either a definition fails before it, or the log ends with the root's warning
    unfold emitDocument at hprinted ⊢
    cases hdefinitions : runFrom (emitDefinitions options.collisions found.reverse) .empty with
    | mk outcome after =>
      cases outcome with
      | error repeated => rw [runFrom_bind_of_error hdefinitions, runFrom_bind_of_error hdefinitions]
      | ok _ =>
        rw [runFrom_bind_of_ok hdefinitions, runFrom_emit_unrecognized _ _ hshape] at hprinted
        exact absurd (List.mem_append_right _ List.mem_cons_self) (hprinted options.rootName)
  · rw [emitDocument, emitDocument, hsame hshape]

/-- Where `definitions` is read, `$defs` may be replaced, added or removed without a trace, unless the
root itself is printed in a warning. -/
theorem convert_defs_unread (options : Options) {members others : Members}
    (hsame : ∀ key, key ≠ "$defs" → members.lookup key = others.lookup key) {value : Value}
    (hpresent : members.lookup "definitions" = some value) (hnull : value ≠ .null)
    (hprinted : ∀ property,
      Event.unknownNode property (.object members) ∉ (convert options (.object members)).2) :
    convert options (.object others) = convert options (.object members) := by
  have hdefinitions := definitions_congr hsame hpresent hnull
  cases hfound : definitions members with
  | error mismatch => rw [convert_object, convert_object, ← hdefinitions, hfound]
  | ok found =>
    have hothers : definitions others = .ok found := by rw [← hdefinitions, hfound]
    rw [convert_of_definitions hfound, resultOf_log] at hprinted
    rw [convert_of_definitions hothers, convert_of_definitions hfound,
      runFrom_emitDocument_congr options found (ofValue_congr hsame hpresent) hprinted]

/-- Conversions fail on what is no object and on definitions that are no object, before anything is
emitted, and under the warning policy on nothing else. Of `definitions` and `$defs` only the one that is
read matters. -/
theorem failures_before_emission (options : Options) (document : Value) :
    ((∃ kind, (convert options document).1 = .error (.notAnObject kind)) ↔
      ∀ members, document ≠ .object members) ∧
    (∀ key, (∃ mismatch location, (convert options document).1 = .error (.mismatched mismatch location) ∧
      Decode.pathText mismatch.path = key) ↔ RefusedUnder document key) ∧
    (options.collisions = .warn → ((∃ text, (convert options document).1 = .ok text) ↔
      (∃ members, document = .object members) ∧ ∀ key, ¬ RefusedUnder document key)) ∧
    (∀ error, (convert options document).1 = .error error → (∀ name, error ≠ .repeatedName name) →
      (convert options document).2 = []) ∧
    ∀ members others value, document = .object members →
      (∀ key, key ≠ "$defs" → members.lookup key = others.lookup key) →
      members.lookup "definitions" = some value → value ≠ .null →
      (∀ property, .unknownNode property document ∉ (convert options document).2) →
      convert options (.object others) = convert options document := by
  refine ⟨convert_notAnObject_iff options document, convert_mismatched_iff options document,
    fun hpolicy => convert_warn_ok_iff hpolicy document, fun error hresult hrefused =>
      log_of_refused hresult hrefused, ?_⟩
  rintro members others value rfl hsame hpresent hnull hprinted
  exact convert_defs_unread options hsame hpresent hnull hprinted

/-- A record with a definition, and with a `$defs` that is no object and not read. -/
def definedBesideDefs : Members :=
  [("definitions", .object [("A", .object [("enum", .array [.string "x"])])]),
    ("$defs", .number (.int 5)), ("type", .string "object")]

def definedAlone : Members :=
  [("definitions", .object [("A", .object [("enum", .array [.string "x"])])]),
    ("type", .string "object")]

theorem defs_refused_or_unread :
    (∃ kind, (convert {} (.string "x")).1 = .error (.notAnObject kind)) ∧
      (convert {} (.string "x")).2 = [] ∧
    (∃ mismatch location,
      (convert {} (.object [("$defs", .array [.null])])).1 = .error (.mismatched mismatch location) ∧
      Decode.pathText mismatch.path = "$defs") ∧
    (∃ text, (convert {} (.object definedBesideDefs)).1 = .ok text) ∧
    convert {} (.object definedAlone) = convert {} (.object definedBesideDefs) := by
  have hlog : (convert {} (.object definedBesideDefs)).2 = [.declared "A", .declared "Root"] := rfl
  have hsame : ∀ key, key ≠ "$defs" → definedBesideDefs.lookup key = definedAlone.lookup key := by
    intro key hkey
    simp only [definedBesideDefs, definedAlone, List.lookup_cons, beq_false_of_ne hkey]
  have hhold : ∀ key value, HoldsDefinitions definedBesideDefs key value →
      ∃ found, value = .object found := by
    intro key value hholds
    cases hholds with
    | definitions hvalue hnull => exact ⟨_, (Option.some.inj hvalue).symm⟩
    | defs hmissing hvalue hnull => obtain hmissing | hmissing := hmissing <;> cases hmissing
  obtain ⟨hnotObject, _, _, hsilent, _⟩ := failures_before_emission {} (.string "x")
  obtain ⟨_, hrefused, _⟩ := failures_before_emission {} (.object [("$defs", .array [.null])])
  obtain ⟨_, _, hok, _, hunread⟩ := failures_before_emission {} (.object definedBesideDefs)
  refine ⟨hnotObject.2 nofun, hsilent _ rfl nofun, (hrefused "$defs").2 ?_, (hok rfl).2 ?_, ?_⟩
  · exact ⟨_, _, rfl, .defs (.inl rfl) rfl nofun, nofun⟩
  · refine ⟨⟨_, rfl⟩, fun key ⟨members, value, hdocument, hholds, hother⟩ => ?_⟩
    cases hdocument
    obtain ⟨found, hobject⟩ := hhold key value hholds
    exact hother found hobject
  · refine hunread _ _ _ rfl hsame rfl nofun fun property => ?_
    rw [hlog]
    simp

end SchemaTyping.Emission
