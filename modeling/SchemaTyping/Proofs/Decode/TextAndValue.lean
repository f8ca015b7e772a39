import SchemaTyping.Proofs.Decode.AnyText
import SchemaTyping.Proofs.Decode.TargetAgreement

/-!
# Typed readings of a text and of its value

What a text is read as is what its parsed value is read as, and a refusal names the same path. This is
said of the texts in which no object repeats a key: with a repeated key the value has lost a member that
the text still has. Whether a key is repeated can only be seen in the tree that the text spells, so the
statement goes through that tree; every text that is parsed has one (`exists_parsedAs`).
-/

namespace SchemaTyping.Decode

open Json (Value IsBlank Spells EndsValue Cursor parse readValue depthLimit reading)

/-- A text starts with a spelling of a tree, and is parsed as that tree with its repeated keys
settled. -/
structure ParsedAs (text : String) (tree : Value) : Prop where
  spelled : ∃ blank body rest, text.toList = blank ++ (body ++ rest) ∧ IsBlank blank ∧ Spells tree body
  nests : tree.NestsWithin depthLimit
  parsed : parse text = .ok tree.settled

theorem exists_parsedAs {text : String} {value : Value} (hparse : parse text = .ok value) :
    ∃ tree, ParsedAs text tree ∧ value = tree.settled := by
  obtain ⟨blank, body, rest, tree, htext, hblank, hspells, hnests, rfl⟩ :=
    Json.exists_spelling_of_parse hparse
  exact ⟨tree, ⟨⟨blank, body, rest, htext, hblank, hspells⟩, hnests, hparse⟩, rfl⟩

theorem parsedAs_render {value : Value} (hintegers : value.IntegersOnly)
    (hnests : value.NestsWithin depthLimit) (hdistinct : value.DistinctKeys) :
    ParsedAs value.render value where
  spelled := ⟨[], value.chars, [],
    by rw [Value.render, String.toList_ofList, List.append_nil, List.nil_append], Json.isBlank_nil,
    Json.spells_chars hintegers⟩
  nests := hnests
  parsed := by rw [Json.parse_render hintegers hnests hdistinct, Json.settled_of_distinctKeys hdistinct]

theorem number_of_settled {tree : Value} {n : Json.Number} (hsettled : tree.settled = .number n) :
    tree = .number n := by
  cases tree with
  | array items => cases Json.settled_array items ▸ hsettled
  | object members => cases Json.settled_object members ▸ hsettled
  | number other =>
    rw [Value.settled] at hsettled
    exact hsettled
  | _ =>
    rw [Value.settled] at hsettled
    cases hsettled

/-- A number at the start of a text ends where its reader stops. -/
theorem placed_of_readValue {n : Json.Number} {cursor after : Cursor}
    (hread : readValue depthLimit cursor = .ok (.number n, after)) :
    Placed (.number n) depthLimit cursor after.rest := by
  obtain ⟨blank, body, tree, hblank, hrest, hspells, hnests, hsettled⟩ :=
    Json.exists_spelling_of_readValue hread
  obtain rfl := number_of_settled hsettled.symm
  refine ⟨⟨blank, body, hblank, hspells, hrest⟩, hnests, ?_⟩
  rintro _ ⟨⟩
  obtain ⟨text, offset⟩ := cursor
  obtain rfl : text = blank ++ (body ++ after.rest) := hrest
  obtain ⟨offset', hskip⟩ := Json.rest_skipBlanks_append hblank (hspells.startsWith after.rest) offset
  cases hspells with
  | @number numeral _ hnumber =>
    obtain ⟨c, tail, hchars, hc⟩ := numeral.exists_chars_cons
    rw [← readValue_skipBlanks, hskip, hchars, List.cons_append] at hread ⊢
    rw [← readValue_numeral hc _ depthLimit, hread]
    rfl

theorem ParsedAs.exists_placed {text : String} {tree : Value} (hparsed : ParsedAs text tree) :
    ∃ rest, Placed tree depthLimit (Cursor.start text.toList) rest := by
  -- where a number ends depends on what follows it, so its end is asked of the reader
  by_cases hnumber : ∃ n, tree = .number n
  · obtain ⟨n, rfl⟩ := hnumber
    obtain ⟨after, hread⟩ := Json.parse_eq_ok_iff.1 hparsed.parsed
    rw [Value.settled] at hread
    exact ⟨after.rest, placed_of_readValue hread⟩
  · obtain ⟨blank, body, rest, htext, hblank, hspells⟩ := hparsed.spelled
    exact ⟨rest, ⟨blank, body, hblank, hspells, htext⟩, hparsed.nests,
      fun n hn => absurd ⟨n, hn⟩ hnumber⟩

theorem ParsedAs.exists_stands {text : String} {tree : Value} (hparsed : ParsedAs text tree)
    (hdistinct : tree.DistinctKeys) :
    ∃ rest, Stands tree depthLimit (Cursor.start text.toList) rest := by
  obtain ⟨rest, hplaced⟩ := hparsed.exists_placed
  exact ⟨rest, hplaced.stands hdistinct⟩

/-- **Typed reading does not depend on whether a text or its parsed value is read.** Every text that is
parsed spells a tree. If no object of the tree repeats a key, the tree is what the text is parsed as, and
for every target the text is accepted exactly when the tree is, with the same result. If both are refused
for a mismatch, the mismatch is the same: its path, and also its reason. -/
theorem ofText_agrees_ofValue :
    (∀ text value, parse text = .ok value → ∃ tree, ParsedAs text tree ∧ value = tree.settled) ∧
    ∀ target text tree, ParsedAs text tree → tree.DistinctKeys →
      ofText .any text = .ok tree ∧
      (∀ x, ofText target text = .ok x ↔ ofValue target tree = .ok x) ∧
      ∀ mismatch mismatch' place place', ofText target text = .error (.mismatched mismatch place) →
        ofValue target tree = .error (.mismatched mismatch' place') → mismatch = mismatch' := by
  refine ⟨fun text value => exists_parsedAs, fun target text tree hparsed hdistinct => ?_⟩
  have hparse := hparsed.parsed
  rw [Json.settled_of_distinctKeys hdistinct] at hparse
  obtain ⟨rest, hstands⟩ := hparsed.exists_stands hdistinct
  have hagrees := target.agrees depthLimit tree _ _ hstands
  refine ⟨ofText_any_eq_ok_iff.2 hparse, ?_⟩
  rw [ofText, ofValue]
  generalize target.read depthLimit (Cursor.start text.toList) = read at hagrees ⊢
  generalize target.ofValue tree = seen at hagrees ⊢
  cases hagrees with
  | ok offset =>
    refine ⟨fun x => Iff.rfl, fun _ _ _ _ htext => ?_⟩
    cases htext
  | malformed fault mismatch =>
    refine ⟨fun x => ?_, fun _ _ _ _ htext => ?_⟩
    · constructor <;> intro haccepted <;> cases haccepted
    · cases htext
  | mismatched mismatch offset =>
    refine ⟨fun x => ?_, fun _ _ _ _ htext hvalue => ?_⟩
    · constructor <;> intro haccepted <;> cases haccepted
    · cases htext
      cases hvalue
      rfl

/-- A profile with an unknown member, whose second tag is no string. -/
def mistaggedProfile : Value :=
  .object [("extra", .array [.null]), ("name", .string "n"),
    ("tags", .array [.string "a", .number (.int 5)])]

theorem mistaggedProfile_refused_alike :
    (∀ x, ofText profileRecord mistaggedProfile.render = .ok x ↔
      ofValue profileRecord mistaggedProfile = .ok x) ∧
      ∃ mismatch place,
        ofText profileRecord mistaggedProfile.render = .error (.mismatched mismatch place) ∧
        ofValue profileRecord mistaggedProfile = .error (.mismatched mismatch none) ∧
        pathText mismatch.path = "tags[1]" := by
  have hdistinct : mistaggedProfile.DistinctKeys := by
    have hextra : (Value.array [.null]).DistinctKeys :=
      .intro nofun (List.forall_mem_singleton.2 (.of_no_parts nofun rfl))
    have htags : (Value.array [.string "a", .number (.int 5)]).DistinctKeys :=
      .intro nofun
        (List.forall_mem_cons.2
          ⟨.of_no_parts nofun rfl, List.forall_mem_singleton.2 (.of_no_parts nofun rfl)⟩)
    refine .intro (fun members hobject => ?_)
      (List.forall_mem_cons.2
        ⟨hextra, List.forall_mem_cons.2 ⟨.of_no_parts nofun rfl, List.forall_mem_singleton.2 htags⟩⟩)
    cases hobject
    decide
  have hintegers : mistaggedProfile.IntegersOnly := by
    have hextra : (Value.array [.null]).IntegersOnly :=
      .intro trivial (List.forall_mem_singleton.2 (.of_no_parts trivial rfl))
    have htags : (Value.array [.string "a", .number (.int 5)]).IntegersOnly :=
      .intro trivial
        (List.forall_mem_cons.2
          ⟨.of_no_parts trivial rfl,
            List.forall_mem_singleton.2 (.of_no_parts ⟨by decide, by decide⟩ rfl)⟩)
    exact .intro trivial
      (List.forall_mem_cons.2
        ⟨hextra, List.forall_mem_cons.2 ⟨.of_no_parts trivial rfl, List.forall_mem_singleton.2 htags⟩⟩)
  have hshallow : mistaggedProfile.NestsWithin 2 := by decide
  have hparsed := parsedAs_render hintegers (hshallow.mono (by decide)) hdistinct
  obtain ⟨_, haccepted, hrefused⟩ := ofText_agrees_ofValue.2 profileRecord _ _ hparsed hdistinct
  have htext : ofText profileRecord mistaggedProfile.render =
      .error (.mismatched ⟨[.key "tags", .index 1], .invalidType (.number (.int 5)) "a string"⟩
        (some ⟨1, 40⟩)) := by cbv
  have hvalue : ∃ mismatch,
      ofValue profileRecord mistaggedProfile = .error (.mismatched mismatch none) := ⟨_, by cbv⟩
  obtain ⟨mismatch, hvalue⟩ := hvalue
  obtain rfl := hrefused _ _ _ _ htext hvalue
  exact ⟨haccepted, _, _, htext, hvalue, by cbv⟩

end SchemaTyping.Decode
