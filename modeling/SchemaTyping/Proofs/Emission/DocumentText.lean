import SchemaTyping.Emission.Document
import SchemaTyping.Proofs.Decode.AnyText

/-!
# Converting the text of a document

A document is converted from its text as it is from its value, whichever of the value's spellings the
text is. Only the start of the text is looked at: what stands behind the document is never read, so it
need not be JSON, nor blank.
-/

namespace SchemaTyping.Emission

open Json (Value IsBlank isBlank_nil SpellsUnit SpellsChars SpellsSequence Spells EndsValue depthLimit)

theorem convertText_of_parse {text : String} {value : Value} (hparse : Json.parse text = .ok value)
    (options : Options) :
    convertText options text = convert options value := by
  rw [convertText, hparse]

/-- All layouts of a tree are read as one value, and converted alike. -/
theorem layouts_converted_alike {tree : Value} (hdepth : tree.NestsWithin depthLimit) :
    (∀ before body after, IsBlank before → Spells tree body → IsBlank after →
      Decode.ofText .any (String.ofList (before ++ (body ++ after))) = .ok tree.settled ∧
        ∀ options, convertText options (String.ofList (before ++ (body ++ after))) =
          convert options tree.settled) ∧
    (tree.IntegersOnly → tree.DistinctKeys → Decode.ofText .any tree.render = .ok tree) := by
  constructor
  · intro before body after hbefore hspells hafter
    have hparse := Json.parse_spelling hspells hdepth hbefore after fun _ _ => hafter.endsValue
    exact ⟨Decode.ofText_any_eq_ok_iff.2 hparse, convertText_of_parse hparse⟩
  · intro hintegers hdistinct
    exact Decode.ofText_any_eq_ok_iff.2 (Json.parse_render hintegers hdepth hdistinct)

/-- A record of which the first key is written twice, a text of it with blanks and escapes, and the value
that it is read as. -/
def repeatedKey : Value :=
  .object [("a", .string "é😀"), ("b", .array [.null, .number (.int (-5))]), ("a", .string "\n")]

def repeatedKeyLayout : String :=
  "\t\x7b\"a\" : \"\\u00E9\\uD83d\\ude00\" ,\"b\":[null, -5 ],\"\\u0061\":\"\\n\"\x7d\r"

def repeatedKeySettled : Value :=
  .object [("a", .string "\n"), ("b", .array [.null, .number (.int (-5))])]

theorem exists_repeatedKey_spelling :
    ∃ body, Spells repeatedKey body ∧
      String.ofList (['\t'] ++ (body ++ ['\r'])) = repeatedKeyLayout := by
  have hspace : IsBlank [' '] := by decide
  have hplain : ∀ key : String, SpellsChars key.toList (key.toList.flatMap Json.escapeChar) :=
    fun key => Json.spellsChars_flatMap _
  have haccented : SpellsChars ['é', '😀'] _ :=
    .cons (.unit (by decide) (by decide +kernel : SpellsUnit 'é'.toNat ['0', '0', 'E', '9']))
      (.cons (.pair (by decide) (by decide +kernel : SpellsUnit (Json.highUnit '😀') ['D', '8', '3', 'd'])
        (by decide +kernel : SpellsUnit (Json.lowUnit '😀') ['d', 'e', '0', '0'])) .nil)
  have hescaped : SpellsChars ['a'] _ :=
    .cons (.unit (by decide) (by decide : SpellsUnit 'a'.toNat ['0', '0', '6', '1'])) .nil
  have hitems : SpellsSequence Spells ']' true [.null, .number (.int (-5))] _ :=
    .item (.first isBlank_nil) .null
      (.item (.next isBlank_nil hspace) (Json.spells_int_iff.2 ⟨rfl, by decide, by decide⟩)
        (.close hspace))
  exact ⟨_, .object (.item (.first isBlank_nil) (.mk (hplain "a") hspace hspace (.string haccented))
    (.item (.next hspace isBlank_nil) (.mk (hplain "b") isBlank_nil isBlank_nil (.array hitems))
      (.item (.next isBlank_nil isBlank_nil)
        (.mk hescaped isBlank_nil isBlank_nil (.string (hplain "\n"))) (.close isBlank_nil)))),
    by decide +kernel⟩

theorem repeatedKey_converted_settled :
    (Decode.ofText .any repeatedKeyLayout = .ok repeatedKeySettled ∧
      ∀ options, convertText options repeatedKeyLayout = convert options repeatedKeySettled) ∧
    Decode.ofText .any repeatedKeySettled.render = .ok repeatedKeySettled := by
  have hdepth : repeatedKey.NestsWithin depthLimit := by decide +kernel
  have hdepth' : repeatedKeySettled.NestsWithin depthLimit := by decide +kernel
  have hsettled : repeatedKey.settled = repeatedKeySettled := by decide +kernel
  obtain ⟨body, hspells, htext⟩ := exists_repeatedKey_spelling
  have hlayout := (layouts_converted_alike hdepth).1 ['\t'] body ['\r'] (by decide) hspells (by decide)
  rw [htext, hsettled] at hlayout
  have hintegers : repeatedKeySettled.IntegersOnly := by
    have hitems : (Value.array [.null, .number (.int (-5))]).IntegersOnly :=
      .intro trivial
        (List.forall_mem_cons.2
          ⟨.of_no_parts trivial rfl,
            List.forall_mem_singleton.2 (.of_no_parts ⟨by decide, by decide⟩ rfl)⟩)
    exact .intro trivial
      (List.forall_mem_cons.2 ⟨.of_no_parts trivial rfl, List.forall_mem_singleton.2 hitems⟩)
  have hdistinct : repeatedKeySettled.DistinctKeys := by
    have hitems : (Value.array [.null, .number (.int (-5))]).DistinctKeys :=
      .intro nofun
        (List.forall_mem_cons.2
          ⟨.of_no_parts nofun rfl, List.forall_mem_singleton.2 (.of_no_parts nofun rfl)⟩)
    refine .intro (fun members hobject => ?_)
      (List.forall_mem_cons.2 ⟨.of_no_parts nofun rfl, List.forall_mem_singleton.2 hitems⟩)
    cases hobject
    decide
  exact ⟨hlayout, (layouts_converted_alike hdepth').2 hintegers hdistinct⟩

/-! ### Behind the document -/

/-- A spelling of a tree is read as that tree with its repeated keys settled and converted like it, with
anything behind it that does not go on with a number. -/
theorem text_behind_document_unread {tree : Value} {before body : List Char} (hbefore : IsBlank before)
    (hspells : Spells tree body) (hdepth : tree.NestsWithin depthLimit) (rest : List Char)
    (hends : ∀ n, tree = .number n → EndsValue rest) :
    Decode.ofText .any (String.ofList (before ++ (body ++ rest))) = .ok tree.settled ∧
      ∀ options, convertText options (String.ofList (before ++ (body ++ rest))) =
        convert options tree.settled := by
  have hparse := Json.parse_spelling hspells hdepth hbefore rest hends
  exact ⟨Decode.ofText_any_eq_ok_iff.2 hparse, convertText_of_parse hparse⟩

theorem text_behind_emptyDocument_unread :
    Decode.ofText .any "\x7b\x7d x" = .ok (.object []) ∧ ∀ options,
      convertText options "\x7b\x7d x" = convert options (.object []) :=
  text_behind_document_unread Json.isBlank_nil (.object (.close Json.isBlank_nil))
    (by decide +kernel) [' ', 'x'] nofun

/-- A text is accepted that is no document between blanks. -/
theorem malformed_tail_accepted :
    Decode.ofText .any "\x7b\x7d x" = .ok (.object []) ∧
      (∀ options, convertText options "\x7b\x7d x" = convert options (.object [])) ∧
      ¬ ∃ before tree body after, "\x7b\x7d x".toList = before ++ (body ++ after) ∧ IsBlank before ∧
      Spells tree body ∧
        tree.settled = .object [] ∧ IsBlank after := by
  have hparse : Json.parse "\x7b\x7d x" = .ok (.object []) := by cbv
  refine ⟨Decode.ofText_any_eq_ok_iff.2 hparse, convertText_of_parse hparse, ?_⟩
  rintro ⟨before, tree, body, after, htext, hbefore, hspells, hsettled, hafter⟩
  rw [Json.eq_of_settled_nil hsettled] at hspells
  have hletter : 'x' ∈ before ++ (body ++ after) := by
    rw [← htext]
    decide
  have hnone : ∀ blank, IsBlank blank → 'x' ∉ blank :=
    fun blank hblank hmem => absurd (hblank 'x' hmem) (by decide)
  cases hspells with
  | object hmembers =>
    cases hmembers with
    | close hblank =>
      simp [hnone before hbefore, hnone after hafter, hnone _ hblank] at hletter

end SchemaTyping.Emission
