import SchemaTyping.Proofs.Text.Caseless

/-!
# Texts on one line

A text is on one line if neither of the characters that end a line is in it. Capitalising a text does not
bring one in, since both are caseless.
-/

namespace SchemaTyping.Text

/-- The characters that end a line. -/
def breaks : List Char := ['\n', '\r']

/-- Texts without the characters that end a line. -/
def OneLine (text : List Char) : Prop := ∀ c ∈ text, c ∉ breaks

instance (text : List Char) : Decidable (OneLine text) := List.decidableBAll (· ∉ breaks) text

@[simp] theorem oneLine_nil : OneLine [] := List.forall_mem_nil _

@[simp] theorem oneLine_cons {c : Char} {text : List Char} :
    OneLine (c :: text) ↔ c ∉ breaks ∧ OneLine text :=
  List.forall_mem_cons

@[simp] theorem oneLine_append {first second : List Char} :
    OneLine (first ++ second) ↔ OneLine first ∧ OneLine second :=
  List.forall_mem_append

theorem OneLine.of_subset {text whole : List Char} (hsubset : text ⊆ whole) (hwhole : OneLine whole) :
    OneLine text :=
  fun c hc => hwhole c (hsubset hc)

theorem OneLine.flatMap {α : Type} {items : List α} {f : α → List Char}
    (hitems : ∀ item ∈ items, OneLine (f item)) :
    OneLine (items.flatMap f) := by
  intro c hc
  obtain ⟨item, hitem, hc⟩ := List.mem_flatMap.1 hc
  exact hitems item hitem c hc

theorem OneLine.newline_not_mem {text : List Char} (hline : OneLine text) : '\n' ∉ text :=
  fun hmem => hline '\n' hmem List.mem_cons_self

theorem not_mem_breaks {c : Char} (hhigh : 13 < c.toNat) : c ∉ breaks := by
  intro hbreak
  have hlow : ∀ c ∈ breaks, c.toNat ≤ 13 :=
    List.forall_mem_cons.2 ⟨by decide, List.forall_mem_singleton.2 (by decide)⟩
  exact Nat.not_lt.2 (hlow c hbreak) hhigh

/-! ### Capitalising -/

theorem caseless_break {c : Char} (hbreak : c ∈ breaks) : Caseless c := by
  rcases List.mem_cons.1 hbreak with rfl | hreturn
  · exact caseless_newline
  · rw [List.mem_singleton.1 hreturn]
    exact caseless_return

/-- A text on one line stays there when it is capitalised. -/
theorem oneLine_capitalize {text : String} (hline : OneLine text.toList) :
    OneLine (capitalize text).toList := by
  intro c hc hbreak
  exact not_mem_capitalize (caseless_break hbreak) (fun hmem => hline c hmem hbreak) hc

end SchemaTyping.Text
