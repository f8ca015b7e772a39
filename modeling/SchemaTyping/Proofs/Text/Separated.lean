import Mathlib.Data.List.Basic

/-!
# Telling lists apart behind one another

When lists are put one behind the other, what marks the end of each decides whether they can be told
apart again. Two cases are enough to read printed text: a list of items of one kind with items of another
kind behind it (`word_append_inj`), and lists with a separator in front of each and in none of them
(`flatMap_cons_inj`). What a function tells about items it tells about lists of them
(`map_eq_of_map_eq`).
-/

namespace SchemaTyping.Text

variable {α : Type}

/-- A list that is empty or starts with an item of some kind. -/
def StartsWith (kind : α → Prop) (items : List α) : Prop := ∀ item ∈ items.head?, kind item

theorem startsWith_nil (kind : α → Prop) : StartsWith kind [] := by
  intro item hitem
  cases hitem

theorem startsWith_cons {kind : α → Prop} {item : α} (hkind : kind item) (items : List α) :
    StartsWith kind (item :: items) := by
  intro first hfirst
  obtain rfl : item = first := Option.some.inj hfirst
  exact hkind

theorem word_append_inj {stops : α → Prop} {word word' rest rest' : List α}
    (hword : ∀ item ∈ word, ¬ stops item) (hword' : ∀ item ∈ word', ¬ stops item)
    (hrest : StartsWith stops rest) (hrest' : StartsWith stops rest')
    (hsame : word ++ rest = word' ++ rest') : word = word' ∧ rest = rest' := by
  induction word generalizing word' with
  | nil =>
    cases word' with
    | nil => exact ⟨rfl, hsame⟩
    | cons item word' =>
      subst hsame
      exact absurd (hrest item rfl) (hword' item List.mem_cons_self)
  | cons item word ih =>
    cases word' with
    | nil =>
      rw [List.nil_append] at hsame
      subst hsame
      exact absurd (hrest' item rfl) (hword item List.mem_cons_self)
    | cons item' word' =>
      rw [List.cons_append, List.cons_append, List.cons.injEq] at hsame
      obtain ⟨rfl, hsame⟩ := hsame
      obtain ⟨rfl, hrests⟩ := ih (fun item hmem => hword item (List.mem_cons_of_mem _ hmem))
        (fun item hmem => hword' item (List.mem_cons_of_mem _ hmem)) hsame
      exact ⟨rfl, hrests⟩

/-! ### Separators -/

theorem intercalate_cons (separator item : List α) (items : List (List α)) :
    separator.intercalate (item :: items) = item ++ items.flatMap fun item => separator ++ item := by
  induction items generalizing item with
  | nil => simp [List.intercalate]
  | cons other items ih =>
    rw [List.intercalate_cons_cons, ih, List.flatMap_cons]
    simp only [List.append_assoc]

theorem intercalate_append {separator : List α} {first : List (List α)} (hfirst : first ≠ [])
    (rest : List (List α)) :
    separator.intercalate (first ++ rest) = separator.intercalate first ++ rest.flatMap fun item =>
      separator ++ item := by
  cases first with
  | nil => exact absurd rfl hfirst
  | cons item items =>
    rw [List.cons_append, intercalate_cons, intercalate_cons, List.flatMap_append, List.append_assoc]

theorem startsWith_separator {separator : α} (items : List (List α)) :
    StartsWith (· ∈ [separator]) (items.flatMap fun item => separator :: item) := by
  cases items with
  | nil => exact startsWith_nil _
  | cons item items => exact startsWith_cons List.mem_cons_self _

theorem flatMap_cons_inj {separator : α} {items others : List (List α)}
    (hitems : ∀ item ∈ items, separator ∉ item) (hothers : ∀ item ∈ others, separator ∉ item)
    (hsame : (items.flatMap fun item => separator :: item) = others.flatMap fun item =>
      separator :: item) :
    items = others := by
  induction items generalizing others with
  | nil =>
    cases others with
    | nil => rfl
    | cons other others => cases hsame
  | cons item items ih =>
    cases others with
    | nil => cases hsame
    | cons other others =>
      have hfree : ∀ {item : List α}, separator ∉ item → ∀ a ∈ item, ¬ a ∈ [separator] := by
        intro item hitem a ha hmem
        obtain rfl := List.mem_singleton.1 hmem
        exact hitem ha
      rw [List.flatMap_cons, List.flatMap_cons, List.cons_append, List.cons_append,
        List.cons.injEq] at hsame
      obtain ⟨rfl, hrest⟩ :=
        word_append_inj (hfree (hitems item List.mem_cons_self))
          (hfree (hothers other List.mem_cons_self))
        (startsWith_separator _) (startsWith_separator _) hsame.2
      rw [ih (fun item hmem => hitems item (List.mem_cons_of_mem _ hmem))
        (fun item hmem => hothers item (List.mem_cons_of_mem _ hmem)) hrest]

/-! ### Values of functions -/

theorem map_eq_of_map_eq {β γ : Type} {f : α → β} {g : α → γ} {items others : List α}
    (htold : ∀ item ∈ items, ∀ other ∈ others, f item = f other → g item = g other)
    (hsame : items.map f = others.map f) :
    items.map g = others.map g := by
  induction items generalizing others with
  | nil =>
    cases others with
    | nil => rfl
    | cons other others => cases hsame
  | cons item items ih =>
    cases others with
    | nil => cases hsame
    | cons other others =>
      obtain ⟨hfirst, hrest⟩ := List.cons.inj hsame
      have htail : items.map g = others.map g :=
        ih (fun item hitem other hother =>
          htold item (List.mem_cons_of_mem _ hitem) other (List.mem_cons_of_mem _ hother)) hrest
      rw [List.map_cons, List.map_cons,
        htold item List.mem_cons_self other List.mem_cons_self hfirst, htail]

end SchemaTyping.Text
