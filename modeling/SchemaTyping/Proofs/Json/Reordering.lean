import Mathlib.Data.List.Forall2
import Mathlib.Data.List.Perm.Basic
import SchemaTyping.Json.Value

/-!
# Values up to the order of members

JSON gives the order of an object's members no meaning. Two values are reorderings of one another if they
differ in that order at most, at any depth; lists keep their order. What can be said of the members of
such objects without looking at their order is that each key leads to reorderings of one another, or to
nothing in both (`lookup_reordered`).
-/

namespace SchemaTyping.Json

/-- The same members in another order, with the same value found under each key. Where keys are distinct
the latter follows: `Members.Moved.of_perm`. -/
structure Members.Moved (members others : Members) : Prop where
  perm : members.Perm others
  lookup : ∀ key, members.lookup key = others.lookup key

def Members.keys (members : Members) : List String := members.map Prod.fst

def Members.values (members : Members) : List Value := members.map Prod.snd

/-- Values that differ in the order of the members of the objects in them at most. -/
inductive Value.Reordered : Value → Value → Prop
  | refl (value : Value) : Value.Reordered value value
  | array {items others : List Value} (hitems : List.Forall₂ Value.Reordered items others) :
    Value.Reordered (.array items) (.array others)
  /-- The members are moved, and then each value is reordered in its place. -/
  | object {members moved others : Members} (hmoved : members.Moved moved)
    (hkeys : moved.keys = others.keys)
    (hvalues : List.Forall₂ Value.Reordered moved.values others.values) :
    Value.Reordered (.object members) (.object others)

/-! ### Distinct keys

In an object with distinct keys members can be moved at will. -/

theorem lookup_eq_some_iff_mem {members : Members} (hdistinct : members.keys.Nodup) {key : String}
    {value : Value} :
    members.lookup key = some value ↔ (key, value) ∈ members := by
  rw [List.lookup_eq_some_iff]
  constructor
  · rintro ⟨before, rest, rfl, _⟩
    exact List.mem_append_right _ List.mem_cons_self
  · intro hmem
    obtain ⟨before, rest, rfl⟩ := List.append_of_mem hmem
    refine ⟨before, rest, rfl, fun member hbefore => bne_iff_ne.2 ?_⟩
    rintro rfl
    have hkeys : (Members.keys before ++ member.1 :: Members.keys rest).Nodup := by
      have hsplit : Members.keys (before ++ (member.1, value) :: rest) = Members.keys before ++
          member.1 :: Members.keys rest :=
        List.map_append
      rwa [hsplit] at hdistinct
    exact (List.nodup_append.1 hkeys).2.2 member.1
      (List.mem_map_of_mem hbefore) member.1 List.mem_cons_self rfl

theorem Members.Moved.of_perm {members others : Members} (hdistinct : members.keys.Nodup)
    (hperm : members.Perm others) :
    members.Moved others where
  perm := hperm
  lookup := by
    intro key
    have hothers : others.keys.Nodup := (hperm.map Prod.fst).nodup_iff.1 hdistinct
    ext value
    rw [lookup_eq_some_iff_mem hdistinct, lookup_eq_some_iff_mem hothers, hperm.mem_iff]

theorem Value.Reordered.of_perm {members others : Members} (hdistinct : members.keys.Nodup)
    (hperm : members.Perm others) :
    (Value.object members).Reordered (.object others) :=
  .object (.of_perm hdistinct hperm) rfl (List.forall₂_same.2 fun value _ => .refl value)

/-! ### Members of reorderings -/

/-- A member of an object beside the one of a reordering that stands for it. -/
def ReorderedMember (member other : String × Value) : Prop :=
  member.1 = other.1 ∧ member.2.Reordered other.2

theorem forall₂_reorderedMember {moved others : Members} (hkeys : moved.keys = others.keys)
    (hvalues : List.Forall₂ Value.Reordered moved.values others.values) :
    List.Forall₂ ReorderedMember moved others := by
  induction moved generalizing others with
  | nil =>
    cases others with
    | nil => exact .nil
    | cons other others => cases hkeys
  | cons member moved ih =>
    cases others with
    | nil => cases hkeys
    | cons other others =>
      obtain ⟨hkey, hrest⟩ := List.cons.inj hkeys
      cases hvalues with
      | cons hvalue hvalues => exact .cons ⟨hkey, hvalue⟩ (ih hrest hvalues)

theorem lookup_of_forall₂ {moved others : Members} (hmembers : List.Forall₂ ReorderedMember moved others)
    (key : String) :
    Option.Rel Value.Reordered (moved.lookup key) (others.lookup key) := by
  induction hmembers with
  | nil => exact .none
  | @cons member other _ _ hmember _ ih =>
    obtain ⟨hkey, hvalue⟩ := hmember
    rw [List.lookup_cons, List.lookup_cons, ← hkey]
    cases key == member.1 with
    | true => exact .some hvalue
    | false => exact ih

theorem optionRel_refl (value? : Option Value) : Option.Rel Value.Reordered value? value? := by
  cases value? with
  | none => exact .none
  | some value => exact .some (.refl value)

/-- Under each key reordered objects hold reordered values, or nothing. -/
theorem lookup_reordered {members others : Members}
    (hreordered : (Value.object members).Reordered (.object others)) (key : String) :
    Option.Rel Value.Reordered (members.lookup key) (others.lookup key) := by
  cases hreordered with
  | refl => exact optionRel_refl _
  | object hmoved hkeys hvalues =>
    rw [hmoved.lookup]
    exact lookup_of_forall₂ (forall₂_reorderedMember hkeys hvalues) key

theorem reordered_nil_iff {members others : Members}
    (hreordered : (Value.object members).Reordered (.object others)) :
    members = [] ↔ others = [] := by
  cases hreordered with
  | refl => exact Iff.rfl
  | @object _ moved _ hmoved hkeys hvalues =>
    have hlength := hmoved.perm.length_eq.trans (forall₂_reorderedMember hkeys hvalues).length_eq
    rw [← List.length_eq_zero_iff, ← List.length_eq_zero_iff, hlength]

end SchemaTyping.Json
