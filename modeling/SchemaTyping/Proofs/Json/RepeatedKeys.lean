import Mathlib.Data.List.Induction
import Mathlib.Data.List.Nodup
import SchemaTyping.Proofs.Json.Reordering

/-!
# Repeated keys

A text may give a key more than once. The value that it stands for has the key at its first place, with
the value given last. That is what inserting the members one after the other comes to
(`collapse_eq_settled`), and it changes nothing where keys are distinct.
-/

namespace SchemaTyping.Json

namespace Members

/-- The value given last for a key. -/
def lastValue (written : Members) (key : String) : Value := (written.reverse.lookup key).getD .null

/-- Each key at its first place, with its last value. -/
def settled (written : Members) : Members :=
  written.keys.eraseDups.map fun key => (key, written.lastValue key)

end Members

theorem eraseDups_concat (keys : List String) (key : String) :
    (keys ++ [key]).eraseDups = if key ∈ keys then keys.eraseDups else keys.eraseDups ++ [key] := by
  rw [List.eraseDups_append, List.cons_removeAll, List.nil_removeAll]
  by_cases hmem : key ∈ keys
  · simp [hmem]
  · simp [hmem, List.eraseDups_cons]

theorem nodup_eraseDups (keys : List String) : keys.eraseDups.Nodup := by
  induction keys using List.reverseRecOn with
  | nil => exact List.nodup_nil
  | append_singleton keys key ih =>
    rw [eraseDups_concat]
    split
    · exact ih
    · rename_i hfresh
      rw [← List.mem_eraseDups] at hfresh
      exact List.nodup_append_comm.1 (List.nodup_cons.2 ⟨hfresh, ih⟩)

theorem eraseDups_of_nodup {keys : List String} (hdistinct : keys.Nodup) : keys.eraseDups = keys := by
  induction keys using List.reverseRecOn with
  | nil => rfl
  | append_singleton keys key ih =>
    obtain ⟨hkeys, _, hfresh⟩ := List.nodup_append.1 hdistinct
    have hkey : key ∉ keys := fun hmem => hfresh key hmem key List.mem_cons_self rfl
    rw [eraseDups_concat, if_neg hkey, ih hkeys]

theorem insert_of_not_mem {members : Members} {key : String} (hfresh : key ∉ members.keys)
    (value : Value) :
    members.insert key value = members ++ [(key, value)] := by
  induction members with
  | nil => rfl
  | cons member rest ih =>
    have hparts : ¬(key = member.1 ∨ key ∈ Members.keys rest) := fun h => hfresh (List.mem_cons.2 h)
    obtain ⟨hfirst, hrest⟩ := not_or.1 hparts
    rw [Members.insert, if_neg (Ne.symm hfirst), ih hrest, List.cons_append]

theorem mem_keys_insert {members : Members} {key : String} {value : Value} {other : String} :
    other ∈ (members.insert key value).keys ↔ other ∈ members.keys ∨ other = key := by
  induction members with
  | nil => simp [Members.insert, Members.keys]
  | cons member members ih =>
    obtain ⟨first, x⟩ := member
    have hcons : ∀ (x : Value) (members : Members), other ∈ Members.keys ((first, x) :: members) ↔
        other = first ∨ other ∈ members.keys :=
      fun x members => List.mem_cons
    rw [Members.insert]
    split
    · rename_i hkey
      subst hkey
      rw [hcons, hcons]
      tauto
    · rw [hcons, hcons, ih]
      tauto

theorem insert_of_mem {keys : List String} (hdistinct : keys.Nodup) {key : String} (hmem : key ∈ keys)
    (value : Value) {given given' : String → Value} (hkey : given' key = value)
    (hothers : ∀ other, other ≠ key → given' other = given other) :
    Members.insert (keys.map fun key => (key, given key)) key value = keys.map fun key =>
      (key, given' key) := by
  induction keys with
  | nil => cases hmem
  | cons first rest ih =>
    obtain ⟨hfirst, hrest⟩ := List.nodup_cons.1 hdistinct
    rw [List.map_cons, List.map_cons, Members.insert]
    by_cases hsame : first = key
    · subst hsame
      have htail : (rest.map fun key => (key, given key)) = rest.map fun key => (key, given' key) := by
        apply List.map_congr_left
        intro other hother
        have hne : other ≠ first := by
          rintro rfl
          exact hfirst hother
        rw [hothers other hne]
      rw [if_pos rfl, htail, hkey]
    · have hlater : key ∈ rest := (List.mem_cons.1 hmem).resolve_left (Ne.symm hsame)
      rw [if_neg hsame, ih hrest hlater, hothers first hsame]

theorem lastValue_concat (written : Members) (key other : String) (value : Value) :
    Members.lastValue (written ++ [(key, value)]) other = if other = key then value
      else written.lastValue other := by
  unfold Members.lastValue
  rw [List.reverse_append, List.reverse_singleton, List.singleton_append, List.lookup_cons]
  by_cases hsame : other = key
  · simp [hsame]
  · simp [hsame, beq_false_of_ne hsame]

/-- Members inserted one after the other leave each key at its first place, with its last value. -/
theorem collapse_eq_settled (written : Members) : written.collapse = written.settled := by
  -- from the end, since inserting a member looks at those before it
  induction written using List.reverseRecOn with
  | nil => rfl
  | append_singleton written member ih =>
    obtain ⟨key, value⟩ := member
    have hcollapse : Members.collapse (written ++ [(key, value)]) =
        Members.insert (Members.settled written) key value := by
      rw [← ih]
      exact List.foldl_append
    have hkeys : Members.keys (written ++ [(key, value)]) = Members.keys written ++ [key] :=
      List.map_append
    have hothers : ∀ other, other ≠ key →
        Members.lastValue (written ++ [(key, value)]) other = Members.lastValue written other :=
      fun other hne => (lastValue_concat written key other value).trans (if_neg hne)
    have hkey : Members.lastValue (written ++ [(key, value)]) key = value :=
      (lastValue_concat written key key value).trans (if_pos rfl)
    rw [hcollapse, Members.settled, Members.settled, hkeys, eraseDups_concat]
    by_cases hmem : key ∈ Members.keys written
    · rw [if_pos hmem]
      exact insert_of_mem (nodup_eraseDups _) (List.mem_eraseDups.2 hmem) value hkey hothers
    · have hfresh : key ∉ Members.keys
          ((Members.keys written).eraseDups.map fun key => (key, Members.lastValue written key)) := by
        rw [Members.keys, List.map_map]
        simpa [Function.comp_def, List.mem_eraseDups] using hmem
      have hsame : ((Members.keys written).eraseDups.map fun key =>
          (key, Members.lastValue written key)) =
          (Members.keys written).eraseDups.map fun other =>
            (other, Members.lastValue (written ++ [(key, value)]) other) := by
        apply List.map_congr_left
        intro other hother
        have hne : other ≠ key := by
          rintro rfl
          exact hmem (List.mem_eraseDups.1 hother)
        rw [hothers other hne]
      rw [insert_of_not_mem hfresh, if_neg hmem, List.map_append, List.map_singleton, hkey, hsame]

theorem settled_of_nodup {members : Members} (hdistinct : members.keys.Nodup) :
    members.settled = members := by
  unfold Members.settled
  rw [eraseDups_of_nodup hdistinct]
  have hsame : ∀ member ∈ members, (member.1, members.lastValue member.1) = member := by
    intro member hmem
    have hreverse : (Members.keys members.reverse).Nodup := by
      rw [Members.keys, List.map_reverse]
      exact List.nodup_reverse.2 hdistinct
    have hlookup := (lookup_eq_some_iff_mem hreverse).2 (List.mem_reverse.2 hmem)
    have hlast : members.lastValue member.1 = member.2 := by
      rw [Members.lastValue, hlookup]
      rfl
    rw [hlast]
  have hid := List.map_congr_left hsame
  rw [List.map_id''  (fun _ => rfl)] at hid
  rw [Members.keys, List.map_map]
  exact hid

/-! ### At every depth -/

mutual
/-- A value with repeated keys settled in every object in it. -/
def Value.settled : Value → Value
  | .null => .null
  | .bool b => .bool b
  | .number n => .number n
  | .string s => .string s
  | .array items => .array (settledItems items)
  | .object members => .object (settledMembers members).settled

def settledItems : List Value → List Value
  | [] => []
  | item :: items => item.settled :: settledItems items
/-- Members with their values settled and their keys as they were written. -/
def settledMembers : List (String × Value) → Members
  | [] => []
  | (key, value) :: members => (key, value.settled) :: settledMembers members
end

theorem settled_array (items : List Value) :
    (Value.array items).settled = .array (items.map Value.settled) := by
  rw [Value.settled]
  refine congrArg Value.array ?_
  induction items with
  | nil => rw [settledItems, List.map_nil]
  | cons item items ih => rw [settledItems, List.map_cons, ih]

theorem settledMembers_eq_map (members : Members) :
    settledMembers members = members.map fun (key, value) => (key, value.settled) := by
  induction members with
  | nil => rw [settledMembers, List.map_nil]
  | cons member members ih => rw [settledMembers, List.map_cons, ih]

theorem lookup_map_values {α β : Type} (f : α → β) (members : List (String × α)) (key : String) :
    (members.map fun (key, value) => (key, f value)).lookup key = (members.lookup key).map f := by
  induction members with
  | nil => rfl
  | cons member members ih =>
    rw [List.map_cons, List.lookup_cons, List.lookup_cons, ih]
    cases key == member.1 <;> rfl

theorem keys_settledMembers (members : Members) :
    Members.keys (settledMembers members) = members.keys := by
  rw [settledMembers_eq_map, Members.keys, List.map_map]
  rfl

theorem lastValue_settledMembers (members : Members) (key : String) :
    Members.lastValue (settledMembers members) key = (members.lastValue key).settled := by
  rw [Members.lastValue, Members.lastValue, settledMembers_eq_map, ← List.map_reverse, lookup_map_values]
  cases members.reverse.lookup key with
  | none => rw [Option.map_none, Option.getD_none, Value.settled]
  | some value => rfl

theorem keys_settled (written : Members) : written.settled.keys = written.keys.eraseDups := by
  rw [Members.settled, Members.keys, List.map_map]
  exact List.map_id _

theorem lookup_eq_none_of_not_mem {members : Members} {key : String} (hkey : key ∉ members.keys) :
    members.lookup key = none := by
  rw [List.lookup_eq_none_iff]
  intro member hmem
  have hne : key ≠ member.1 := by
    rintro rfl
    exact hkey (List.mem_map_of_mem hmem)
  simpa using hne

theorem lastValue_of_not_mem {written : Members} {key : String} (hkey : key ∉ written.keys) :
    written.lastValue key = .null := by
  have hreverse : key ∉ Members.keys written.reverse := by
    rw [Members.keys, List.map_reverse, List.mem_reverse]
    exact hkey
  rw [Members.lastValue, lookup_eq_none_of_not_mem hreverse, Option.getD_none]

theorem lookup_map_of_mem {α : Type} {keys : List String} {key : String} (hkey : key ∈ keys)
    (given : String → α) :
    (keys.map fun key => (key, given key)).lookup key = some (given key) := by
  induction keys with
  | nil => cases hkey
  | cons first keys ih =>
    rw [List.map_cons, List.lookup_cons]
    by_cases hsame : key = first
    · simp [hsame]
    · rw [beq_false_of_ne hsame]
      exact ih ((List.mem_cons.1 hkey).resolve_left hsame)

/-- What settled members have under a key is the value given last for it. -/
theorem lookup_settled (written : Members) (key : String) :
    (written.settled.lookup key).getD .null = written.lastValue key := by
  by_cases hkey : key ∈ written.keys
  · rw [Members.settled, lookup_map_of_mem (List.mem_eraseDups.2 hkey), Option.getD_some]
  · have hsettled : key ∉ written.settled.keys := by
      rw [keys_settled, List.mem_eraseDups]
      exact hkey
    rw [lookup_eq_none_of_not_mem hsettled, Option.getD_none, lastValue_of_not_mem hkey]

/-- An object is settled by inserting its settled members one after the other. -/
theorem settled_object (members : Members) :
    (Value.object members).settled =
      .object
        (members.foldl (fun settled (key, value) => Members.insert settled key value.settled) []) := by
  rw [Value.settled, ← collapse_eq_settled, settledMembers_eq_map, Members.collapse, List.foldl_map]

theorem exists_members_of_settled {tree : Value} {members : Members}
    (hsettled : tree.settled = .object members) :
    ∃ written, tree = .object written := by
  cases tree with
  | object written => exact ⟨written, rfl⟩
  | _ =>
    rw [Value.settled] at hsettled
    cases hsettled

theorem eq_of_settled_nil {tree : Value} (hsettled : tree.settled = .object []) : tree = .object [] := by
  obtain ⟨members, rfl⟩ := exists_members_of_settled hsettled
  cases members with
  | nil => rfl
  | cons member members =>
    rw [Value.settled, settledMembers_eq_map] at hsettled
    simp [Members.settled, Members.keys, List.eraseDups_cons] at hsettled

end SchemaTyping.Json
