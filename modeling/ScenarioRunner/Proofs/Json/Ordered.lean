import Mathlib.Data.String.Basic
import ScenarioRunner.Json.Reader

namespace ScenarioRunner

namespace JsonValue

/-- The names of each object are as `ok` says. Objects inside of arrays are left out. -/
inductive EachObject (ok : List String → Prop) : JsonValue → Prop
  | null : EachObject ok .null
  | bool (b : Bool) : EachObject ok (.bool b)
  | number (n : JsonNumber) : EachObject ok (.number n)
  | string (text : String) : EachObject ok (.string text)
  | array (items : List JsonValue) : EachObject ok (.array items)
  | object {members : List (String × JsonValue)} : ok (members.map Prod.fst) →
      (∀ member ∈ members, EachObject ok member.2) → EachObject ok (.object members)

/-- The members of an object stand in the order of their names, and no name is there twice. -/
def Ordered (json : JsonValue) : Prop := EachObject (fun names => names.Pairwise (· < ·)) json

theorem mem_insertMember {name : String} {value : JsonValue} {members : List (String × JsonValue)}
    {member : String × JsonValue} (inside : member ∈ insertMember name value members) :
    member = (name, value) ∨ member ∈ members := by
  induction members with
  | nil => exact .inl (List.mem_singleton.mp inside)
  | cons first rest ih =>
    rw [insertMember] at inside
    split at inside
    · exact List.mem_cons.mp inside
    · split at inside
      · exact (List.mem_cons.mp inside).imp_right (List.mem_cons_of_mem _)
      · rcases List.mem_cons.mp inside with rfl | later
        · exact .inr (List.mem_cons_self ..)
        · exact (ih later).imp_right (List.mem_cons_of_mem _)

theorem pairwise_insertMember (name : String) (value : JsonValue)
    {members : List (String × JsonValue)} (ordered : members.Pairwise fun a b => a.1 < b.1) :
    (insertMember name value members).Pairwise fun a b => a.1 < b.1 := by
  induction members with
  | nil => exact List.pairwise_singleton _ _
  | cons first rest ih =>
    obtain ⟨below, later⟩ := List.pairwise_cons.mp ordered
    rw [insertMember]
    split
    · rename_i before
      refine List.pairwise_cons.mpr ⟨List.forall_mem_cons.mpr ⟨before, fun member inside => ?_⟩, ordered⟩
      exact before.trans (below member inside)
    · rename_i notBefore
      split
      · rename_i same
        exact List.pairwise_cons.mpr ⟨fun member inside => same ▸ below member inside, later⟩
      · rename_i other
        have after : first.1 < name := lt_of_le_of_ne (not_lt.mp notBefore) (Ne.symm other)
        refine List.pairwise_cons.mpr ⟨fun member inside => ?_, ih later⟩
        rcases mem_insertMember inside with rfl | known
        · exact after
        · exact below member known

/-- Members that make up an object that is in order. -/
structure OrderedMembers (members : List (String × JsonValue)) : Prop where
  names : members.Pairwise fun a b => a.1 < b.1
  values : ∀ member ∈ members, member.2.Ordered

theorem OrderedMembers.insertMember {members : List (String × JsonValue)} (known : OrderedMembers members)
    {name : String} {value : JsonValue} (ordered : value.Ordered) :
    OrderedMembers (insertMember name value members) := by
  refine ⟨pairwise_insertMember name value known.names, fun member inside => ?_⟩
  rcases mem_insertMember inside with rfl | old
  · exact ordered
  · exact known.values member old

theorem ordered_ofMembers {members : List (String × JsonValue)}
    (each : ∀ member ∈ members, member.2.Ordered) : (ofMembers members).Ordered := by
  have all : OrderedMembers
      (members.foldl (fun sorted member => JsonValue.insertMember member.1 member.2 sorted) []) :=
    List.foldlRecOn members _ ⟨.nil, List.forall_mem_nil _⟩
      fun _ known member listed => known.insertMember (each member listed)
  exact .object (List.pairwise_map.mpr all.names) all.values

end JsonValue

namespace JsonReader

/-- Both readers go on with less fuel, so they are taken together. -/
theorem ordered_of_read (fuel : Nat) :
    (∀ depth text value rest, readValue? depth fuel text = some (value, rest) → value.Ordered) ∧
      ∀ depth text members rest, readMembers? depth fuel text = some (members, rest) →
        ∀ member ∈ members, member.2.Ordered := by
  induction fuel with
  | zero =>
    constructor
    · intro depth text value rest read
      rw [readValue?] at read
      cases read
    · intro depth text members rest read
      rw [readMembers?] at read
      cases read
  | succ fuel ih =>
    constructor
    · intro depth text value rest read
      rw [readValue?] at read
      split at read
      · obtain ⟨found, _, same⟩ := Option.map_eq_some_iff.mp read
        cases same
        exact .string _
      · split at read
        · cases read
        · split at read
          · cases read
            exact .array _
          · obtain ⟨found, _, same⟩ := Option.map_eq_some_iff.mp read
            cases same
            exact .array _
      · split at read
        · cases read
        · split at read
          · cases read
            exact .object .nil fun _ member => nomatch member
          · obtain ⟨found, members, same⟩ := Option.map_eq_some_iff.mp read
            cases same
            exact JsonValue.ordered_ofMembers (ih.2 _ _ _ _ members)
      · cases read
        exact .null
      · cases read
        exact .bool _
      · cases read
        exact .bool _
      · obtain ⟨numeral, _, later⟩ := Option.bind_eq_some_iff.mp read
        obtain ⟨n, _, same⟩ := Option.bind_eq_some_iff.mp later
        cases same
        exact .number n
    · intro depth text members rest read
      rw [readMembers?] at read
      obtain ⟨⟨key, afterKey⟩, _, read⟩ := Option.bind_eq_some_iff.mp read
      simp only at read
      split at read
      · obtain ⟨⟨value, afterValue⟩, first, read⟩ := Option.bind_eq_some_iff.mp read
        have here := ih.1 _ _ _ _ first
        simp only at read
        split at read
        · obtain ⟨⟨others, afterOthers⟩, more, same⟩ := Option.bind_eq_some_iff.mp read
          cases same
          exact List.forall_mem_cons.mpr ⟨here, ih.2 _ _ _ _ more⟩
        · cases read
          exact List.forall_mem_singleton.mpr here
        · cases read
      · cases read

end JsonReader

/-- Every value that is read from a text has its members in order. -/
theorem JsonValue.ordered_of_read {text : String} {json : JsonValue}
    (read : JsonValue.read? text = some json) : json.Ordered := by
  unfold JsonValue.read? at read
  simp only at read
  split at read
  · rename_i value rest found
    split at read
    · cases read
      exact (JsonReader.ordered_of_read _).1 _ _ _ _ found
    · cases read
  · cases read

end ScenarioRunner
