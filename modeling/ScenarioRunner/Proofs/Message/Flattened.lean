import Mathlib.Data.List.Induction
import Mathlib.Data.List.Lex
import Mathlib.Data.List.Nodup
import ScenarioRunner.Message.Table
import ScenarioRunner.Proofs.Json.Ordered

namespace ScenarioRunner

namespace JsonValue

/-- A string, number or truth value, with the names of the objects' members that lead to it. -/
inductive Leaf : JsonValue → List String → String → Prop
  | string (text : String) : Leaf (.string text) [] text
  | number (n : JsonNumber) : Leaf (.number n) [] n.text
  | bool (b : Bool) : Leaf (.bool b) [] (if b then "true" else "false")
  | member {members : List (String × JsonValue)} {name : String} {value : JsonValue}
      {path : List String} {text : String} : (name, value) ∈ members → Leaf value path text →
      Leaf (.object members) (name :: path) text

/-- A leaf inside of an object, whose key is made of all names on the way to it. -/
structure LeafUnder (json : JsonValue) (key : String) (path : List String) (text : String) : Prop where
  nested : path ≠ []
  leaf : json.Leaf path text
  joined : ".".intercalate path = key

/-- No name of a member has a dot. -/
def DotFree (json : JsonValue) : Prop := EachObject (fun names => ∀ name ∈ names, '.' ∉ name.toList) json

mutual

/-- The leaves, depth first. -/
def leaves : JsonValue → List (List String × String)
  | .object members => leavesOf members
  | .string text => [([], text)]
  | .number n => [([], n.text)]
  | .bool b => [([], if b then "true" else "false")]
  | .null | .array _ => []

def leavesOf : List (String × JsonValue) → List (List String × String)
  | [] => []
  | (name, value) :: rest => value.leaves.map (Prod.map (name :: ·) id) ++ leavesOf rest

end

theorem leavesOf_eq (members : List (String × JsonValue)) : leavesOf members =
    members.flatMap fun member => member.2.leaves.map (Prod.map (member.1 :: ·) id) := by
  induction members with
  | nil => rw [leavesOf, List.flatMap_nil]
  | cons member rest ih => rw [leavesOf, ih, List.flatMap_cons]

mutual

theorem leaf_of_mem : (json : JsonValue) → {path : List String} → {text : String} →
    (path, text) ∈ json.leaves → json.Leaf path text
  | .object members, path, text, listed => by
    rw [leaves] at listed
    obtain ⟨name, value, inner, inside, rfl, leaf⟩ := leaf_of_mem_members members listed
    exact .member inside leaf
  | .string text, _, _, listed => by
    cases List.mem_singleton.mp (leaves.eq_2 text ▸ listed)
    exact .string text
  | .number n, _, _, listed => by
    cases List.mem_singleton.mp (leaves.eq_3 n ▸ listed)
    exact .number n
  | .bool b, _, _, listed => by
    cases List.mem_singleton.mp (leaves.eq_4 b ▸ listed)
    exact .bool b
  | .null, _, _, listed => by
    rw [leaves] at listed
    cases listed
  | .array items, _, _, listed => by
    rw [leaves] at listed
    cases listed

theorem leaf_of_mem_members : (members : List (String × JsonValue)) → {path : List String} →
    {text : String} → (path, text) ∈ leavesOf members →
    ∃ name value inner, (name, value) ∈ members ∧ path = name :: inner ∧ value.Leaf inner text
  | [], _, _, listed => by
    rw [leavesOf] at listed
    cases listed
  | (name, value) :: rest, path, text, listed => by
    rw [leavesOf] at listed
    rcases List.mem_append.mp listed with here | later
    · obtain ⟨⟨inner, words⟩, inside, same⟩ := List.mem_map.mp here
      cases same
      exact ⟨name, value, inner, List.mem_cons_self .., rfl, leaf_of_mem value inside⟩
    · obtain ⟨other, found, inner, inside, same, leaf⟩ := leaf_of_mem_members rest later
      exact ⟨other, found, inner, List.mem_cons_of_mem _ inside, same, leaf⟩

end

theorem mem_leaves_iff {json : JsonValue} {path : List String} {text : String} :
    (path, text) ∈ json.leaves ↔ json.Leaf path text := by
  refine ⟨leaf_of_mem json, fun leaf => ?_⟩
  induction leaf with
  | string text => simp [leaves]
  | number n => simp [leaves]
  | bool b => simp [leaves]
  | @member members name value path text inside _ ih =>
    rw [leaves, leavesOf_eq]
    exact List.mem_flatMap.mpr ⟨_, inside, List.mem_map.mpr ⟨_, ih, rfl⟩⟩

/-- Depth first is the order of the paths, name by name. -/
theorem Ordered.pairwise_leaves {json : JsonValue} (ordered : json.Ordered) :
    json.leaves.Pairwise fun a b => a.1 < b.1 := by
  induction ordered with
  | null | array _ =>
    rw [leaves]
    exact .nil
  | bool _ | number _ | string _ =>
    rw [leaves]
    exact List.pairwise_singleton _ _
  | @object members names _ ih =>
    rw [leaves, leavesOf_eq, List.pairwise_flatMap]
    constructor
    · intro member inside
      refine List.pairwise_map.mpr ((ih member inside).imp fun before => ?_)
      exact List.cons_lt_cons_iff.mpr (.inr ⟨rfl, before⟩)
    · refine (List.pairwise_map.mp names).imp fun before one first other second => ?_
      obtain ⟨_, _, rfl⟩ := List.mem_map.mp first
      obtain ⟨_, _, rfl⟩ := List.mem_map.mp second
      exact List.cons_lt_cons_iff.mpr (.inl before)

/-- Each path leads to one leaf. -/
theorem Ordered.leaf_unique {json : JsonValue} (ordered : json.Ordered) {path : List String}
    {text other : String} (one : json.Leaf path text) (two : json.Leaf path other) : text = other := by
  have distinct : (json.leaves.map Prod.fst).Nodup :=
    (List.pairwise_map.mpr ordered.pairwise_leaves).imp ne_of_lt
  exact congrArg Prod.snd (List.inj_on_of_nodup_map distinct (mem_leaves_iff.mpr one)
    (mem_leaves_iff.mpr two) rfl)

theorem DotFree.names {json : JsonValue} (free : json.DotFree) {path : List String} {text : String}
    (leaf : json.Leaf path text) : ∀ name ∈ path, '.' ∉ name.toList := by
  induction leaf with
  | string | number | bool => exact fun _ inside => nomatch inside
  | member inside _ ih =>
    cases free with
    | object names values =>
      exact List.forall_mem_cons.mpr ⟨names _ (List.mem_map_of_mem inside), ih (values _ inside)⟩

/-- Names without dots are read back from a key, empty ones as well. -/
theorem eq_of_intercalate_eq {path other : List String} (nested : path ≠ []) (nestedOther : other ≠ [])
    (free : ∀ name ∈ path, '.' ∉ name.toList) (freeOther : ∀ name ∈ other, '.' ∉ name.toList)
    (same : ".".intercalate path = ".".intercalate other) : path = other := by
  have split {names : List String} (nested : names ≠ []) (free : ∀ name ∈ names, '.' ∉ name.toList) :
      (".".intercalate names).toList.splitOn '.' = names.map String.toList := by
    rw [String.toList_intercalate]
    exact List.splitOn_intercalate '.' (List.forall_mem_map.mpr free) (by simpa using nested)
  have parts := split nestedOther freeOther
  rw [← same, split nested free] at parts
  exact List.map_injective_iff.mpr (fun _ _ => String.toList_inj.mp) parts

end JsonValue

mutual

theorem flatten_some (outer : String) : (json : JsonValue) →
    flatten (some outer) json = json.leaves.map (Prod.map (fun path => ".".intercalate (outer :: path)) id)
  | .object members => by rw [flatten, JsonValue.leaves, flattenMembers_some outer members]
  | .string text => by simp [flatten, JsonValue.leaves]
  | .number n => by simp [flatten, JsonValue.leaves]
  | .bool b => by simp [flatten, JsonValue.leaves]
  | .null => by simp [flatten, JsonValue.leaves]
  | .array items => by simp [flatten, JsonValue.leaves]

theorem flattenMembers_some (outer : String) : (members : List (String × JsonValue)) →
    flattenMembers (some outer) members = (JsonValue.leavesOf members).map
      (Prod.map (fun path => ".".intercalate (outer :: path)) id)
  | [] => by simp [flattenMembers, JsonValue.leavesOf]
  | (name, value) :: rest => by
    rw [flattenMembers, JsonValue.leavesOf, joinKey, flatten_some (outer ++ "." ++ name) value,
      flattenMembers_some outer rest, List.map_append, List.map_map]
    rfl

end

/-- The root has no name, so a key starts with a name of one of its members. -/
theorem flattenMembers_none (members : List (String × JsonValue)) :
    flattenMembers none members =
      (JsonValue.leavesOf members).map (Prod.map (".".intercalate ·) id) := by
  induction members with
  | nil => simp [flattenMembers, JsonValue.leavesOf]
  | cons member rest ih =>
    rw [flattenMembers, JsonValue.leavesOf, joinKey, flatten_some, ih, List.map_append, List.map_map]
    rfl

theorem flatten_object (members : List (String × JsonValue)) :
    flatten none (.object members) =
      (JsonValue.object members).leaves.map (Prod.map (".".intercalate ·) id) := by
  rw [flatten, flattenMembers_none, JsonValue.leaves]

theorem flatten_of_not_object {json : JsonValue} (bare : ∀ members, json ≠ .object members) :
    flatten none json = [] := by
  cases json with
  | object members => exact absurd rfl (bare members)
  | _ => simp [flatten]

theorem Messages.get?_concat (entries : Messages) (entry : String × String) (key : String) :
    Messages.get? (entries ++ [entry]) key =
      if key = entry.1 then some entry.2 else entries.get? key := by
  rw [Messages.get?, List.reverse_append, List.reverse_singleton, List.singleton_append,
    List.lookup_cons]
  by_cases here : key = entry.1
  · simp [here]
  · have other : (key == entry.1) = false := beq_eq_false_iff_ne.mpr here
    simp only [other, if_neg here]
    rfl

/-- Of entries with one key the last one counts, which is the greatest of them. -/
theorem get?_map_eq_some_iff {α : Type} [LinearOrder α] {entries : List (α × String)}
    (sorted : entries.Pairwise fun a b => a.1 < b.1) (keyOf : α → String) (key text : String) :
    Messages.get? (entries.map (Prod.map keyOf id)) key = some text ↔
      ∃ a, (a, text) ∈ entries ∧ keyOf a = key ∧
        ∀ entry ∈ entries, keyOf entry.1 = key → entry.1 ≤ a := by
  induction entries using List.reverseRecOn with
  | nil => simp [Messages.get?]
  | append_singleton front last ih =>
    obtain ⟨sortedFront, _, below⟩ := List.pairwise_append.mp sorted
    have before {entry : α × String} (inside : entry ∈ front) : entry.1 < last.1 :=
      below entry inside last (List.mem_singleton_self _)
    rw [List.map_append, List.map_singleton, Messages.get?_concat]
    split
    · rename_i here
      constructor
      · rintro ⟨⟩
        refine ⟨last.1, by simp, here.symm, fun entry inside _ => ?_⟩
        rcases List.mem_append.mp inside with earlier | same
        · exact (before earlier).le
        · rw [List.mem_singleton.mp same]
      · rintro ⟨a, inside, _, greatest⟩
        rcases List.mem_append.mp inside with earlier | same
        · exact absurd (greatest last (by simp) here.symm) (before earlier).not_ge
        · cases List.mem_singleton.mp same
          rfl
    · rename_i other
      rw [ih sortedFront]
      constructor
      · rintro ⟨a, inside, joined, greatest⟩
        refine ⟨a, List.mem_append_left _ inside, joined, fun entry member same => ?_⟩
        rcases List.mem_append.mp member with earlier | here
        · exact greatest entry earlier same
        · rw [List.mem_singleton.mp here] at same
          exact absurd same.symm other
      · rintro ⟨a, inside, joined, greatest⟩
        rcases List.mem_append.mp inside with earlier | here
        · exact ⟨a, earlier, joined, fun entry member => greatest entry (List.mem_append_left _ member)⟩
        · cases List.mem_singleton.mp here
          exact absurd joined.symm other

theorem MessageFile.exists_json_of_load {file : MessageFile} {disk : FileTree} {entries : Messages}
    (loads : file.load disk = .ok entries) : ∃ text json, disk.readText file.path = .ok text ∧
      JsonValue.read? text = some json ∧ entries = flatten none json := by
  unfold load at loads
  split at loads
  · cases loads
  · rename_i text read
    split at loads
    · cases loads
    · rename_i json parsed
      cases loads
      exact ⟨text, json, read, parsed, rfl⟩

/-- The messages are the leaves of nested objects, each under the names that lead to it. Nothing that
stands in an array is a leaf, and neither is a null. -/
structure Messages.KeepsLeaves (entries : Messages) (json : JsonValue) : Prop where
  /-- Of leaves with one key the last counts, in the order of the names. -/
  last : ∀ key text, entries.get? key = some text ↔ ∃ path, json.LeafUnder key path text ∧
    ∀ other otherText, json.LeafUnder key other otherText → other ≤ path
  dotFree : json.DotFree → ∀ key text,
    entries.get? key = some text ↔ ∃ path, json.LeafUnder key path text
  distinct : json.DotFree → ∀ key path other text otherText, json.LeafUnder key path text →
    json.LeafUnder key other otherText → path = other ∧ text = otherText
  bare : (∀ members, json ≠ .object members) → entries = []

namespace JsonValue

theorem DotFree.leafUnder_unique {json : JsonValue} (free : json.DotFree) (ordered : json.Ordered)
    {key text otherText : String} {path other : List String} (one : json.LeafUnder key path text)
    (two : json.LeafUnder key other otherText) : path = other ∧ text = otherText := by
  obtain rfl := eq_of_intercalate_eq one.nested two.nested (free.names one.leaf) (free.names two.leaf)
    (one.joined.trans two.joined.symm)
  exact ⟨rfl, ordered.leaf_unique one.leaf two.leaf⟩

theorem leafUnder_object_iff {members : List (String × JsonValue)} {key text : String}
    {path : List String} : (object members).LeafUnder key path text ↔
      (path, text) ∈ (object members).leaves ∧ ".".intercalate path = key := by
  rw [mem_leaves_iff]
  constructor
  · exact fun under => ⟨under.leaf, under.joined⟩
  · rintro ⟨leaf, joined⟩
    refine ⟨?_, leaf, joined⟩
    cases leaf with
    | member => exact List.cons_ne_nil _ _

theorem get?_flatten_eq_some_iff {json : JsonValue} (ordered : json.Ordered) (key text : String) :
    Messages.get? (flatten none json) key = some text ↔ ∃ path, json.LeafUnder key path text ∧
      ∀ other otherText, json.LeafUnder key other otherText → other ≤ path := by
  cases json with
  | object members =>
    rw [flatten_object, get?_map_eq_some_iff ordered.pairwise_leaves]
    simp only [leafUnder_object_iff, and_assoc, and_imp, Prod.forall]
  | _ =>
    rw [flatten_of_not_object (by simp)]
    refine ⟨nofun, fun ⟨path, under, _⟩ => ?_⟩
    have leaf := under.leaf
    cases leaf <;> exact absurd rfl under.nested

theorem keepsLeaves_of_ordered {json : JsonValue} (ordered : json.Ordered) :
    Messages.KeepsLeaves (flatten none json) json where
  last := get?_flatten_eq_some_iff ordered
  dotFree free key text := by
    rw [get?_flatten_eq_some_iff ordered]
    constructor
    · exact fun ⟨path, under, _⟩ => ⟨path, under⟩
    · exact fun ⟨path, under⟩ => ⟨path, under, fun other otherText also =>
        (free.leafUnder_unique ordered also under).1.le⟩
  distinct free _ _ _ _ _ := free.leafUnder_unique ordered
  bare := flatten_of_not_object

/-- Flattening keeps the leaves of every value, and a message file has those of the value that it
holds, which is always in order. -/
theorem keepsLeaves_flatten :
    (∀ json : JsonValue, json.Ordered → Messages.KeepsLeaves (flatten none json) json) ∧
      ∀ (file : MessageFile) (disk : FileTree) (entries : Messages), file.load disk = .ok entries →
        ∃ text json, disk.readText file.path = .ok text ∧ JsonValue.read? text = some json ∧
          entries.KeepsLeaves json := by
  refine ⟨fun _ => keepsLeaves_of_ordered, fun file disk entries loaded => ?_⟩
  obtain ⟨text, json, known, read, rfl⟩ := MessageFile.exists_json_of_load loaded
  exact ⟨text, json, known, read, keepsLeaves_of_ordered (ordered_of_read read)⟩

/-- Two leaves have the key `a.b`, and the later one counts. A key may also be made of empty names. -/
theorem keepsLeaves_flatten_collision :
    ∃ json : JsonValue, json.Ordered ∧ json.LeafUnder "a.b" ["a", "b"] "1" ∧
      json.LeafUnder "a.b" ["a.b"] "true" ∧ json.LeafUnder "." ["", ""] "x" ∧
      Messages.KeepsLeaves (flatten none json) json ∧
      (flatten none json).map Prod.fst = [".", "a.b", "a.b"] ∧
      Messages.get? (flatten none json) "a.b" = some "true" := by
  obtain ⟨json, whole⟩ : ∃ json : JsonValue, json =
      .object [("", .object [("", .string "x")]), ("a", .object [("b", .number (.whole 1))]),
        ("a.b", .bool true), ("n", .null), ("z", .array [.string "y"])] := ⟨_, rfl⟩
  have ordered : json.Ordered := by
    rw [whole]
    refine .object (by decide) ?_
    simp only [List.forall_mem_cons]
    exact ⟨.object (by decide) (List.forall_mem_singleton.mpr (.string _)),
      .object (by decide) (List.forall_mem_singleton.mpr (.number _)), .bool _, .null, .array _, nofun⟩
  subst whole
  exact ⟨_, ordered, leafUnder_object_iff.mpr (by decide), leafUnder_object_iff.mpr (by decide),
    leafUnder_object_iff.mpr (by decide), keepsLeaves_flatten.1 _ ordered, by decide, by decide⟩

end JsonValue

end ScenarioRunner
