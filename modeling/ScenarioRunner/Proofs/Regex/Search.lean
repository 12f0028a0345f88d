import ScenarioRunner.Regex.Search

namespace ScenarioRunner

namespace Regex

/-- From the place one gets to the other by steps of one that are all allowed. -/
inductive Walks (allowed : Nat → Bool) : Nat → Nat → Prop where
  | stay (place : Nat) : Walks allowed place place
  | step {place other : Nat} : allowed place = true → Walks allowed (place + 1) other →
    Walks allowed place other

namespace Walks

variable {allowed : Nat → Bool} {place other : Nat} {places : List Nat}

/-- Places that every allowed step stays among are never left. -/
theorem mem_of_closed (walks : Walks allowed place other)
    (closed : ∀ place ∈ places, allowed place = true → place + 1 ∈ places)
    (start : place ∈ places) : other ∈ places := by
  induction walks with
  | stay place => exact start
  | step here later ih => exact ih (closed _ start here)

theorem mem_iff_of_closed
    (closed : ∀ place ∈ places, allowed place = true → place + 1 ∈ places) :
    other ∈ places ↔ ∃ place ∈ places, Walks allowed place other := by
  constructor
  · intro member
    exact ⟨other, member, .stay other⟩
  · rintro ⟨place, member, walks⟩
    exact walks.mem_of_closed closed member

end Walks

/-- The places behind those that are allowed. -/
def stepsOne (allowed : Nat → Bool) (places : List Nat) : List Nat :=
  (places.filter allowed).map (· + 1)

theorem mem_stepsOne_iff {allowed : Nat → Bool} {places : List Nat} {place : Nat} :
    place ∈ stepsOne allowed places ↔
      ∃ before ∈ places, allowed before = true ∧ before + 1 = place := by
  simp [stepsOne, and_assoc]

/-- What is found are the places that can be got to: every step leads from a known place to a known
one, or the place is fresh and still to be followed. -/
theorem mem_closure_iff {allowed : Nat → Bool} {size : Nat}
    (within : ∀ place, allowed place = true → place < size) {fuel : Nat} {known fresh : List Nat}
    (followed : ∀ place ∈ known, allowed place = true → place + 1 ∈ known ∨ place ∈ fresh)
    (old : ∀ place ∈ fresh, place ∈ known) (fueled : ∀ place ∈ fresh, size ≤ fuel + place)
    (place : Nat) :
    place ∈ closure (stepsOne allowed) fuel known fresh ↔
      ∃ start ∈ known, Walks allowed start place := by
  induction fuel generalizing known fresh with
  | zero =>
    refine Walks.mem_iff_of_closed fun before member passes =>
      (followed before member passes).resolve_right fun inFresh => ?_
    have short := fueled before inFresh
    have inside := within before passes
    omega
  | succ fuel ih =>
    rw [closure]
    split
    · rename_i none
      rw [List.isEmpty_iff] at none
      refine Walks.mem_iff_of_closed fun before member passes =>
        (followed before member passes).resolve_right ?_
      simp [none]
    · have next {found : Nat} : found ∈ (stepsOne allowed fresh).filter (!known.contains ·) ↔
          (∃ before ∈ fresh, allowed before = true ∧ before + 1 = found) ∧ found ∉ known := by
        rw [List.mem_filter, mem_stepsOne_iff]
        simp
      rw [ih]
      · constructor
        · rintro ⟨start, member, walks⟩
          rcases List.mem_append.mp member with before | after
          · exact ⟨start, before, walks⟩
          · obtain ⟨⟨before, inFresh, passes, rfl⟩, _⟩ := next.mp after
            exact ⟨before, old before inFresh, walks.step passes⟩
        · rintro ⟨start, member, walks⟩
          exact ⟨start, List.mem_append_left _ member, walks⟩
      · intro before member passes
        rw [List.mem_append]
        rcases List.mem_append.mp member with earlier | later
        · by_cases stays : before + 1 ∈ known
          · exact .inl (.inl stays)
          · have inFresh := (followed before earlier passes).resolve_left stays
            exact .inl (.inr (next.mpr ⟨⟨before, inFresh, passes, rfl⟩, stays⟩))
        · exact .inr later
      · exact fun before member => List.mem_append_right _ member
      · intro found member
        obtain ⟨⟨before, inFresh, _, rfl⟩, _⟩ := next.mp member
        have enough := fueled before inFresh
        omega

/-- Is there a character of the class at the place? -/
def admits (text : Array Char) (chars : CharSet) (place : Nat) : Bool :=
  text[place]?.any chars.contains

theorem lt_size_of_admits {text : Array Char} {chars : CharSet} {place : Nat}
    (admitted : admits text chars place = true) : place < text.size := by
  refine Nat.lt_of_not_le fun beyond => ?_
  rw [admits, Array.getElem?_eq_none beyond] at admitted
  cases admitted

theorem mem_ends_set_iff {text : Array Char} {chars : CharSet} {places : List Nat} {place : Nat} :
    place ∈ ends text (set chars) places ↔
      ∃ start ∈ places, admits text chars start = true ∧ start + 1 = place :=
  mem_stepsOne_iff

/-- A class that is repeated at least once reads as many characters of it as there may be. -/
theorem mem_ends_repeated_iff {text : Array Char} {chars : CharSet} {places : List Nat}
    {place : Nat} :
    place ∈ ends text (repeated (set chars) 1 none) places ↔
      ∃ start ∈ places, admits text chars start = true ∧
        Walks (admits text chars) (start + 1) place := by
  show place ∈ closure (stepsOne (admits text chars)) (text.size + 1)
    (stepsOne (admits text chars) places) (stepsOne (admits text chars) places) ↔ _
  rw [mem_closure_iff (fun _ => lt_size_of_admits) (fun _ member _ => .inr member)
    (fun _ member => member) (fun _ _ => by omega)]
  simp only [mem_stepsOne_iff]
  constructor
  · rintro ⟨_, ⟨start, member, admitted, rfl⟩, walks⟩
    exact ⟨start, member, admitted, walks⟩
  · rintro ⟨start, member, admitted, walks⟩
    exact ⟨_, ⟨start, member, admitted, rfl⟩, walks⟩

variable {line : List Char} {chars : CharSet} {places : List Nat} {next : List Char → Prop}

theorem drop_succ_of_drop {start : Nat} {c : Char} {rest : List Char}
    (here : line.drop start = c :: rest) : line.drop (start + 1) = rest := by
  rw [← List.tail_drop, here]
  rfl

theorem admits_toArray_iff {place : Nat} :
    admits line.toArray chars place = true ↔
      ∃ c, chars.contains c = true ∧ line.drop place = c :: line.drop (place + 1) := by
  rw [admits, List.getElem?_toArray, ← List.head?_drop, ← List.tail_drop]
  cases line.drop place with
  | nil => simp
  | cons c rest => simp

/-- What is walked over is a text of characters of the class. -/
theorem exists_walks_iff {start : Nat} :
    (∃ place, Walks (admits line.toArray chars) start place ∧ next (line.drop place)) ↔
      ∃ value rest, line.drop start = value ++ rest ∧ (∀ c ∈ value, chars.contains c = true) ∧
        next rest := by
  constructor
  · rintro ⟨place, walks, goes⟩
    induction walks with
    | stay place => exact ⟨[], line.drop place, rfl, nofun, goes⟩
    | step here later ih =>
      obtain ⟨c, inside, whole⟩ := admits_toArray_iff.mp here
      obtain ⟨value, rest, split, all, goes⟩ := ih goes
      refine ⟨c :: value, rest, by rw [whole, split]; rfl, ?_, goes⟩
      exact List.forall_mem_cons.mpr ⟨inside, all⟩
  · rintro ⟨value, rest, split, all, goes⟩
    induction value generalizing start with
    | nil => exact ⟨start, .stay start, by rwa [split]⟩
    | cons c value ih =>
      obtain ⟨inside, others⟩ := List.forall_mem_cons.mp all
      have later : line.drop (start + 1) = value ++ rest := drop_succ_of_drop split
      obtain ⟨place, walks, ends⟩ := ih later others
      have here : admits line.toArray chars start = true :=
        admits_toArray_iff.mpr ⟨c, inside, by rw [split, later]; rfl⟩
      exact ⟨place, .step here walks, ends⟩

theorem exists_mem_ends_set_iff :
    (∃ place ∈ ends line.toArray (set chars) places, next (line.drop place)) ↔
      ∃ start ∈ places, ∃ c rest, line.drop start = c :: rest ∧ chars.contains c = true ∧
        next rest := by
  simp only [mem_ends_set_iff, admits_toArray_iff]
  constructor
  · rintro ⟨_, ⟨start, member, ⟨c, inside, whole⟩, rfl⟩, goes⟩
    exact ⟨start, member, c, _, whole, inside, goes⟩
  · rintro ⟨start, member, c, rest, whole, inside, goes⟩
    have later := drop_succ_of_drop whole
    exact ⟨start + 1, ⟨start, member, ⟨c, inside, by rw [whole, later]⟩, rfl⟩, by rwa [later]⟩

theorem exists_mem_ends_repeated_iff :
    (∃ place ∈ ends line.toArray (repeated (set chars) 1 none) places, next (line.drop place)) ↔
      ∃ start ∈ places, ∃ value rest, line.drop start = value ++ rest ∧ value ≠ [] ∧
        (∀ c ∈ value, chars.contains c = true) ∧ next rest := by
  simp only [mem_ends_repeated_iff, admits_toArray_iff]
  constructor
  · rintro ⟨place, ⟨start, member, ⟨c, inside, whole⟩, walks⟩, goes⟩
    obtain ⟨value, rest, split, all, goes⟩ := exists_walks_iff.mp ⟨place, walks, goes⟩
    refine ⟨start, member, c :: value, rest, by rw [whole, split]; rfl, List.cons_ne_nil _ _,
      List.forall_mem_cons.mpr ⟨inside, all⟩, goes⟩
  · rintro ⟨start, member, value, rest, split, nonempty, all, goes⟩
    cases value with
    | nil => exact absurd rfl nonempty
    | cons c value =>
      obtain ⟨inside, others⟩ := List.forall_mem_cons.mp all
      have later : line.drop (start + 1) = value ++ rest := drop_succ_of_drop split
      obtain ⟨place, walks, ends⟩ := exists_walks_iff.mpr ⟨value, rest, later, others, goes⟩
      exact ⟨place, ⟨start, member, ⟨c, inside, by rw [split, later]; rfl⟩, walks⟩, ends⟩

end Regex

end ScenarioRunner
