import ScenarioRunner.Pattern.Match
import ScenarioRunner.Proofs.Pattern.Split
import ScenarioRunner.Proofs.Text.Cut

namespace ScenarioRunner

/-- The captures are the solution whose lengths come first. There are none where nothing solves. -/
def IsLeast (solves : Captures → Prop) : Option Captures → Prop
  | none => ∀ values, ¬ solves values
  | some values =>
    solves values ∧ ∀ others, solves others → (values.map List.length).le (others.map List.length)

theorem lengths_le_iff {m n : Nat} {others more : List Nat} :
    (m :: others).le (n :: more) ↔ m < n ∨ m = n ∧ others.le more := List.cons_le_cons_iff

/-- The text starts with the literal, and the values solve the rest. -/
def LiteralThen (literal : List Char) (solves : List Char → Captures → Prop) (text : List Char)
    (values : Captures) : Prop :=
  ∃ rest, text = literal ++ rest ∧ solves rest values

/-- The text starts with the first value, and the others solve the rest. -/
def CaptureThen (solves : List Char → Captures → Prop) (text : List Char) (values : Captures) :
    Prop :=
  ∃ value rest others, values = value :: others ∧ text = value ++ rest ∧ value ≠ [] ∧
    '\n' ∉ value ∧ solves rest others

/-- How a text is made of values with the given literals behind them. -/
def Solves : List (List Char) → List Char → Captures → Prop
  | [] => fun text values => text = [] ∧ values = []
  | literal :: rest => CaptureThen (LiteralThen literal (Solves rest))

theorem IsLeast.congr {one two : Captures → Prop} (same : ∀ values, one values ↔ two values)
    {found : Option Captures} (least : IsLeast one found) : IsLeast two found := by
  have equal : one = two := funext fun values => propext (same values)
  rwa [← equal]

theorem IsLeast.eq_none_iff {solves : Captures → Prop} {found : Option Captures}
    (least : IsLeast solves found) : found = none ↔ ¬ ∃ values, solves values := by
  cases found with
  | none =>
    refine ⟨fun _ => ?_, fun _ => rfl⟩
    rintro ⟨values, solved⟩
    exact least values solved
  | some values =>
    refine ⟨fun same => ?_, fun unsolved => ?_⟩
    · cases same
    · exact absurd ⟨values, least.1⟩ unsolved

theorem CaptureThen.nonempty {solves : List Char → Captures → Prop} {text : List Char}
    {values : Captures} (solved : CaptureThen solves text values) :
    ∃ value others, values = value :: others ∧ 0 < value.length := by
  obtain ⟨value, rest, others, rfl, _, filled, _⟩ := solved
  exact ⟨value, others, rfl, List.length_pos_iff.mpr filled⟩

namespace CaptureTable

/-- The table has the first solution of each end of the text. -/
def Describes (solves : List Char → Captures → Prop) : List Char → CaptureTable → Prop
  | [], table => ∃ here, table = [here] ∧ IsLeast (solves []) here
  | c :: rest, table =>
    ∃ here more, table = here :: more ∧ IsLeast (solves (c :: rest)) here ∧
      Describes solves rest more

variable {solves : List Char → Captures → Prop} {text : List Char} {table : CaptureTable}

theorem Describes.head (described : Describes solves text table) :
    IsLeast (solves text) table.head?.join := by
  cases text with
  | nil =>
    obtain ⟨here, rfl, least⟩ := described
    exact least
  | cons c rest =>
    obtain ⟨here, more, rfl, least, _⟩ := described
    exact least

theorem Describes.drop (described : Describes solves text table) {count : Nat}
    (within : count ≤ text.length) : Describes solves (text.drop count) (table.drop count) := by
  induction text generalizing table count with
  | nil =>
    have none : count = 0 := by simpa using within
    rw [none]
    exact described
  | cons c rest ih =>
    cases count with
    | zero => exact described
    | succ fewer =>
      obtain ⟨here, more, rfl, _, later⟩ := described
      exact ih later (by simpa using within)

theorem describes_final (text : List Char) : Describes (Solves []) text (final text) := by
  induction text with
  | nil =>
    refine ⟨some [], rfl, ⟨rfl, rfl⟩, fun others _ => ?_⟩
    exact List.nil_le (others.map List.length)
  | cons c rest ih =>
    refine ⟨none, final rest, rfl, fun values solved => ?_, ih⟩
    have empty := solved.1
    cases empty

theorem isLeast_throughLiteral (literal : List Char) (described : Describes solves text table) :
    IsLeast (LiteralThen literal solves text)
      (if literal.isPrefixOf text then (table.drop literal.length).head?.join else none) := by
  by_cases start : literal <+: text
  · rw [if_pos (List.isPrefixOf_iff_prefix.mpr start)]
    have least := (described.drop start.length_le).head
    refine least.congr fun values => ?_
    constructor
    · intro solved
      exact ⟨_, (List.prefix_iff_eq_append.mp start).symm, solved⟩
    · rintro ⟨rest, rfl, solved⟩
      rwa [List.drop_left]
  · have other : ¬ literal.isPrefixOf text = true :=
      fun whole => start (List.isPrefixOf_iff_prefix.mp whole)
    rw [if_neg other]
    rintro values ⟨rest, rfl, _⟩
    exact start (List.prefix_append literal rest)

theorem describes_throughLiteral (literal : List Char) (described : Describes solves text table) :
    Describes (LiteralThen literal solves) text
      (throughLiteral literal text (table.drop literal.length)) := by
  induction text generalizing table with
  | nil => exact ⟨_, rfl, isLeast_throughLiteral literal described⟩
  | cons c rest ih =>
    have here := isLeast_throughLiteral literal described
    obtain ⟨first, more, rfl, _, later⟩ := described
    have next := ih later
    refine ⟨_, _, rfl, here, ?_⟩
    simpa [List.drop_drop] using next

/-- A value that starts with this character is the character alone, or goes on. -/
theorem captureThen_cons_iff {c : Char} {values : Captures} :
    CaptureThen solves (c :: text) values ↔ c ≠ '\n' ∧
      ((∃ others, values = [c] :: others ∧ solves text others) ∨
        ∃ longer, values = widen c longer ∧ CaptureThen solves text longer) := by
  constructor
  · rintro ⟨value, rest, others, rfl, whole, nonempty, flat, solved⟩
    cases value with
    | nil => exact absurd rfl nonempty
    | cons d more =>
      obtain ⟨rfl, later⟩ := List.cons.inj whole
      refine ⟨fun same => flat (by rw [same]; exact List.mem_cons_self ..), ?_⟩
      cases more with
      | nil =>
        rw [later]
        exact .inl ⟨others, rfl, solved⟩
      | cons e further =>
        refine .inr ⟨(e :: further) :: others, rfl, e :: further, rest, others, rfl, later,
          by simp, ?_, solved⟩
        exact fun inside => flat (List.mem_cons_of_mem _ inside)
  · rintro ⟨other, ⟨others, rfl, solved⟩ |
      ⟨longer, rfl, value, rest, others, rfl, rfl, nonempty, flat, solved⟩⟩
    · exact ⟨[c], text, others, rfl, rfl, by simp, by simpa using other.symm, solved⟩
    · refine ⟨c :: value, rest, others, rfl, rfl, by simp, ?_, solved⟩
      intro inside
      rcases List.mem_cons.mp inside with same | deeper
      · exact other same.symm
      · exact flat deeper

/-- No solution comes before one whose first value is the character alone. -/
theorem isLeast_shortest {c : Char} (other : c ≠ '\n') {others : Captures}
    (least : IsLeast (solves text) (some others)) :
    IsLeast (CaptureThen solves (c :: text)) (some ([c] :: others)) := by
  obtain ⟨solved, first⟩ := least
  refine ⟨captureThen_cons_iff.mpr ⟨other, .inl ⟨others, rfl, solved⟩⟩, fun values solution => ?_⟩
  obtain ⟨_, ⟨rest, rfl, ends⟩ | ⟨further, rfl, goes⟩⟩ := captureThen_cons_iff.mp solution
  · show (1 :: others.map List.length).le (1 :: rest.map List.length)
    rw [lengths_le_iff]
    exact .inr ⟨rfl, first rest ends⟩
  · obtain ⟨value, rest, rfl, filled⟩ := goes.nonempty
    show (1 :: others.map List.length).le ((value.length + 1) :: rest.map List.length)
    rw [lengths_le_iff]
    left
    omega

/-- First values that grow by the same character keep their order. -/
theorem widen_le_widen {c : Char} {one two : Captures} (first : CaptureThen solves text one)
    (second : CaptureThen solves text two)
    (order : (one.map List.length).le (two.map List.length)) :
    ((widen c one).map List.length).le ((widen c two).map List.length) := by
  obtain ⟨value, rest, rfl, _⟩ := first.nonempty
  obtain ⟨longest, others, rfl, _⟩ := second.nonempty
  simp only [List.map_cons, lengths_le_iff] at order
  show ((value.length + 1) :: rest.map List.length).le
    ((longest.length + 1) :: others.map List.length)
  rw [lengths_le_iff]
  rcases order with shorter | ⟨same, later⟩
  · left
    omega
  · exact .inr ⟨by omega, later⟩

/-- Where the first value cannot end here, it goes on as from the next place. -/
theorem isLeast_widen {c : Char} (other : c ≠ '\n') (ends : IsLeast (solves text) none)
    {longer : Option Captures} (goesOn : IsLeast (CaptureThen solves text) longer) :
    IsLeast (CaptureThen solves (c :: text)) (longer.map (widen c)) := by
  have begins {values : Captures} (solution : CaptureThen solves (c :: text) values) :
      ∃ further, values = widen c further ∧ CaptureThen solves text further := by
    obtain ⟨_, ⟨rest, _, solved⟩ | goes⟩ := captureThen_cons_iff.mp solution
    · exact absurd solved (ends rest)
    · exact goes
  cases longer with
  | none =>
    intro values solution
    obtain ⟨further, _, goes⟩ := begins solution
    exact goesOn further goes
  | some least =>
    obtain ⟨solved, first⟩ := goesOn
    refine ⟨captureThen_cons_iff.mpr ⟨other, .inr ⟨least, rfl, solved⟩⟩, fun values solution => ?_⟩
    obtain ⟨further, rfl, goes⟩ := begins solution
    exact widen_le_widen solved goes (first further goes)

theorem describes_throughCapture (described : Describes solves text table) :
    Describes (CaptureThen solves) text (throughCapture text table) := by
  induction text generalizing table with
  | nil =>
    refine ⟨none, rfl, fun values solved => ?_⟩
    obtain ⟨value, rest, others, _, whole, filled, _⟩ := solved
    exact filled (List.append_eq_nil_iff.mp whole.symm).1
  | cons c rest ih =>
    obtain ⟨first, more, rfl, _, later⟩ := described
    have longer := ih later
    refine ⟨_, throughCapture rest more, rfl, ?_, longer⟩
    by_cases newline : c = '\n'
    · rw [if_pos newline]
      intro values solution
      exact (captureThen_cons_iff.mp solution).1 newline
    · rw [if_neg newline]
      have ends := later.head
      rw [List.drop_succ_cons, List.drop_zero]
      cases next : more.head?.join with
      | some others =>
        rw [next] at ends
        exact isLeast_shortest newline ends
      | none =>
        rw [next] at ends
        exact isLeast_widen newline ends longer.head

theorem describes_ofLiterals (text : List Char) (literals : List (List Char)) :
    Describes (Solves literals) text (ofLiterals text literals) := by
  induction literals with
  | nil => exact describes_final text
  | cons literal rest ih => exact describes_throughCapture (describes_throughLiteral literal ih)

end CaptureTable

theorem solves_iff (literals : List (List Char)) (text : List Char) (values : Captures) :
    Solves literals text values ↔ values.length = literals.length ∧
      (∀ value ∈ values, value ≠ [] ∧ '\n' ∉ value) ∧
      text = (List.zipWith (· ++ ·) values literals).flatten := by
  induction literals generalizing text values with
  | nil =>
    constructor
    · rintro ⟨rfl, rfl⟩
      simp
    · rintro ⟨length, _, rfl⟩
      have none := List.eq_nil_of_length_eq_zero length
      exact ⟨by simp, none⟩
  | cons literal rest ih =>
    constructor
    · rintro ⟨value, tail, others, rfl, rfl, filled, flat, later, rfl, solved⟩
      obtain ⟨length, clean, whole⟩ := (ih later others).mp solved
      refine ⟨by simp [length], ?_, by simp [whole]⟩
      intro found member
      rcases List.mem_cons.mp member with rfl | deeper
      · exact ⟨filled, flat⟩
      · exact clean found deeper
    · rintro ⟨length, clean, rfl⟩
      cases values with
      | nil => simp at length
      | cons value others =>
        obtain ⟨filled, flat⟩ := clean value (List.mem_cons_self ..)
        have solved := (ih _ others).mpr ⟨by simpa using length,
          fun found member => clean found (List.mem_cons_of_mem _ member), rfl⟩
        exact ⟨value, _, others, rfl, by simp, filled, flat, _, rfl, solved⟩

/-- Solutions with values of the same lengths are the same. -/
theorem Solves.eq_of_lengths {literals : List (List Char)} {text : List Char} {one two : Captures}
    (first : Solves literals text one) (second : Solves literals text two)
    (lengths : one.map List.length = two.map List.length) : one = two := by
  induction literals generalizing text one two with
  | nil => rw [first.2, second.2]
  | cons literal rest ih =>
    obtain ⟨value, tail, others, rfl, whole, _, _, later, rfl, solved⟩ := first
    obtain ⟨other, tail, more, rfl, again, _, _, behind, rfl, solution⟩ := second
    obtain ⟨size, sizes⟩ := List.cons.inj lengths
    obtain ⟨rfl, same⟩ := List.append_inj (whole.symm.trans again) size
    rw [List.append_cancel_left_eq] at same
    rw [ih solved (same ▸ solution) sizes]

/-- The values fill the places of a split template, and give the line. -/
structure Fills (lead : List Char) (places : List (List Char × List Char)) (line : List Char)
    (values : Captures) : Prop where
  length : values.length = places.length
  nonempty : ∀ value ∈ values, value ≠ []
  flat : ∀ value ∈ values, '\n' ∉ value
  whole : line = lead ++ (List.zipWith (fun value place => value ++ place.2) values places).flatten

theorem fills_nil_iff (lead line : List Char) (values : Captures) :
    Fills lead [] line values ↔ values = [] ∧ line = lead := by
  constructor
  · rintro ⟨length, _, _, rfl⟩
    have none := List.eq_nil_of_length_eq_zero length
    exact ⟨none, by simp⟩
  · rintro ⟨rfl, rfl⟩
    exact ⟨rfl, by simp, by simp, by simp⟩

theorem fills_iff (lead : List Char) (places : List (List Char × List Char)) (line : List Char)
    (values : Captures) :
    Fills lead places line values ↔ LiteralThen lead (Solves (places.map Prod.snd)) line values := by
  have zipped : List.zipWith (fun value place => value ++ place.2) values places =
      List.zipWith (· ++ ·) values (places.map Prod.snd) := by
    rw [List.zipWith_map_right]
  constructor
  · rintro ⟨length, nonempty, flat, rfl⟩
    refine ⟨_, rfl, (solves_iff _ _ _).mpr ⟨by simpa using length, ?_, by rw [zipped]⟩⟩
    exact fun value member => ⟨nonempty value member, flat value member⟩
  · rintro ⟨rest, rfl, solved⟩
    obtain ⟨length, clean, whole⟩ := (solves_iff _ _ _).mp solved
    refine ⟨by simpa using length, fun value member => (clean value member).1,
      fun value member => (clean value member).2, ?_⟩
    rw [whole, zipped]

namespace StepPattern

/-- The captures are the shortest values that fill the pattern, those of earlier places first. -/
theorem isLeast_captures? (pattern : StepPattern) (line : List Char) :
    IsLeast (Fills pattern.lead (pattern.holes.map fun hole => (hole.name.toList, hole.after)) line)
      (pattern.captures? line) := by
  let literals := pattern.holes.map Hole.after
  have same (values : Captures) : LiteralThen pattern.lead (Solves literals) line values ↔
      Fills pattern.lead (pattern.holes.map fun hole => (hole.name.toList, hole.after)) line
        values := by
    rw [fills_iff, List.map_map]
    rfl
  refine IsLeast.congr same ?_
  unfold captures?
  cases after : afterStart? pattern.lead line with
  | none =>
    rintro values ⟨rest, whole, _⟩
    exact afterStart?_eq_none_iff.mp after ⟨rest, whole.symm⟩
  | some rest =>
    have whole := afterStart?_eq_some after
    have least := (CaptureTable.describes_ofLiterals rest literals).head
    refine least.congr fun values => ⟨fun solved => ⟨rest, whole, solved⟩, ?_⟩
    rintro ⟨other, split, solved⟩
    rw [whole, List.append_cancel_left_eq] at split
    rwa [split]

/-- Texts need no conversion. -/
theorem convert_strings {holes : List Hole} (strings : ∀ hole ∈ holes, hole.kind = .string)
    {captures : Captures} (length : captures.length = holes.length) :
    convert holes captures = .ok (captures.map fun text => .string (String.ofList text)) := by
  induction holes generalizing captures with
  | nil =>
    have none := List.eq_nil_of_length_eq_zero length
    rw [none]
    rfl
  | cons hole rest ih =>
    cases captures with
    | nil => simp at length
    | cons text texts =>
      have later := ih (fun other member => strings other (List.mem_cons_of_mem _ member))
        (by simpa using length)
      have here : hole.kind.convert hole.name text = .ok (.string (String.ofList text)) := by
        rw [strings hole (List.mem_cons_self ..)]
        rfl
      rw [convert, here, later]
      rfl

theorem match?_eq_captures? {pattern : StepPattern}
    (strings : ∀ hole ∈ pattern.holes, hole.kind = .string) (line : String) :
    pattern.match? line = .ok ((pattern.captures? line.toList).map fun captures =>
      captures.map fun text => .string (String.ofList text)) := by
  have least := isLeast_captures? pattern line.toList
  unfold match?
  cases captured : pattern.captures? line.toList with
  | none => rfl
  | some captures =>
    rw [captured] at least
    have length : captures.length = pattern.holes.length := by simpa using least.1.length
    simp only [convert_strings strings length]
    rfl

/-- A pattern of texts matches the lines that its template can be filled to. Of all ways to fill it,
the one with the shortest first value is taken, then that with the shortest second, and so on. -/
theorem match?_of_strings {limit : SizeLimit} {template : String} {kinds : List (String × ParamKind)}
    {pattern : StepPattern} (compiled : compile limit template kinds = .ok pattern)
    (strings : ∀ hole ∈ pattern.holes, hole.kind = .string) :
    ∃ lead places, TemplateSplit template.toList lead places ∧
      (∀ other others, TemplateSplit template.toList other others →
        other = lead ∧ others = places) ∧
      ∀ line : String,
        ((∃ values, pattern.match? line = .ok (some values)) ↔
          ∃ texts, Fills lead places line.toList texts) ∧
        (pattern.match? line = .ok none ↔ ¬ ∃ texts, Fills lead places line.toList texts) ∧
        (∀ values, pattern.match? line = .ok (some values) → values.length = places.length ∧
          ∃ texts, values = texts.map (fun text => .string (String.ofList text)) ∧
            Fills lead places line.toList texts ∧
            ∀ others, Fills lead places line.toList others →
              (texts.map List.length).le (others.map List.length)) ∧
        (places = [] → (pattern.match? line = .ok (some []) ↔ line = template)) := by
  have split := templateSplit_compile compiled
  refine ⟨_, _, split, fun other others another => another.unique split, fun line => ?_⟩
  have least := isLeast_captures? pattern line.toList
  rw [match?_eq_captures? strings line]
  have literal (none : pattern.holes.map (fun hole => (hole.name.toList, hole.after)) = [])
      (texts : Captures) : Fills pattern.lead
        (pattern.holes.map fun hole => (hole.name.toList, hole.after)) line.toList texts ↔
        texts = [] ∧ line = template := by
    rw [none] at split ⊢
    rw [fills_nil_iff, ← split.eq_lead_of_nil, String.toList_inj]
  cases captured : pattern.captures? line.toList with
  | none =>
    rw [captured] at least
    have unfilled := least.eq_none_iff.mp rfl
    refine ⟨?_, ?_, ?_, ?_⟩
    · simpa using unfilled
    · simpa using unfilled
    · intro values same
      cases same
    · intro none
      refine ⟨fun same => ?_, fun whole => ?_⟩
      · cases same
      · exact absurd ((literal none []).mpr ⟨rfl, whole⟩) (least [])
  | some captures =>
    rw [captured] at least
    obtain ⟨filled, first⟩ := least
    refine ⟨?_, ?_, ?_, ?_⟩
    · exact ⟨fun _ => ⟨captures, filled⟩, fun _ => ⟨_, rfl⟩⟩
    · refine ⟨fun same => ?_, fun unfilled => ?_⟩
      · cases same
      · exact absurd ⟨captures, filled⟩ unfilled
    · intro values same
      cases same
      exact ⟨by simpa using filled.length, captures, rfl, filled, first⟩
    · intro none
      obtain ⟨rfl, whole⟩ := (literal none captures).mp filled
      exact ⟨fun _ => whole, fun _ => rfl⟩

theorem match?_of_strings_point :
    ∃ pattern, compile .unlimited "point \x7bx\x7d, \x7by\x7d" [] = .ok pattern ∧
      (∀ hole ∈ pattern.holes, hole.kind = .string) ∧
      pattern.match? "point 1, 2, 3" = .ok (some [.string "1", .string "2, 3"]) ∧
      ∃ lead places texts, TemplateSplit "point \x7bx\x7d, \x7by\x7d".toList lead places ∧
        Fills lead places "point 1, 2, 3".toList texts := by
  obtain ⟨pattern, known⟩ : ∃ pattern : StepPattern, pattern = ⟨"point \x7bx\x7d, \x7by\x7d",
      "point ".toList, [⟨"x", .string, ", ".toList⟩, ⟨"y", .string, []⟩]⟩ := ⟨_, rfl⟩
  have compiled : compile .unlimited "point \x7bx\x7d, \x7by\x7d" [] = .ok pattern := by
    rw [known]
    decide +kernel
  have strings : ∀ hole ∈ pattern.holes, hole.kind = .string := by
    rw [known]
    decide
  have captured : pattern.captures? "point 1, 2, 3".toList =
      some [['1'], ['2', ',', ' ', '3']] := by
    rw [known]
    decide +kernel
  have matched := match?_eq_captures? strings "point 1, 2, 3"
  rw [captured] at matched
  obtain ⟨lead, places, split, _, matching⟩ := match?_of_strings compiled strings
  obtain ⟨_, _, found, _⟩ := matching "point 1, 2, 3"
  obtain ⟨_, texts, _, fills, _⟩ := found _ matched
  exact ⟨pattern, compiled, strings, matched, lead, places, texts, split, fills⟩

end StepPattern

end ScenarioRunner
