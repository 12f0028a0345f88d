import ScenarioRunner.Pattern.Template
import ScenarioRunner.Proofs.Text.Braced

namespace ScenarioRunner

/-- No token begins in the text, even with what follows it. -/
def NoTokenIn (text rest : List Char) : Prop :=
  ∀ before after, text = before ++ after → after ≠ [] → ¬ BeginsToken (after ++ rest)

/-- A template is cut at the first token, and what follows this token again: into a lead, and the
name of each token with the literal text that follows it. -/
inductive TemplateSplit : List Char → List Char → List (List Char × List Char) → Prop
  | last {text : List Char} : NoTokenIn text [] → TemplateSplit text text []
  | more {lead name rest after : List Char} {places : List (List Char × List Char)} :
    IsWord name → NoTokenIn lead ((BracedPiece.token name).source ++ rest) →
    TemplateSplit rest after places →
    TemplateSplit (lead ++ ((BracedPiece.token name).source ++ rest)) lead ((name, after) :: places)

theorem noTokenIn_nil (rest : List Char) : NoTokenIn [] rest := by
  intro before after whole filled
  have both := List.append_eq_nil_iff.mp whole.symm
  exact absurd both.2 filled

theorem NoTokenIn.cons {c : Char} {text rest : List Char} (none : NoTokenIn text rest)
    (here : ¬ BeginsToken (c :: text ++ rest)) : NoTokenIn (c :: text) rest := by
  intro before after whole filled
  cases before with
  | nil =>
    rw [List.nil_append] at whole
    rwa [← whole]
  | cons d others =>
    obtain ⟨_, later⟩ := List.cons.inj whole
    exact none others after later filled

namespace TemplateSplit

theorem cons {c : Char} {text lead : List Char} {places : List (List Char × List Char)}
    (split : TemplateSplit text lead places) (here : ¬ BeginsToken (c :: text)) :
    TemplateSplit (c :: text) (c :: lead) places := by
  cases split with
  | last none => exact .last (none.cons (by simpa using here))
  | more word none later => exact .more word (none.cons here) later

theorem eq_lead_of_nil {text lead : List Char} (split : TemplateSplit text lead []) :
    text = lead := by
  cases split with
  | last none => rfl

/-- Of two leads that go up to the first token neither goes further. -/
theorem lead_le {lead other name rest text : List Char} (word : IsWord name)
    (none : NoTokenIn other text)
    (same : lead ++ ((BracedPiece.token name).source ++ rest) = other ++ text) :
    other.length ≤ lead.length := by
  rcases List.append_eq_append_iff.mp same with ⟨more, whole, tail⟩ | ⟨more, whole, tail⟩
  · by_cases empty : more = []
    · rw [whole, empty, List.append_nil]
    · have begins : BeginsToken (more ++ text) := ⟨name, word, rest, tail⟩
      exact absurd begins (none lead more whole empty)
  · rw [whole, List.length_append]
    omega

/-- There is one way to split a template. -/
theorem unique {text lead other : List Char} {places others : List (List Char × List Char)}
    (one : TemplateSplit text lead places) (two : TemplateSplit text other others) :
    lead = other ∧ places = others := by
  induction one generalizing other others with
  | @last text clean =>
    cases two with
    | last => exact ⟨rfl, rfl⟩
    | @more lead name rest after found word none later =>
      have short := lead_le word clean (List.append_nil _).symm
      simp only [BracedPiece.source, List.length_append, List.length_cons] at short
      omega
  | @more lead name rest after found word none later ih =>
    generalize whole : lead ++ ((BracedPiece.token name).source ++ rest) = text at two
    cases two with
    | last clean =>
      have short := lead_le word clean (whole.trans (List.append_nil _).symm)
      rw [← whole] at short
      simp only [BracedPiece.source, List.length_append, List.length_cons] at short
      omega
    | @more second label tail behind places spelled clean following =>
      have long := lead_le word clean whole
      have short := lead_le spelled none whole.symm
      obtain ⟨rfl, same⟩ := List.append_inj whole (by omega)
      have spelling : name ++ '\x7d' :: rest = label ++ '\x7d' :: tail := by
        simpa [BracedPiece.source] using same
      have read := bracedWord?_eq_some_iff.mpr ⟨word, spelling.symm⟩
      rw [bracedWord?_eq_some_iff.mpr ⟨spelled, rfl⟩] at read
      cases read
      obtain ⟨rfl, rfl⟩ := ih following
      exact ⟨rfl, rfl⟩

end TemplateSplit

namespace StepPattern

/-- What is gathered from the pieces of a template is its split. -/
theorem templateSplit_gather (kinds : List (String × ParamKind)) (text : List Char) :
    TemplateSplit text (gather kinds (bracedPieces text)).1
      ((gather kinds (bracedPieces text)).2.map fun hole => (hole.name.toList, hole.after)) := by
  induction text using bracedPieces_induction with
  | nil =>
    rw [bracedPieces]
    exact .last (noTokenIn_nil [])
  | token name rest word ih =>
    have read : bracedWord? (name ++ '\x7d' :: rest) = some (name, rest) :=
      bracedWord?_eq_some_iff.mpr ⟨word, rfl⟩
    have spelling : (BracedPiece.token name).source ++ rest = '\x7b' :: (name ++ '\x7d' :: rest) := by
      simp [BracedPiece.source]
    have pieces : bracedPieces ((BracedPiece.token name).source ++ rest) =
        .token name :: bracedPieces rest := by
      rw [spelling, bracedPieces_token read]
    rw [pieces]
    simp only [gather, List.map_cons, String.toList_ofList]
    exact .more word (noTokenIn_nil _) ih
  | plain c rest none ih =>
    rw [bracedPieces_plain none]
    exact ih.cons none

theorem templateSplit_compile {limit : SizeLimit} {template : String}
    {kinds : List (String × ParamKind)} {pattern : StepPattern}
    (compiled : compile limit template kinds = .ok pattern) :
    TemplateSplit template.toList pattern.lead
      (pattern.holes.map fun hole => (hole.name.toList, hole.after)) := by
  rw [eq_ofTemplate compiled]
  exact templateSplit_gather kinds template.toList

end StepPattern

end ScenarioRunner
