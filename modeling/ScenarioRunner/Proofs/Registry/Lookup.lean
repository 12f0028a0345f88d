import ScenarioRunner.Proofs.Pattern.Kinds
import ScenarioRunner.Registry

namespace ScenarioRunner

namespace Registry

variable {φ : Type}

/-- The registries that can be built. A pattern only ever comes from a template, so there is one way
to register an action, whether or not placeholders are given kinds. -/
inductive Built : Registry φ → Prop
  | empty : Built empty
  | register {registry : Registry φ} {limit : SizeLimit} {template : String}
      {kinds : List (String × ParamKind)} {pattern : StepPattern} (action : φ) : Built registry →
      StepPattern.compile limit template kinds = .ok pattern →
      Built (registry.register pattern action)
  | merge {a b : Registry φ} : Built a → Built b → Built (a.merge b)

theorem Built.compiled {registry : Registry φ} (built : Built registry) :
    ∀ definition ∈ registry.definitions, ∃ limit kinds,
      StepPattern.compile limit definition.pattern.template kinds = .ok definition.pattern := by
  induction built with
  | empty => simp [Registry.empty]
  | @register registry limit template kinds pattern action _ compiled ih =>
    intro definition member
    rcases List.mem_append.mp member with old | new
    · exact ih definition old
    · cases List.mem_singleton.mp new
      exact ⟨limit, kinds, by rw [StepPattern.template_compile compiled]; exact compiled⟩
  | merge _ _ first second =>
    intro definition member
    rcases List.mem_append.mp member with left | right
    · exact first definition left
    · exact second definition right

/-- The template fits the step text, whatever the kinds of its placeholders. -/
def Fits (definition : StepDefinition φ) (text : String) : Prop :=
  ∃ texts, StepPattern.CapturesTexts definition.pattern.template text texts

/-- The first definition whose template fits. -/
def FirstFit (registry : Registry φ) (text : String) (definition : StepDefinition φ) : Prop :=
  ∃ before after, registry.definitions = before ++ definition :: after ∧
    (∀ other ∈ before, ¬ Fits other text) ∧ Fits definition text

/-- What is found for a step text: the first definition that fits, with the values of the texts that
it captures, or the first of these texts that is no value of its kind. -/
inductive Finds (registry : Registry φ) (text : String) :
    Except ConversionError (Option (StepMatch φ)) → Prop
  | missing : (∀ definition ∈ registry.definitions, ¬ Fits definition text) →
      Finds registry text (.ok none)
  | found {definition : StepDefinition φ} {texts : List String} {values : List Value} :
      FirstFit registry text definition →
      StepPattern.CapturesTexts definition.pattern.template text texts →
      StepPattern.Reads definition.pattern.holes (texts.map String.toList) values →
      Finds registry text (.ok (some ⟨definition, values⟩))
  | failed {definition : StepDefinition φ} {texts : List String} {hole : Hole}
      {captured : List Char} :
      FirstFit registry text definition →
      StepPattern.CapturesTexts definition.pattern.template text texts →
      StepPattern.FailsAt definition.pattern.holes (texts.map String.toList) hole captured →
      Finds registry text (.error ⟨String.ofList captured, hole.name, hole.kind⟩)

section Compiled

variable {definition : StepDefinition φ} {limit : SizeLimit} {kinds : List (String × ParamKind)}
  {text : String}

theorem fits_iff
    (compiled : StepPattern.compile limit definition.pattern.template kinds =
      .ok definition.pattern) :
    Fits definition text ↔ ∃ captures, definition.pattern.captures? text.toList = some captures := by
  constructor
  · rintro ⟨texts, captured⟩
    exact ⟨_, (StepPattern.capturesTexts_iff compiled).mp captured⟩
  · rintro ⟨captures, captured⟩
    refine ⟨captures.map String.ofList, (StepPattern.capturesTexts_iff compiled).mpr ?_⟩
    simp [captured, Function.comp_def]

theorem match?_of_not_fits
    (compiled : StepPattern.compile limit definition.pattern.template kinds =
      .ok definition.pattern)
    (unfit : ¬ Fits definition text) : definition.pattern.match? text = .ok none := by
  have none : definition.pattern.captures? text.toList = none := by
    refine Option.eq_none_iff_forall_ne_some.mpr fun captures captured => ?_
    exact unfit ((fits_iff compiled).mpr ⟨captures, captured⟩)
  rw [StepPattern.match?, none]

end Compiled

/-- Definitions that do not fit are passed over. -/
theorem findIn_append {text : String} {before : List (StepDefinition φ)}
    (unfit : ∀ definition ∈ before, definition.pattern.match? text = .ok none)
    (rest : List (StepDefinition φ)) : findIn text (before ++ rest) = findIn text rest := by
  induction before with
  | nil => rfl
  | cons definition before ih =>
    obtain ⟨here, later⟩ := List.forall_mem_cons.mp unfit
    rw [List.cons_append, findIn, here]
    exact ih later

theorem findIn_append_eq (text : String) (first second : List (StepDefinition φ)) :
    findIn text (first ++ second) =
      match findIn text first with
      | .ok none => findIn text second
      | found => found := by
  induction first with
  | nil => rfl
  | cons definition rest ih =>
    rw [List.cons_append, findIn, findIn]
    cases definition.pattern.match? text with
    | error e => rfl
    | ok found =>
      cases found with
      | none => exact ih
      | some args => rfl

variable {registry : Registry φ} {text : String}

theorem find_of_firstFit (built : registry.Built) {definition : StepDefinition φ}
    (first : FirstFit registry text definition) {texts : List String}
    (captured : StepPattern.CapturesTexts definition.pattern.template text texts) :
    registry.find text = (StepPattern.convert definition.pattern.holes
      (texts.map String.toList)).map fun values => some ⟨definition, values⟩ := by
  obtain ⟨before, after, whole, unfit, _⟩ := first
  have passed : ∀ other ∈ before, other.pattern.match? text = .ok none := by
    intro other member
    obtain ⟨_, _, compiled⟩ := built.compiled other (by simp [whole, member])
    exact match?_of_not_fits compiled (unfit other member)
  obtain ⟨_, _, compiled⟩ := built.compiled definition (by simp [whole])
  have split := (StepPattern.capturesTexts_iff compiled).mp captured
  rw [find, whole, findIn_append passed, findIn, StepPattern.match?, split]
  simp only
  cases StepPattern.convert definition.pattern.holes (texts.map String.toList) <;> rfl

theorem find_of_finds (built : registry.Built)
    {outcome : Except ConversionError (Option (StepMatch φ))} (finds : Finds registry text outcome) :
    registry.find text = outcome := by
  cases finds with
  | missing unfit =>
    have passed : ∀ definition ∈ registry.definitions, definition.pattern.match? text = .ok none := by
      intro definition member
      obtain ⟨_, _, compiled⟩ := built.compiled definition member
      exact match?_of_not_fits compiled (unfit definition member)
    have none := findIn_append passed []
    rwa [List.append_nil] at none
  | found first captured reads =>
    rw [find_of_firstFit built first captured, StepPattern.convert_of_reads reads]
    rfl
  | failed first captured fails =>
    rw [find_of_firstFit built first captured, StepPattern.convert_of_failsAt fails]
    rfl

/-- No definition fits, or there is a first one. -/
theorem exists_firstFit (registry : Registry φ) (text : String) :
    (∀ definition ∈ registry.definitions, ¬ Fits definition text) ∨
      ∃ definition, FirstFit registry text definition := by
  unfold FirstFit
  induction registry.definitions with
  | nil => exact .inl (by simp)
  | cons definition rest ih =>
    by_cases fits : Fits definition text
    · exact .inr ⟨definition, [], rest, rfl, by simp, fits⟩
    · rcases ih with unfit | ⟨first, before, after, whole, unfit, known⟩
      · exact .inl (List.forall_mem_cons.mpr ⟨fits, unfit⟩)
      · refine .inr ⟨first, definition :: before, after, by rw [whole]; rfl, ?_, known⟩
        exact List.forall_mem_cons.mpr ⟨fits, unfit⟩

theorem exists_finds (registry : Registry φ) (text : String) :
    ∃ outcome, Finds registry text outcome := by
  rcases exists_firstFit registry text with unfit | ⟨definition, first⟩
  · exact ⟨_, .missing unfit⟩
  · obtain ⟨_, _, _, _, texts, captured⟩ := id first
    rcases StepPattern.exists_reads_or_failsAt definition.pattern.holes
        (texts.map String.toList) with ⟨values, reads⟩ | ⟨hole, text, fails⟩
    · exact ⟨_, .found first captured reads⟩
    · exact ⟨_, .failed first captured fails⟩

theorem find_merge (a b : Registry φ) (text : String) :
    (a.merge b).find text =
      match a.find text with
      | .ok none => b.find text
      | found => found := findIn_append_eq text a.definitions b.definitions

theorem merge_assoc (a b c : Registry φ) : (a.merge b).merge c = a.merge (b.merge c) := by
  simp [merge]

/-- The first template that fits decides what is found, for every way to build a registry. A merged
registry asks its first part first. -/
theorem find_eq_iff_finds (built : registry.Built) :
    (∀ outcome, registry.find text = outcome ↔ Finds registry text outcome) ∧
    (∀ a b : Registry φ, (a.merge b).find text =
      match a.find text with
      | .ok none => b.find text
      | found => found) ∧
    (∀ a b c : Registry φ, (a.merge b).merge c = a.merge (b.merge c)) ∧
    ∀ a : Registry φ, empty.merge a = a ∧ a.merge empty = a := by
  refine ⟨fun outcome => ⟨?_, find_of_finds built⟩, fun a b => find_merge a b text, merge_assoc, ?_⟩
  · rintro rfl
    obtain ⟨outcome, finds⟩ := exists_finds registry text
    rw [find_of_finds built finds]
    exact finds
  · exact fun a => ⟨rfl, by simp [merge, empty]⟩

theorem find_eq_iff_finds_unreadable :
    ∃ typed untyped : StepPattern,
      StepPattern.compile .unlimited "I wait \x7bsecs\x7d seconds" [("secs", .int)] = .ok typed ∧
      StepPattern.compile .unlimited "I wait \x7bn\x7d seconds" [] = .ok untyped ∧
      ((empty.register typed "wait").register untyped "stay").Built ∧
      ((empty.register typed "wait").register untyped "stay").find "I wait many seconds" =
        .error ⟨"many", "secs", .int⟩ ∧
      Finds ((empty.register typed "wait").register untyped "stay") "I wait many seconds"
        (.error ⟨"many", "secs", .int⟩) := by
  obtain ⟨typed, known⟩ : ∃ typed : StepPattern, typed = ⟨"I wait \x7bsecs\x7d seconds",
      "I wait ".toList, [⟨"secs", .int, " seconds".toList⟩]⟩ := ⟨_, rfl⟩
  obtain ⟨untyped, also⟩ : ∃ untyped : StepPattern, untyped = ⟨"I wait \x7bn\x7d seconds",
      "I wait ".toList, [⟨"n", .string, " seconds".toList⟩]⟩ := ⟨_, rfl⟩
  have compiled : StepPattern.compile .unlimited "I wait \x7bsecs\x7d seconds" [("secs", .int)] =
      .ok typed := by
    rw [known]
    decide +kernel
  have again : StepPattern.compile .unlimited "I wait \x7bn\x7d seconds" [] = .ok untyped := by
    rw [also]
    decide +kernel
  have captured : typed.captures? "I wait many seconds".toList = some ["many".toList] := by
    rw [known]
    decide +kernel
  have built : ((empty.register typed "wait").register untyped "stay").Built :=
    (Built.empty.register "wait" compiled).register "stay" again
  have found : ((empty.register typed "wait").register untyped "stay").find
      "I wait many seconds" = .error ⟨"many", "secs", .int⟩ := by
    rw [find, register, register, empty, List.nil_append, List.singleton_append, findIn,
      StepPattern.match?, captured, known]
    rfl
  obtain ⟨decided, _⟩ := @find_eq_iff_finds _ _ "I wait many seconds" built
  exact ⟨typed, untyped, compiled, again, built, found, (decided _).mp found⟩

end Registry

end ScenarioRunner
