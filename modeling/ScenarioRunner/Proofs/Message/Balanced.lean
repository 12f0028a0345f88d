import ScenarioRunner.Proofs.Message.Resolved

namespace ScenarioRunner

/-- What stands before a closing brace closes, of the braces that are open, those that were open
before the text. -/
theorem closing?_append {depth : Nat} {text body after : List Char}
    (closed : closing? depth text = some (body, after)) (more : Nat) (rest : List Char) :
    closing? (more + depth) (body ++ rest) =
      (closing? more rest).map fun (inner, last) => (body ++ inner, last) := by
  induction text generalizing depth body with
  | nil => simp [closing?] at closed
  | cons c tail ih =>
    unfold closing? at closed
    by_cases close : c = '\x7d'
    · subst close
      cases depth with
      | zero =>
        cases closed
        simp
      | succ depth =>
        obtain ⟨⟨inner, last⟩, found, same⟩ := Option.map_eq_some_iff.mp closed
        cases same
        have step : closing? (more + (depth + 1)) ('\x7d' :: (inner ++ rest)) =
            (closing? (more + depth) (inner ++ rest)).map
              fun (body, after) => ('\x7d' :: body, after) := rfl
        rw [List.cons_append, step, ih found, Option.map_map]
        rfl
    · rw [if_neg close] at closed
      obtain ⟨⟨inner, last⟩, found, same⟩ := Option.map_eq_some_iff.mp closed
      cases same
      have deeper : (if c = '\x7b' then more + depth + 1 else more + depth) =
          more + if c = '\x7b' then depth + 1 else depth := by
        split <;> rfl
      rw [List.cons_append, closing?.eq_def]
      simp only [if_neg close]
      rw [deeper, ih found, Option.map_map]
      rfl

theorem balanced_of_closing {text body after : List Char}
    (closed : closing? 0 text = some (body, after)) : Balanced body :=
  fun depth rest => closing?_append closed depth rest

/-- What follows does not change which brace closes. -/
theorem closing?_of_prefix {text body after : List Char}
    (closed : closing? 0 text = some (body, after)) (more : List Char) :
    closing? 0 (text ++ more) = some (body, after ++ more) := by
  rw [closing?_eq_some closed, List.append_assoc]
  exact (balanced_of_closing closed).closing?_eq _

/-- The brace that closes one more level is the next that closes behind the one before. -/
theorem closing?_succ {depth : Nat} {text body after : List Char}
    (closed : closing? (depth + 1) text = some (body, after)) :
    ∃ inner rest last, closing? depth text = some (inner, rest) ∧
      closing? 0 rest = some (last, after) ∧ body = inner ++ '\x7d' :: last := by
  induction text generalizing depth body with
  | nil => simp [closing?] at closed
  | cons c tail ih =>
    unfold closing? at closed
    by_cases close : c = '\x7d'
    · subst close
      obtain ⟨⟨other, _⟩, found, same⟩ := Option.map_eq_some_iff.mp closed
      cases same
      cases depth with
      | zero => exact ⟨[], tail, other, rfl, found, rfl⟩
      | succ depth =>
        obtain ⟨inner, rest, last, before, behind, rfl⟩ := ih found
        refine ⟨'\x7d' :: inner, rest, last, ?_, behind, rfl⟩
        have step : closing? (depth + 1) ('\x7d' :: tail) =
            (closing? depth tail).map fun (body, after) => ('\x7d' :: body, after) := rfl
        rw [step, before]
        rfl
    · rw [if_neg close] at closed
      obtain ⟨⟨other, _⟩, found, same⟩ := Option.map_eq_some_iff.mp closed
      cases same
      have deeper : (if c = '\x7b' then depth + 1 + 1 else depth + 1) =
          (if c = '\x7b' then depth + 1 else depth) + 1 := by
        split <;> rfl
      rw [deeper] at found
      obtain ⟨inner, rest, last, before, behind, rfl⟩ := ih found
      refine ⟨c :: inner, rest, last, ?_, behind, rfl⟩
      rw [closing?.eq_def]
      simp only [if_neg close, before]
      rfl

theorem balanced_iff_closing {text : List Char} :
    Balanced text ↔ closing? 0 (text ++ ['\x7d']) = some (text, []) :=
  ⟨fun balanced => balanced.closing?_eq [], balanced_of_closing⟩

instance (text : List Char) : Decidable (Balanced text) :=
  decidable_of_iff _ balanced_iff_closing.symm

namespace Balanced

theorem tail {c : Char} {rest : List Char} (plain : isBrace c = false)
    (balanced : Balanced (c :: rest)) : Balanced rest := by
  have closed := balanced.closing?_eq []
  have first : closing? 0 (c :: (rest ++ ['\x7d'])) = _ := Balanced.char plain 0 (rest ++ ['\x7d'])
  rw [List.cons_append, first] at closed
  obtain ⟨⟨body, after⟩, found, same⟩ := Option.map_eq_some_iff.mp closed
  cases same
  exact balanced_of_closing found

theorem of_append {lead rest : List Char} (plain : ∀ c ∈ lead, isBrace c = false)
    (balanced : Balanced (lead ++ rest)) : Balanced rest := by
  induction lead with
  | nil => exact balanced
  | cons c lead ih =>
    obtain ⟨here, later⟩ := List.forall_mem_cons.mp plain
    exact ih later (balanced.tail here)

theorem not_closing {rest : List Char} : ¬ Balanced ('\x7d' :: rest) := by
  intro balanced
  have closed := balanced.closing?_eq []
  cases closed

theorem opened {text : List Char} (balanced : Balanced ('\x7b' :: text)) :
    ∃ inner rest, text = inner ++ '\x7d' :: rest ∧ Balanced inner ∧ Balanced rest := by
  have closed := balanced.closing?_eq []
  have first : closing? 0 ('\x7b' :: (text ++ ['\x7d'])) =
      (closing? 1 (text ++ ['\x7d'])).map fun (body, after) => ('\x7b' :: body, after) := rfl
  rw [List.cons_append, first] at closed
  obtain ⟨⟨body, after⟩, found, same⟩ := Option.map_eq_some_iff.mp closed
  cases same
  obtain ⟨inner, rest, last, before, behind, rfl⟩ := closing?_succ found
  exact ⟨inner, last, rfl, balanced_of_closing before, balanced_of_closing behind⟩

theorem enclosed {inner rest : List Char} (inside : Balanced inner) (behind : Balanced rest) :
    Balanced ('\x7b' :: (inner ++ '\x7d' :: rest)) := by
  have whole := inside.braced.append behind
  rwa [List.cons_append, List.cons_append, List.append_assoc, List.singleton_append] at whole

theorem block {name header inner rest : List Char} (spelled : PluralHeader name header)
    (inside : Balanced inner) (behind : Balanced rest) :
    Balanced ('\x7b' :: header ++ (inner ++ '\x7d' :: rest)) := by
  have within := (Balanced.chars fun c member => spelled.isBrace_eq_false member).append inside
  rw [List.cons_append, ← List.append_assoc]
  exact within.enclosed behind

/-- A balanced text is empty, or starts with a character that is no brace, or with a brace that
closes; this brace may open a block. -/
theorem induction {motive : (text : List Char) → Balanced text → Prop} (nil : motive [] .nil)
    (char : ∀ c rest (plain : isBrace c = false) (behind : Balanced rest), motive rest behind →
      motive (c :: rest) ((Balanced.char plain).append behind))
    (block : ∀ name header inner rest (spelled : PluralHeader name header)
      (inside : Balanced inner) (behind : Balanced rest), motive inner inside → motive rest behind →
      motive ('\x7b' :: header ++ (inner ++ '\x7d' :: rest)) (.block spelled inside behind))
    (braces : ∀ inner rest, (∀ name header, PluralHeader name header → ¬ header <+: inner) →
      ∀ (inside : Balanced inner) (behind : Balanced rest), motive inner inside →
      motive rest behind → motive ('\x7b' :: (inner ++ '\x7d' :: rest)) (.enclosed inside behind))
    {text : List Char} (balanced : Balanced text) : motive text balanced := by
  induction size : text.length using Nat.strongRecOn generalizing text with
  | ind n ih =>
    cases text with
    | nil => exact nil
    | cons c rest =>
      by_cases plain : isBrace c = false
      · have shorter : rest.length < n := by
          rw [← size]
          simp
        exact char c rest plain (balanced.tail plain) (ih _ shorter _ rfl)
      · by_cases opening : c = '\x7b'
        · subst opening
          obtain ⟨inner, last, rfl, inside, behind⟩ := balanced.opened
          simp only [List.length_cons, List.length_append] at size
          have later := ih last.length (by omega) behind rfl
          -- A header has no braces, so what stands between it and the closing brace is balanced.
          by_cases header : ∃ name header, PluralHeader name header ∧ header <+: inner
          · obtain ⟨name, header, spelled, form, rfl⟩ := header
            have within := inside.of_append fun c member => spelled.isBrace_eq_false member
            rw [List.length_append] at size
            have here := ih form.length (by omega) within rfl
            have whole := block name header form last spelled within behind here later
            simpa only [List.cons_append, List.append_assoc] using whole
          · have noHeader : ∀ name header, PluralHeader name header → ¬ header <+: inner :=
              fun name start spelled before => header ⟨name, start, spelled, before⟩
            have here := ih inner.length (by omega) inside rfl
            exact braces inner last noHeader inside behind here later
        · have closing : c = '\x7d' := by
            by_contra other
            exact plain (isBrace_eq_false_iff.mpr ⟨opening, other⟩)
          exact absurd (closing ▸ balanced) not_closing

end Balanced

end ScenarioRunner
