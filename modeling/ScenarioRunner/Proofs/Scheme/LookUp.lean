import ScenarioRunner.Scheme.Resolver

namespace ScenarioRunner

/-- The handler has no function that panics. Messages never do. -/
def SchemeHandler.NeverPanics {π : Type} : SchemeHandler π → Prop
  | function answer => ∀ key params payload, answer key params ≠ .error payload
  | messages _ | messageFile _ => True

theorem SchemeHandler.NeverPanics.resolve {π : Type} {handler next : SchemeHandler π}
    {disk : FileTree} {key : String} {params : Params}
    {answer : Except π (Except (List String) Value)} (never : handler.NeverPanics)
    (asked : handler.resolve disk key params = (answer, next)) :
    (∀ payload, answer ≠ .error payload) ∧ next.NeverPanics := by
  cases handler with
  | function respond =>
    cases asked
    exact ⟨never key params, never⟩
  | messages entries =>
    cases asked
    exact ⟨nofun, trivial⟩
  | messageFile file =>
    cases asked
    exact ⟨nofun, trivial⟩

namespace Resolver

variable {π : Type}

/-- What a value gives when it is looked up, and the resolver that comes of it. Values of other kinds
than text stand for themselves, as do texts that are no references. A reference is answered by the
handler of its scheme, which is then in the state that the answer has left it in. -/
inductive LooksUp (disk : FileTree) (resolver : Resolver π) :
    Value → Except π (Except SchemeError Value) → Resolver π → Prop
  | other {value : Value} : (∀ raw, value ≠ .string raw) →
    LooksUp disk resolver value (.ok (.ok value)) resolver
  | plain {raw : String} : SchemeReference.read raw = .ok none →
    LooksUp disk resolver (.string raw) (.ok (.ok (.string raw))) resolver
  | malformed {raw : String} {fault : ReferenceFault} : SchemeReference.read raw = .error fault →
    LooksUp disk resolver (.string raw) (.ok (.error (.malformed raw fault))) resolver
  | unknown {raw : String} {reference : SchemeReference} :
    SchemeReference.read raw = .ok (some reference) →
    resolver.handlers.lookup reference.scheme = none →
    LooksUp disk resolver (.string raw)
      (.ok (.error (.unknownScheme raw (resolver.handlers.map Prod.fst)))) resolver
  | answered {raw : String} {reference : SchemeReference} {handler next : SchemeHandler π}
    {value : Value} : SchemeReference.read raw = .ok (some reference) →
    resolver.handlers.lookup reference.scheme = some handler →
    handler.resolve disk reference.key reference.params = (.ok (.ok value), next) →
    LooksUp disk resolver (.string raw) (.ok (.ok value))
      (resolver.withHandler reference.scheme next)
  | refused {raw : String} {reference : SchemeReference} {handler next : SchemeHandler π}
    {causes : List String} : SchemeReference.read raw = .ok (some reference) →
    resolver.handlers.lookup reference.scheme = some handler →
    handler.resolve disk reference.key reference.params = (.ok (.error causes), next) →
    LooksUp disk resolver (.string raw)
      (.ok (.error (.handler reference.scheme reference.key causes)))
      (resolver.withHandler reference.scheme next)
  | unwound {raw : String} {reference : SchemeReference} {handler next : SchemeHandler π}
    {payload : π} : SchemeReference.read raw = .ok (some reference) →
    resolver.handlers.lookup reference.scheme = some handler →
    handler.resolve disk reference.key reference.params = (.error payload, next) →
    LooksUp disk resolver (.string raw) (.error payload)
      (resolver.withHandler reference.scheme next)

/-- What values give when they are looked up one after another, up to the first that fails. -/
inductive LooksUpAll (disk : FileTree) :
    Resolver π → List Value → Except π (Except SchemeError (List Value)) → Resolver π → Prop
  | nil {resolver : Resolver π} : LooksUpAll disk resolver [] (.ok (.ok [])) resolver
  | cons {resolver next last : Resolver π} {value found : Value} {rest : List Value}
    {others : Except π (Except SchemeError (List Value))} :
    LooksUp disk resolver value (.ok (.ok found)) next → LooksUpAll disk next rest others last →
    LooksUpAll disk resolver (value :: rest) (others.map (·.map (found :: ·))) last
  | failed {resolver next : Resolver π} {value : Value} {rest : List Value} {error : SchemeError} :
    LooksUp disk resolver value (.ok (.error error)) next →
    LooksUpAll disk resolver (value :: rest) (.ok (.error error)) next
  | unwound {resolver next : Resolver π} {value : Value} {rest : List Value} {payload : π} :
    LooksUp disk resolver value (.error payload) next →
    LooksUpAll disk resolver (value :: rest) (.error payload) next

variable (disk : FileTree) (resolver : Resolver π)

theorem looksUp_resolve (raw : String) :
    LooksUp disk resolver (.string raw)
      ((resolver.resolve disk raw).1.map (·.map (·.value))) (resolver.resolve disk raw).2 := by
  unfold resolve
  cases read : SchemeReference.read raw with
  | error fault => exact .malformed read
  | ok reference? =>
    cases reference? with
    | none => exact .plain read
    | some reference =>
      cases known : resolver.handlers.lookup reference.scheme with
      | none =>
        simp only [known]
        exact .unknown read known
      | some handler =>
        simp only [known]
        cases asked : handler.resolve disk reference.key reference.params with
        | mk answer next =>
          rcases answer with payload | causes | value
          · exact .unwound read known asked
          · exact .refused read known asked
          · exact .answered read known asked

theorem looksUp_resolveValue (value : Value) :
    LooksUp disk resolver value ((resolver.resolveValue disk value).1.map (·.map (·.value)))
      (resolver.resolveValue disk value).2 := by
  cases value with
  | string raw => exact looksUp_resolve disk resolver raw
  | _ => exact .other nofun

theorem looksUpAll_resolveAll (values : List Value) :
    LooksUpAll disk resolver values
      ((resolver.resolveAll disk values).1.map (·.map (·.map (·.value))))
      (resolver.resolveAll disk values).2 := by
  induction values generalizing resolver with
  | nil => exact .nil
  | cons value rest ih =>
    have first := looksUp_resolveValue disk resolver value
    rw [resolveAll]
    generalize resolver.resolveValue disk value = asked at first
    rcases asked with ⟨payload | error | found, next⟩
    · exact .unwound first
    · exact .failed first
    · have later := LooksUpAll.cons first (ih next)
      simp only
      generalize next.resolveAll disk rest = others at later
      rcases others with ⟨payload | error | others, last⟩
      · exact later
      · exact later
      · simpa [Except.map] using later

/-- No function among the handlers panics. -/
def NeverPanics (resolver : Resolver π) : Prop := ∀ entry ∈ resolver.handlers, entry.2.NeverPanics

theorem mem_of_mem_insert {scheme : String} {handler : SchemeHandler π}
    {handlers : List (String × SchemeHandler π)} {entry : String × SchemeHandler π}
    (member : entry ∈ insert scheme handler handlers) :
    entry = (scheme, handler) ∨ entry ∈ handlers := by
  induction handlers with
  | nil => exact .inl (List.mem_singleton.mp member)
  | cons first rest ih =>
    rw [insert] at member
    split at member
    · exact List.mem_cons.mp member
    · split at member
      · exact (List.mem_cons.mp member).imp_right (List.mem_cons_of_mem _)
      · rcases List.mem_cons.mp member with same | later
        · exact .inr (same ▸ List.mem_cons_self ..)
        · exact (ih later).imp_right (List.mem_cons_of_mem _)

variable {disk resolver} {next : Resolver π}

theorem NeverPanics.withHandler (never : resolver.NeverPanics) {scheme : String}
    {handler : SchemeHandler π} (calm : handler.NeverPanics) :
    (resolver.withHandler scheme handler).NeverPanics := by
  intro entry member
  rcases mem_of_mem_insert member with rfl | before
  · exact calm
  · exact never entry before

theorem NeverPanics.of_lookup (never : resolver.NeverPanics) {scheme : String}
    {handler : SchemeHandler π} (known : resolver.handlers.lookup scheme = some handler) :
    handler.NeverPanics := by
  obtain ⟨before, after, whole, _⟩ := List.lookup_eq_some_iff.mp known
  refine never (scheme, handler) ?_
  rw [whole]
  exact List.mem_append_right before (List.mem_cons_self ..)

theorem LooksUp.neverPanics {value : Value} {answer : Except π (Except SchemeError Value)}
    (looksUp : LooksUp disk resolver value answer next) (never : resolver.NeverPanics) :
    (∀ payload, answer ≠ .error payload) ∧ next.NeverPanics := by
  cases looksUp with
  | other | plain | malformed | unknown => exact ⟨nofun, never⟩
  | answered _ known asked | refused _ known asked =>
    exact ⟨nofun, never.withHandler ((never.of_lookup known).resolve asked).2⟩
  | unwound _ known asked => exact absurd rfl (((never.of_lookup known).resolve asked).1 _)

theorem LooksUpAll.neverPanics {values : List Value}
    {answer : Except π (Except SchemeError (List Value))}
    (looksUp : LooksUpAll disk resolver values answer next) (never : resolver.NeverPanics) :
    (∀ payload, answer ≠ .error payload) ∧ next.NeverPanics := by
  induction looksUp with
  | nil => exact ⟨nofun, never⟩
  | @cons _ _ _ _ _ _ others here _ ih =>
    obtain ⟨returns, calm⟩ := ih (here.neverPanics never).2
    refine ⟨fun payload same => ?_, calm⟩
    cases others with
    | error other => exact returns other rfl
    | ok found => cases same
  | failed here => exact ⟨nofun, (here.neverPanics never).2⟩
  | unwound here => exact absurd rfl ((here.neverPanics never).1 _)

end Resolver

end ScenarioRunner
