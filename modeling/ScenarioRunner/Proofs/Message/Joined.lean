import ScenarioRunner.Proofs.Message.Balanced
import ScenarioRunner.Proofs.Message.Inserted

namespace ScenarioRunner

/-- No header and no token starts in the text and ends behind it: after each opening brace the text
has a closing one, or it ends where the next brace opens. -/
def Apart (text more : List Char) : Prop :=
  ∀ rest, '\x7b' :: rest <:+ text → '\x7d' ∈ rest ∨ more.head? = some '\x7b'

/-- A brace that opens before a closing one has it behind itself. -/
theorem closing_mem_or_suffix {before after rest : List Char}
    (inside : '\x7b' :: rest <:+ before ++ '\x7d' :: after) :
    '\x7d' ∈ rest ∨ '\x7b' :: rest <:+ after := by
  obtain ⟨lead, whole⟩ := inside
  rcases List.append_eq_append_iff.mp whole with ⟨middle, _, next⟩ | ⟨middle, _, next⟩
  · cases middle with
    | nil => cases next
    | cons c middle =>
      obtain ⟨_, rfl⟩ := List.cons.inj next
      exact .inl (by simp)
  · cases middle with
    | nil => cases next
    | cons c middle =>
      obtain ⟨_, later⟩ := List.cons.inj next
      exact .inr ⟨middle, later.symm⟩

namespace Apart

theorem suffix {text later more : List Char} (apart : Apart text more) (behind : later <:+ text) :
    Apart later more :=
  fun rest inside => apart rest (inside.trans behind)

theorem nil (more : List Char) : Apart [] more := fun _ inside => nomatch List.suffix_nil.mp inside

theorem closed {text more : List Char} (apart : Apart text more) (before : List Char) :
    Apart (before ++ '\x7d' :: text) more := fun rest inside =>
  (closing_mem_or_suffix inside).elim .inl (apart rest)

/-- What is spelled without an opening brace, and has a closing one at its end only, stays within the
text that it starts in. -/
theorem prefix_of_append {spelling rest more : List Char} (apart : Apart ('\x7b' :: rest) more)
    (noOpening : '\x7b' ∉ spelling) (noClosing : '\x7d' ∉ spelling.dropLast)
    (starts : spelling <+: rest ++ more) : spelling <+: rest := by
  obtain ⟨after, whole⟩ := starts
  rcases List.append_eq_append_iff.mp whole with ⟨left, longer, _⟩ | ⟨beyond, longer, next⟩
  · exact ⟨left, longer.symm⟩
  · cases beyond with
    | nil => exact ⟨[], by simpa using longer⟩
    | cons c beyond =>
      rcases apart rest (List.suffix_refl _) with closes | opens
      · rw [longer, List.dropLast_append_of_ne_nil (List.cons_ne_nil c beyond)] at noClosing
        exact absurd (List.mem_append_left _ closes) noClosing
      · rw [next] at opens
        cases opens
        exact absurd (by simp [longer]) noOpening

end Apart

theorem Balanced.apart {text : List Char} (balanced : Balanced text) (more : List Char) :
    Apart text more := by
  induction balanced using Balanced.induction with
  | nil => exact .nil more
  | char c rest plain _ ih =>
    intro later inside
    rcases List.suffix_cons_iff.mp inside with same | behind
    · cases same
      cases plain
    · exact ih later behind
  | block name header inner rest _ _ _ _ ih =>
    rw [← List.append_assoc]
    exact ih.closed _
  | braces inner rest _ _ _ _ ih =>
    rw [← List.cons_append]
    exact ih.closed _

theorem pluralPieces_append {text more : List Char} (apart : Apart text more) :
    pluralPieces (text ++ more) = pluralPieces text ++ pluralPieces more := by
  induction text using pluralPieces_induction with
  | nil => simp [pluralPieces]
  | header name header rest spelled ih =>
    rw [List.append_assoc, pluralPieces_header spelled, pluralPieces_header spelled,
      ih (apart.suffix (List.suffix_append _ _)), List.cons_append]
  | plain c rest none ih =>
    have still : c = '\x7b' → pluralOpening? (rest ++ more) = Option.none := by
      rintro rfl
      by_contra read
      obtain ⟨⟨name, after⟩, found⟩ := Option.ne_none_iff_exists'.mp read
      obtain ⟨header, spelled, whole⟩ := pluralHeader_of_opening found
      have braceless := fun c (member : c ∈ header) =>
        isBrace_eq_false_iff.mp (spelled.isBrace_eq_false member)
      obtain ⟨within, rfl⟩ : header <+: rest := apart.prefix_of_append
        (fun inside => (braceless _ inside).1 rfl)
        (fun inside => (braceless _ (List.dropLast_subset _ inside)).2 rfl) ⟨after, whole.symm⟩
      rw [spelled.opening] at none
      cases none rfl
    rw [List.cons_append, pluralPieces_of_plain still, pluralPieces_of_plain none,
      ih (apart.suffix (List.suffix_cons c rest)), List.cons_append]

theorem bracedPieces_append {text more : List Char} (apart : Apart text more) :
    bracedPieces (text ++ more) = bracedPieces text ++ bracedPieces more := by
  induction text using bracedPieces_induction with
  | nil => simp [bracedPieces]
  | token name rest word ih =>
    have later := ih (apart.suffix (List.suffix_append _ _))
    have spelled (text : List Char) : (BracedPiece.token name).source ++ text =
        '\x7b' :: (name ++ '\x7d' :: text) := by simp [BracedPiece.source]
    rw [List.append_assoc, spelled, spelled,
      bracedPieces_token (bracedWord?_eq_some_iff.mpr ⟨word, rfl⟩),
      bracedPieces_token (bracedWord?_eq_some_iff.mpr ⟨word, rfl⟩), later, List.cons_append]
  | plain c rest none ih =>
    have still : ¬ BeginsToken (c :: (rest ++ more)) := by
      rw [beginsToken_cons_iff]
      rintro ⟨rfl, name, after, read⟩
      obtain ⟨word, whole⟩ := bracedWord?_eq_some_iff.mp read
      have braceless := fun c (member : c ∈ name) =>
        isBrace_eq_false_iff.mp (isBrace_of_isWordChar (word.made c member))
      obtain ⟨within, rfl⟩ : name ++ ['\x7d'] <+: rest := apart.prefix_of_append
        (fun inside => by
          rcases List.mem_append.mp inside with named | last
          · exact (braceless _ named).1 rfl
          · cases List.mem_singleton.mp last)
        (fun inside => (braceless _ (by simpa using inside)).2 rfl)
        ⟨after, by rw [whole]; simp⟩
      exact none ⟨name, word, within, by simp [BracedPiece.source]⟩
    rw [List.cons_append, bracedPieces_plain still, bracedPieces_plain none,
      ih (apart.suffix (List.suffix_cons c rest)), List.cons_append]

theorem fillTokens_apart {params : Params} {text more : List Char} (apart : Apart text more) :
    fillTokens params (text ++ more) = fillTokens params text ++ fillTokens params more := by
  rw [fillTokens, bracedPieces_append apart, List.flatMap_append]
  rfl

end ScenarioRunner
