import Mathlib.Data.List.Basic
import Mathlib.Data.List.TakeWhile
import ScenarioRunner.Proofs.Text.Lines
import ScenarioRunner.SourcePath

namespace ScenarioRunner

namespace SourcePath

/-- The stretch stands for what its text stands for, at the start of a relative path or elsewhere. -/
structure Segment.Spelled (mayBeHere : Bool) (segment : Segment) : Prop where
  part : segment.part? = (Segment.read mayBeHere segment.text).part?
  whole : '/' ∉ segment.text

theorem Segment.read_ne_root (mayBeHere : Bool) (text : List Char) :
    (Segment.read mayBeHere text).part? ≠ some .root := by
  unfold Segment.read
  simp only
  split
  · simp
  · split
    · split <;> simp
    · split <;> simp

theorem Segment.Spelled.part?_of_text_eq_nil {segment : Segment} {mayBeHere : Bool}
    (spelled : segment.Spelled mayBeHere) (empty : segment.text = []) : segment.part? = none := by
  rw [spelled.part, empty]
  rfl

/-- Only a single dot may mean something else at the start of a path. -/
theorem Segment.Spelled.atStart {segment : Segment} {mayBeHere : Bool}
    (spelled : segment.Spelled mayBeHere) (solid : segment.part? ≠ none) :
    segment.Spelled true ∧ segment.text ≠ [] := by
  have nonempty : segment.text ≠ [] := fun empty => solid (spelled.part?_of_text_eq_nil empty)
  refine ⟨?_, nonempty⟩
  cases mayBeHere with
  | true => exact spelled
  | false =>
  have other : segment.text ≠ ['.'] := by
    intro dot
    refine solid ?_
    rw [spelled.part, dot]
    rfl
  refine ⟨?_, spelled.whole⟩
  rw [spelled.part]
  simp [Segment.read, other]

/-- The stretches of a path, as they were spelled. A relative path starts with an empty stretch only
if it is empty. -/
theorem segments_spelled (path : SourcePath) :
    ∃ first rest, path.segments = first :: rest ∧ first.Spelled (!path.isAbsolute) ∧
      (∀ segment ∈ rest, segment.Spelled false) ∧
      (path.isAbsolute = false → first.text = [] → rest = [] ∧ path.text = "") := by
  obtain ⟨body, known⟩ : ∃ body, body = if path.isAbsolute then path.text.toList.drop 1
    else path.text.toList := ⟨_, rfl⟩
  have joined : ['/'].intercalate (body.splitOn '/') = body := List.intercalate_splitOn '/'
  have clean (piece : List Char) (member : piece ∈ body.splitOn '/') : '/' ∉ piece :=
    separator_not_mem_piece member
  obtain ⟨first, rest, pieces⟩ := List.exists_cons_of_ne_nil (List.splitOn_ne_nil '/' body)
  rw [pieces] at joined clean
  refine ⟨.read (!path.isAbsolute) first, rest.map (.read false), ?_, ?_, ?_, ?_⟩
  · simp only [segments, ← known, pieces]
  · exact ⟨rfl, clean first (List.mem_cons_self ..)⟩
  · intro segment member
    obtain ⟨text, inside, rfl⟩ := List.mem_map.mp member
    exact ⟨rfl, clean text (List.mem_cons_of_mem _ inside)⟩
  · intro relative empty
    have nothing : first = [] := empty
    rw [relative, if_neg Bool.false_ne_true] at known
    cases rest with
    | nil =>
      rw [known, nothing, List.intercalate_singleton] at joined
      exact ⟨rfl, String.toList_eq_nil_iff.mp joined.symm⟩
    | cons next others =>
      have absolute : path.isAbsolute = true := by
        rw [isAbsolute, ← known, ← joined, nothing, List.intercalate_cons_cons]
        simp
      rw [relative] at absolute
      cases absolute

/-- Stretches that are read as they are when they make up a path. -/
structure Readable (absolute : Bool) (list : List Segment) : Prop where
  first : ∀ segment ∈ list.head?, segment.Spelled (!absolute)
  solid : absolute = false → ∀ segment ∈ list.head?, segment.text ≠ []
  rest : ∀ segment ∈ list.tail, segment.Spelled false

theorem Readable.take {absolute : Bool} {list kept : List Segment} (readable : Readable absolute list)
    (start : kept <+: list) : Readable absolute kept := by
  obtain ⟨dropped, rfl⟩ := start
  cases kept with
  | nil => exact ⟨by simp, by simp, by simp⟩
  | cons segment others =>
    exact ⟨readable.first, readable.solid,
      fun other member => readable.rest other (List.mem_append_left _ member)⟩

/-- A path that is put together from stretches has their parts. -/
theorem parts_ofSegments {absolute : Bool} {list : List Segment} (readable : Readable absolute list) :
    (ofSegments absolute list).parts =
      (if absolute then [.root] else []) ++ list.filterMap Segment.part? := by
  cases list with
  | nil => cases absolute <;> rfl
  | cons segment others =>
    have spelled : segment.Spelled (!absolute) := readable.first segment rfl
    have behind : ∀ other ∈ others, other.Spelled false := readable.rest
    have clean : ∀ piece ∈ (segment :: others).map Segment.text, '/' ∉ piece := by
      intro piece member
      obtain ⟨other, inside, rfl⟩ := List.mem_map.mp member
      rcases List.mem_cons.mp inside with rfl | later
      · exact spelled.whole
      · exact (behind other later).whole
    have pieces := List.splitOn_intercalate '/' clean (by simp)
    have isAbsolute : (ofSegments absolute (segment :: others)).isAbsolute = absolute := by
      cases absolute with
      | true => simp [SourcePath.isAbsolute, ofSegments]
      | false =>
        obtain ⟨c, text, letters⟩ := List.exists_cons_of_ne_nil (readable.solid rfl segment rfl)
        have other : c ≠ '/' := by
          rintro rfl
          exact spelled.whole (by simp [letters])
        cases others <;> simp [SourcePath.isAbsolute, ofSegments, letters, other,
          List.intercalate_cons_cons]
    have body : (if absolute then (ofSegments absolute (segment :: others)).text.toList.drop 1
        else (ofSegments absolute (segment :: others)).text.toList) =
        ['/'].intercalate ((segment :: others).map Segment.text) := by
      cases absolute <;> simp [ofSegments]
    have read : others.filterMap ((Segment.part? ∘ Segment.read false) ∘ Segment.text) =
        others.filterMap Segment.part? := by
      refine List.filterMap_congr fun other member => ?_
      exact (behind other member).part.symm
    rw [parts, segments, isAbsolute]
    simp only [body, pieces]
    rw [List.map_cons]
    simp only [List.filterMap_cons, ← spelled.part, List.filterMap_map, read]

theorem dropIdleEnd_append (list : List Segment) :
    ∃ idle, dropIdleEnd list ++ idle = list ∧ ∀ segment ∈ idle, segment.part? = none := by
  refine ⟨(list.reverse.takeWhile (·.part?.isNone)).reverse, ?_, ?_⟩
  · rw [dropIdleEnd, ← List.reverse_append, List.takeWhile_append_dropWhile, List.reverse_reverse]
  · intro segment member
    simpa using List.mem_takeWhile_imp (List.mem_reverse.mp member)

theorem filterMap_dropIdleEnd (list : List Segment) :
    (dropIdleEnd list).filterMap Segment.part? = list.filterMap Segment.part? := by
  obtain ⟨idle, whole, none⟩ := dropIdleEnd_append list
  have both := congrArg (List.filterMap Segment.part?) whole
  rwa [List.filterMap_append, List.filterMap_eq_nil_iff.mpr none, List.append_nil] at both

theorem Readable.parts_dropIdleEnd {absolute : Bool} {list : List Segment}
    (readable : Readable absolute list) :
    (ofSegments absolute (dropIdleEnd list)).parts =
      (if absolute then [.root] else []) ++ list.filterMap Segment.part? := by
  obtain ⟨idle, whole, _⟩ := dropIdleEnd_append list
  rw [parts_ofSegments (readable.take ⟨idle, whole⟩), filterMap_dropIdleEnd]

/-- What is left behind some parts starts with the next part. -/
theorem dropParts_spec (count : Nat) (list : List Segment) :
    dropParts count list <:+ list ∧
      (dropParts count list).filterMap Segment.part? = (list.filterMap Segment.part?).drop count ∧
      ∀ segment ∈ (dropParts count list).head?, segment.part? ≠ none := by
  induction list generalizing count with
  | nil => cases count <;> exact ⟨List.suffix_refl _, by simp [dropParts], by simp [dropParts]⟩
  | cons segment rest ih =>
    cases stands : segment.part? with
    | none =>
      obtain ⟨suffix, parts, solid⟩ := ih count
      have next : dropParts count (segment :: rest) = dropParts count rest := by
        simp [dropParts, stands]
      rw [next, List.filterMap_cons, stands]
      exact ⟨suffix.trans (List.suffix_cons ..), parts, solid⟩
    | some part =>
      cases count with
      | zero =>
        have next : dropParts 0 (segment :: rest) = segment :: rest := by simp [dropParts, stands]
        rw [next]
        exact ⟨List.suffix_refl _, rfl, by simp [stands]⟩
      | succ count =>
        obtain ⟨suffix, parts, solid⟩ := ih count
        have next : dropParts (count + 1) (segment :: rest) = dropParts count rest := by
          simp [dropParts, stands]
        rw [next, List.filterMap_cons, stands]
        exact ⟨suffix.trans (List.suffix_cons ..), parts, solid⟩

theorem parts_ofSegments_segments (path : SourcePath) :
    (ofSegments path.isAbsolute (dropIdleEnd path.segments)).parts = path.parts := by
  obtain ⟨first, rest, split, spelled, behind, empty⟩ := segments_spelled path
  by_cases nothing : path.isAbsolute = false ∧ first.text = []
  · obtain ⟨relative, blank⟩ := nothing
    have none := spelled.part?_of_text_eq_nil blank
    have own : path.parts = [] := by
      simp [parts, split, (empty relative blank).1, relative, none]
    have dropped : dropIdleEnd path.segments = [] := by
      simp [split, (empty relative blank).1, dropIdleEnd, none]
    rw [own, dropped, relative]
    rfl
  · have readable : Readable path.isAbsolute path.segments := by
      rw [split]
      refine ⟨fun segment member => ?_, fun relative segment member => ?_, behind⟩
      · cases member
        exact spelled
      · cases member
        exact fun blank => nothing ⟨relative, blank⟩
    exact readable.parts_dropIdleEnd

theorem parts_ofSegments_dropParts (path : SourcePath) (count : Nat) :
    (ofSegments false (dropIdleEnd (dropParts count path.segments))).parts =
      (path.segments.filterMap Segment.part?).drop count := by
  obtain ⟨suffix, parts, solid⟩ := dropParts_spec count path.segments
  obtain ⟨first, rest, split, spelled, behind, _⟩ := segments_spelled path
  rw [← parts]
  generalize dropParts count path.segments = left at suffix solid ⊢
  have start : ∀ segment ∈ left.head?, ∃ mayBeHere, segment.Spelled mayBeHere := by
    intro segment member
    rw [split] at suffix
    rcases List.suffix_cons_iff.mp suffix with rfl | later
    · cases member
      exact ⟨_, spelled⟩
    · exact ⟨false, behind segment (later.subset (List.mem_of_head? member))⟩
  have readable : Readable false left := by
    refine ⟨fun segment member => ?_, fun _ segment member => ?_, fun segment member => ?_⟩
    · obtain ⟨_, known⟩ := start segment member
      exact (known.atStart (solid segment member)).1
    · obtain ⟨_, known⟩ := start segment member
      exact (known.atStart (solid segment member)).2
    · rw [split] at suffix
      rcases List.suffix_cons_iff.mp suffix with rfl | later
      · exact behind segment member
      · exact behind segment (later.subset (List.mem_of_mem_tail member))
  exact readable.parts_dropIdleEnd

theorem root_mem_parts {path : SourcePath} {more : List PathPart} (known : path.parts = .root :: more) :
    path.isAbsolute = true := by
  obtain ⟨first, rest, split, spelled, behind, _⟩ := segments_spelled path
  cases absolute : path.isAbsolute with
  | true => rfl
  | false =>
    have member : PathPart.root ∈ path.segments.filterMap Segment.part? := by
      rw [parts, absolute] at known
      simp only [Bool.false_eq_true, if_false, List.nil_append] at known
      rw [known]
      exact List.mem_cons_self ..
    obtain ⟨segment, inside, stands⟩ := List.mem_filterMap.mp member
    rw [split] at inside
    rcases List.mem_cons.mp inside with rfl | later
    · rw [spelled.part] at stands
      exact absurd stands (Segment.read_ne_root _ _)
    · rw [(behind segment later).part] at stands
      exact absurd stands (Segment.read_ne_root _ _)

/-- What is left below a start has the parts behind those of the start. -/
theorem parts_below? {path start rest : SourcePath} (found : path.below? start = some rest) :
    path.parts = start.parts ++ rest.parts := by
  unfold below? at found
  split at found
  · rename_i begins
    obtain ⟨more, whole⟩ := List.isPrefixOf_iff_prefix.mp begins
    have kept {named : List PathPart} (count : path.segments.filterMap Segment.part? = named ++ more) :
        (ofSegments false (dropIdleEnd (dropParts named.length path.segments))).parts = more := by
      rw [parts_ofSegments_dropParts, count, List.drop_left]
    split at found
    · rename_i none
      obtain rfl := Option.some.inj found
      rw [none, parts_ofSegments_segments]
      rfl
    · rename_i named rooted
      obtain rfl := Option.some.inj found
      rw [rooted] at whole ⊢
      have absolute := root_mem_parts whole.symm
      have unrooted : path.segments.filterMap Segment.part? = named ++ more := by
        rw [parts, absolute] at whole
        simpa using whole.symm
      rw [kept unrooted, whole]
    · rename_i nonempty relative
      obtain rfl := Option.some.inj found
      have unrooted : path.segments.filterMap Segment.part? = start.parts ++ more := by
        cases absolute : path.isAbsolute with
        | false => simpa [parts, absolute] using whole.symm
        | true =>
          -- An absolute path only starts with a relative one if that has no parts at all.
          have own : path.parts = .root :: path.segments.filterMap Segment.part? := by
            simp [parts, absolute]
          rw [own] at whole
          cases first : start.parts with
          | nil => exact absurd first nonempty
          | cons part others =>
            rw [first] at whole
            have same : part = .root := by simpa using (List.cons.inj whole).1
            exact absurd (same ▸ first) (relative others)
      rw [kept unrooted, whole]
  · cases found

theorem exists_below? {path start : SourcePath} (begins : path.startsWith start = true) :
    ∃ rest, path.below? start = some rest := by
  unfold below?
  rw [if_pos begins]
  split <;> exact ⟨_, rfl⟩

theorem startsWith_iff {path start : SourcePath} :
    path.startsWith start = true ↔ start.parts <+: path.parts := List.isPrefixOf_iff_prefix

/-- A path without parts has no text either. -/
theorem isEmpty_iff_parts {path : SourcePath} : path.isEmpty = true ↔ path.parts = [] := by
  have text : path.isEmpty = true ↔ path.text = "" := String.isEmpty_iff
  rw [text]
  constructor
  · intro empty
    obtain rfl : path = ⟨""⟩ := by
      cases path
      exact congrArg SourcePath.mk empty
    rfl
  · intro none
    obtain ⟨first, rest, split, spelled, _, empty⟩ := segments_spelled path
    obtain ⟨unrooted, unnamed⟩ := List.append_eq_nil_iff.mp none
    have relative : path.isAbsolute = false := by
      cases absolute : path.isAbsolute with
      | false => rfl
      | true => simp [absolute] at unrooted
    refine (empty relative ?_).2
    have idle : first.part? = .none :=
      List.filterMap_eq_nil_iff.mp unnamed first (by simp [split])
    rw [spelled.part, relative, Segment.read] at idle
    by_contra solid
    simp only [solid, if_false, Bool.not_false, if_true] at idle
    split at idle
    · cases idle
    · split at idle <;> cases idle

end SourcePath

end ScenarioRunner
