import ScenarioRunner.Proofs.Document.Canonical
import ScenarioRunner.Proofs.Document.PrintedLines
import ScenarioRunner.Proofs.Document.Recovery

namespace ScenarioRunner

namespace Reader

/-- Further lines of a description go below those that were read before. -/
theorem reads_furtherDescription {lines : List (List Char)}
    (valid : ∀ line ∈ lines, IsDescription line) (feature : Feature) (before : String) :
    (resting true { feature with description := some before } (.feature true)).Reads lines
      (resting true
        { feature with
          description := some (String.ofList (before.toList ++ lines.flatMap ('\n' :: ·))) }
        (.feature true)) := by
  induction lines generalizing before with
  | nil => simpa using Reads.nil _
  | cons line rest ih =>
    have role : (Section.feature true).setting.role (trim line) = .description line :=
      role_description rfl rfl rfl (valid line (List.mem_cons_self ..))
    refine .cons role rfl fun number => ?_
    have later := ih (fun other member => valid other (List.mem_cons_of_mem _ member))
      (before ++ "\n" ++ String.ofList line)
    have whole : (before ++ "\n" ++ String.ofList line).toList ++ rest.flatMap ('\n' :: ·) =
        before.toList ++ (line :: rest).flatMap ('\n' :: ·) := by simp
    rw [whole] at later
    exact later _ _ (settles_resting ..)

theorem reads_description {feature : Feature}
    (valid : ∀ line ∈ feature.descriptionLines, IsDescription line) {bare : Feature}
    (undescribed : bare.description = none) :
    (resting true bare (.feature true)).Reads feature.descriptionLines
      (resting true { bare with description := feature.description } (.feature true)) := by
  unfold Feature.descriptionLines at valid ⊢
  cases given : feature.description with
  | none =>
    have same : { bare with description := none } = bare := by rw [← undescribed]
    rw [same]
    exact .nil _
  | some text =>
    rw [given] at valid
    have joined : ['\n'].intercalate (text.toList.splitOn '\n') = text.toList :=
      List.intercalate_splitOn '\n'
    simp only [Option.map_some, Option.getD_some] at valid ⊢
    cases pieces : text.toList.splitOn '\n' with
    | nil => exact absurd pieces (List.splitOn_ne_nil _ _)
    | cons first rest =>
      rw [pieces, intercalate_eq] at joined
      rw [pieces] at valid
      have role : (Section.feature true).setting.role (trim first) = .description first :=
        role_description rfl rfl rfl (valid first (List.mem_cons_self ..))
      refine .cons role rfl fun number => ?_
      have later := reads_furtherDescription
        (fun other member => valid other (List.mem_cons_of_mem _ member)) bare
        (String.ofList first)
      rw [String.toList_ofList, joined, String.ofList_toList] at later
      have opened : (resting true bare (.feature true)).act number (.description first) =
          resting true { bare with description := some (String.ofList first) } (.feature true) := by
        simp only [act, addDescription, finishGathering_of_nothing, resting, undescribed]
      rw [opened]
      exact later _ _ (settles_resting ..)

/-- The reader of a document that is not given any places. -/
def fresh (path : Option SourcePath) : Reader :=
  resting false { name := Feature.unnamed, path := path } .start

theorem unlocated_start (path : Option SourcePath) : (start path).unlocated = fresh path := rfl

/-- A document that says all of a feature leads to just this feature. -/
theorem reads_feature {allowed : Char → Prop} {feature : Feature}
    (valid : feature.PrintableIn allowed) (path : Option SourcePath) :
    ∃ last : Reader, last.Holds { feature.unlocated with path := path } ∧
      (fresh path).Reads feature.lines last := by
  let bare : Feature := { name := feature.name, path := path, tags := feature.tags }
  let described : Feature := { bare with description := feature.description }
  have tags : (fresh path).Reads (tagLines feature.tags)
      (resting false { name := Feature.unnamed, path := path } .start feature.tags) :=
    reads_tagLines false _ [] valid.tags
  have known : ("Feature:", Header.feature) ∈ Header.spellings := by decide
  have description : (resting true bare (.feature true)).Reads feature.descriptionLines
      (resting true described (.feature true)) := reads_description valid.description rfl
  obtain ⟨last, holds, body⟩ : ∃ last : Reader,
      last.Holds { feature.unlocated with path := path } ∧
      (resting true described (.feature true)).Reads
        (feature.backgroundLines ++ (feature.scenarios.flatMap Scenario.lines ++
          feature.outlines.flatMap ScenarioOutline.lines)) last := by
    have begun : (resting true described (.feature true)).Holds described :=
      ⟨described, .feature true, rfl, rfl⟩
    obtain ⟨first, firstHolds, background⟩ : ∃ first : Reader,
        first.Holds { described with background := feature.background.map (·.map Step.unlocated) } ∧
        (resting true described (.feature true)).Reads feature.backgroundLines first := by
      unfold Feature.backgroundLines
      cases given : feature.background with
      | none => exact ⟨_, begun, .nil _⟩
      | some steps => exact begun.background (valid.background steps given)
    obtain ⟨second, secondHolds, scenarios⟩ := firstHolds.scenarios valid.scenarios
    obtain ⟨last, lastHolds, outlines⟩ := secondHolds.outlines valid.outlines
    exact ⟨last, lastHolds, background.append (scenarios.append outlines)⟩
  refine ⟨last, holds, tags.append ?_⟩
  refine .cons (role_headerLine _ known valid.name.trimmed) rfl fun number => ?_
  exact description.append body _ _ (settles_resting ..)

end Reader

/-- A printed feature is read back as it was, from wherever the document is said to come. -/
theorem unlocated_readFeature_print {feature : Feature} (valid : feature.Printable)
    (path : Option SourcePath) :
    (readFeature path feature.print).unlocated = { feature.unlocated with path := path } := by
  have lines : linesOf feature.print.toList = feature.lines := by
    have each := feature.isLine_lines valid
    rw [Feature.print, String.toList_ofList]
    exact linesOf_joinLines (fun line member => (each line member).1)
      fun line member => (each line member).2
  obtain ⟨last, ⟨rest, current, rfl, whole⟩, reads⟩ := Reader.reads_feature valid path
  have rests := reads (Reader.fresh path) (1 + 0) (Reader.settles_resting ..)
  rw [readFeature, lines, Reader.unlocated_finish_readLines _ 1 0, Reader.unlocated_start,
    rests.finish_eq, ← whole]
  rfl

/-- Printed features are read back as they were, and nothing but printable features is read. Where
carriage returns stand within lines, they are kept as characters like any other. -/
theorem readFeature_print_and_printable :
    (∀ (path : Option SourcePath) (feature : Feature), feature.Printable →
      (readFeature path feature.print).unlocated = { feature.unlocated with path := path }) ∧
    (∀ (path : Option SourcePath) (text : String), ReturnsEndLines text.toList →
      (readFeature path text).Printable) ∧
    ∀ (path : Option SourcePath) (text : String),
      (readFeature path text).PrintableIn (· ≠ '\n') := by
  refine ⟨fun path feature valid => unlocated_readFeature_print valid path,
    fun path text returns => readFeature_printable returns path, fun path text => ?_⟩
  have unnamed : ∀ c ∈ Feature.unnamed.toList, c ≠ '\n' := forall_mem_of_all (by decide)
  refine readFeature_printableIn (fun other => other rfl) unnamed (fun line member c inside => ?_) path
  rintro rfl
  exact newline_not_mem_line member inside

theorem readFeature_print_of_document :
    ReturnsEndLines "Feature: Sums\r\nScenario: Two\nGiven 1\n|a|\n".toList ∧
    (readFeature none
      (readFeature none "Feature: Sums\r\nScenario: Two\nGiven 1\n|a|\n").print).unlocated =
      { (readFeature none "Feature: Sums\r\nScenario: Two\nGiven 1\n|a|\n").unlocated with
        path := none } := by
  have returns : ReturnsEndLines "Feature: Sums\r\nScenario: Two\nGiven 1\n|a|\n".toList := by
    decide
  exact ⟨returns, readFeature_print_and_printable.1 none _
    (readFeature_print_and_printable.2.1 none _ returns)⟩

/-- A carriage return in the middle of a line becomes a part of the name. -/
theorem not_printable_of_return : ¬ (readFeature none "Feature: a\rb").Printable := by
  intro printable
  have name : (readFeature none "Feature: a\rb").name = "a\rb" := by decide
  have onLine := printable.name.made '\r'
  rw [name] at onLine
  exact (onLine (by decide)).2 rfl

end ScenarioRunner
