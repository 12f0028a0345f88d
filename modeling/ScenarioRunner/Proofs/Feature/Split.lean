import ScenarioRunner.Proofs.Feature.Outline

namespace ScenarioRunner

/-- A stretch of a template whose columns are known: text that every row leaves as it is, or a
reference to a column. -/
inductive TemplatePiece where
  | literal (text : List Char)
  | reference (opening : Char) (header : String)
  deriving DecidableEq, Repr

/-- How a piece is written in the template. -/
def TemplatePiece.spelling : TemplatePiece → List Char
  | literal text => text
  | reference opening header => opening :: header.toList ++ (closingBracket? opening).toList

/-- What a row puts in place of a piece. Of columns with the same header the first one counts. -/
def TemplatePiece.fill (headers row : List String) : TemplatePiece → List Char
  | literal text => text
  | reference _ header => (row.getD (headers.idxOf header) "").toList

/-- A reference counts as one if it names a column. -/
def OutlinePiece.among (headers : List String) : OutlinePiece → TemplatePiece
  | plain c => .literal [c]
  | reference opening column =>
    if String.ofList column ∈ headers then .reference opening (String.ofList column)
    else .literal (opening :: column ++ (closingBracket? opening).toList)

/-- The split of a template. No row has a part in it. -/
def templatePieces (headers : List String) (text : String) : List TemplatePiece :=
  (outlinePieces text.toList).map (·.among headers)

def fillTemplate (headers row : List String) (text : String) : String :=
  String.ofList ((templatePieces headers text).flatMap (·.fill headers row))

theorem lookup_zip {headers row : List String} (full : row.length = headers.length) {header : String}
    (known : header ∈ headers) :
    (headers.zip row).lookup header = some (row.getD (headers.idxOf header) "") := by
  induction headers generalizing row with
  | nil => cases known
  | cons first others ih =>
    obtain ⟨value, values, rfl⟩ := List.exists_cons_of_length_eq_add_one full
    by_cases here : first = header
    · subst here
      simp
    · have later := ih (Nat.succ.inj full) ((List.mem_cons.mp known).resolve_left (Ne.symm here))
      have other : (header == first) = false := beq_eq_false_iff_ne.mpr (Ne.symm here)
      rw [List.zip_cons_cons, List.lookup_cons, other, List.idxOf_cons_ne others here]
      exact later

/-- Where it is cut, a text is put together again from its pieces. -/
theorem flatMap_spelling_among (headers : List String) (text : List Char) :
    ((outlinePieces text).map (·.among headers)).flatMap TemplatePiece.spelling = text := by
  induction text using outlinePieces.induct with
  | case1 => rw [outlinePieces]; rfl
  | case2 c rest name after read ih =>
    obtain ⟨closing, bracket, _, _, rfl⟩ := reference?_eq_some_iff.mp read
    have spelled : ((OutlinePiece.reference c name).among headers).spelling =
        c :: name ++ [closing] := by
      simp only [OutlinePiece.among]
      split <;> simp [TemplatePiece.spelling, bracket]
    rw [outlinePieces_reference read, List.map_cons, List.flatMap_cons, spelled, ih]
    simp
  | case3 c rest missing ih =>
    rw [outlinePieces_plain missing, List.map_cons, List.flatMap_cons, ih]
    rfl

theorem OutlinePiece.fill_among {headers row : List String} (full : row.length = headers.length)
    (piece : OutlinePiece) :
    (piece.among headers).fill headers row = piece.fill (headers.zip row) := by
  cases piece with
  | plain c => rfl
  | reference opening column =>
    by_cases known : String.ofList column ∈ headers
    · simp only [among, if_pos known, TemplatePiece.fill, fill, lookup_zip full known]
    · simp only [among, if_neg known, TemplatePiece.fill, fill,
        (lookup_row_eq_none_iff full).mpr known]

theorem substitute_eq_fillTemplate {headers row : List String} (full : row.length = headers.length)
    (text : String) : substitute (headers.zip row) text = fillTemplate headers row text := by
  rw [substitute, fillTemplate, templatePieces, List.flatMap_map]
  congr 1
  exact List.flatMap_congr fun piece _ => (piece.fill_among full).symm

theorem mem_headers_of_reference {headers : List String} {text header : String} {opening : Char}
    (member : .reference opening header ∈ templatePieces headers text) : header ∈ headers := by
  obtain ⟨piece, _, same⟩ := List.mem_map.mp member
  cases piece with
  | plain c => cases same
  | reference bracket column =>
    simp only [OutlinePiece.among] at same
    split at same
    · rename_i known
      cases same
      exact known
    · cases same

/-- Columns without a reference have no part in the text. -/
theorem fillTemplate_congr {headers row other : List String} {text : String}
    (same : ∀ opening header, .reference opening header ∈ templatePieces headers text →
      row[headers.idxOf header]? = other[headers.idxOf header]?) :
    fillTemplate headers row text = fillTemplate headers other text := by
  rw [fillTemplate, fillTemplate]
  congr 1
  refine List.flatMap_congr fun piece member => ?_
  cases piece with
  | literal words => rfl
  | reference opening header =>
    rw [TemplatePiece.fill, TemplatePiece.fill, List.getD_eq_getElem?_getD,
      List.getD_eq_getElem?_getD, same opening header member]

/-- Rows fill a template piece by piece, so that nothing they put in is read again. -/
structure FilledOnce (headers : List String) (text : String) : Prop where
  /-- The pieces are a split of the text. -/
  spelled : (templatePieces headers text).flatMap TemplatePiece.spelling = text.toList
  columns : ∀ opening header, .reference opening header ∈ templatePieces headers text →
    header ∈ headers
  filled : ∀ row : List String, row.length = headers.length →
    substitute (headers.zip row) text = fillTemplate headers row text
  agree : ∀ row other : List String, row.length = headers.length → other.length = headers.length →
    (∀ opening header, .reference opening header ∈ templatePieces headers text →
      row[headers.idxOf header]? = other[headers.idxOf header]?) →
    substitute (headers.zip row) text = substitute (headers.zip other) text

namespace ScenarioOutline

/-- The references of a template are found before any row is looked at, whatever brackets the values of
the row have, and every scenario of an outline is made in this way. -/
theorem scenarios_filledOnce :
    (∀ headers text, FilledOnce headers text) ∧
      ∀ outline : ScenarioOutline,
        (∀ table ∈ outline.examples, ∀ row ∈ table.rows, row.length = table.headers.length) →
        outline.scenarios.map (·.steps) =
          outline.examples.flatMap fun table => table.rows.map fun row =>
            outline.steps.map (·.mapTexts (fillTemplate table.headers row)) := by
  constructor
  · intro headers text
    refine ⟨flatMap_spelling_among headers text.toList, fun _ _ => mem_headers_of_reference,
      fun row full => substitute_eq_fillTemplate full text, fun row other full otherFull same => ?_⟩
    rw [substitute_eq_fillTemplate full, substitute_eq_fillTemplate otherFull,
      fillTemplate_congr same]
  · intro outline full
    rw [map_steps_scenarios]
    refine List.flatMap_congr fun table listed => List.map_congr_left fun row inTable =>
      List.map_congr_left fun step _ => ?_
    rw [step.substitute_eq_mapTexts]
    exact Step.mapTexts_congr fun text _ => substitute_eq_fillTemplate (full table listed row inTable) text

/-- Values that look like references to other columns, and a column that is hidden by an earlier one of
the same name. -/
theorem scenarios_filledOnce_brackets :
    let headers := ["a", "a", "b"]
    let row := ["<b>", "1", "\x7ba\x7d"]
    let text := "<a> \x7bb\x7d <c>"
    let outline : ScenarioOutline :=
      ⟨"o", [], [⟨.context, text, none, none, none⟩], [⟨none, [], headers, [row]⟩]⟩
    row.length = headers.length ∧ substitute (headers.zip row) text = "<b> \x7ba\x7d <c>" ∧
      (∀ table ∈ outline.examples, ∀ row ∈ table.rows, row.length = table.headers.length) ∧
      outline.scenarios.map (·.steps.map (·.text)) = [["<b> \x7ba\x7d <c>"]] := by
  intro headers row text outline
  have full : row.length = headers.length := rfl
  have tabular : ∀ table ∈ outline.examples, ∀ row ∈ table.rows, row.length = table.headers.length := by
    decide
  have value : fillTemplate headers row text = "<b> \x7ba\x7d <c>" := by decide +kernel
  have filled := (scenarios_filledOnce.1 headers text).filled row full
  have steps := congrArg (List.map (List.map (·.text))) (scenarios_filledOnce.2 outline tabular)
  rw [List.map_map] at steps
  refine ⟨full, filled.trans value, tabular, ?_⟩
  rw [show outline.scenarios.map (·.steps.map (·.text)) = _ from steps]
  exact congrArg (fun text => [[text]]) value

end ScenarioOutline

end ScenarioRunner
