import Mathlib.Data.List.Forall2
import ScenarioRunner.Proofs.KeyedList
import ScenarioRunner.Proofs.Text.Braced
import ScenarioRunner.Proofs.Text.Cut
import ScenarioRunner.Proofs.Text.Trim
import ScenarioRunner.Scheme.Reference

namespace ScenarioRunner

/-- A parameter as it may be written, with or without quotes around its value. -/
structure SpelledParam where
  name : String
  value : String
  quoted : Bool
  deriving DecidableEq

namespace SpelledParam

def text (param : SpelledParam) : List Char :=
  param.name.toList ++ ':' :: ' ' ::
    if param.quoted then '\x27' :: param.value.toList ++ ['\x27'] else param.value.toList

def entry (param : SpelledParam) : String × String := (param.name, param.value)

/-- The name has nothing that ends a name. The value has no quote, and it only does without quotes
if these would protect nothing. -/
structure Readable (param : SpelledParam) : Prop where
  named : param.name.toList ≠ []
  trimmed : Trimmed param.name.toList
  plain : ∀ c ∈ param.name.toList, c ≠ ':' ∧ c ≠ ',' ∧ c ≠ '\x27'
  unquoted : '\x27' ∉ param.value.toList
  bare : param.quoted = false → Trimmed param.value.toList ∧ ',' ∉ param.value.toList

end SpelledParam

/-- Parameters with a comma and a blank between them. -/
def paramListText (params : List SpelledParam) : List Char :=
  [',', ' '].intercalate (params.map SpelledParam.text)

/-- A reference without parentheses. -/
def plainReferenceText (scheme key : String) : String :=
  String.ofList ('\x7b' :: scheme.toList ++ ':' :: key.toList ++ ['\x7d'])

def referenceText (scheme key : String) (params : List SpelledParam) : String :=
  String.ofList ('\x7b' :: scheme.toList ++ ':' :: key.toList ++ '(' :: paramListText params ++
    [')', '\x7d'])

theorem splitOutsideQuotes_ne_nil (quoted : Bool) (text : List Char) :
    splitOutsideQuotes quoted text ≠ [] := by
  cases text with
  | nil => simp [splitOutsideQuotes]
  | cons c rest =>
    rw [splitOutsideQuotes]
    split
    · simp
    · split <;> simp

/-- A character that separates nothing belongs to the first piece. -/
theorem splitOutsideQuotes_cons (quoted : Bool) {c : Char} (inside : (c = ',' && !quoted) = false)
    (rest : List Char) :
    splitOutsideQuotes quoted (c :: rest) =
      (splitOutsideQuotes (if c = '\x27' then !quoted else quoted) rest).modifyHead (c :: ·) := by
  rw [splitOutsideQuotes, if_neg (by simpa using inside)]
  split
  · rename_i none
    exact absurd none (splitOutsideQuotes_ne_nil _ _)
  · rename_i piece pieces found
    rw [found]
    rfl

theorem splitOutsideQuotes_append (quoted : Bool) {text : List Char} (unquoted : '\x27' ∉ text)
    (whole : quoted = false → ',' ∉ text) (rest : List Char) :
    splitOutsideQuotes quoted (text ++ rest) =
      (splitOutsideQuotes quoted rest).modifyHead (text ++ ·) := by
  induction text with
  | nil =>
    rw [List.nil_append]
    cases splitOutsideQuotes quoted rest <;> rfl
  | cons c text ih =>
    rw [List.mem_cons, not_or] at unquoted
    have later := ih unquoted.2 fun outside inside => whole outside (List.mem_cons_of_mem _ inside)
    have inside : (c = ',' && !quoted) = false := by
      cases quoted with
      | true => simp
      | false =>
        have other : c ≠ ',' := fun comma => whole rfl (by simp [comma])
        simp [other]
    rw [List.cons_append, splitOutsideQuotes_cons quoted inside, if_neg (Ne.symm unquoted.1), later,
      List.modifyHead_modifyHead]
    rfl

/-- Quotes that open and close leave the state as it was. -/
theorem splitOutsideQuotes_param {param : SpelledParam} (readable : param.Readable)
    (rest : List Char) :
    splitOutsideQuotes false (param.text ++ rest) =
      (splitOutsideQuotes false rest).modifyHead (param.text ++ ·) := by
  have name : '\x27' ∉ param.name.toList ++ [':', ' '] := by
    intro member
    rcases List.mem_append.mp member with inside | inside
    · exact (readable.plain _ inside).2.2 rfl
    · exact absurd inside (by decide)
  have whole : ',' ∉ param.name.toList ++ [':', ' '] := by
    intro member
    rcases List.mem_append.mp member with inside | inside
    · exact (readable.plain _ inside).2.1 rfl
    · exact absurd inside (by decide)
  have front := splitOutsideQuotes_append false name fun _ => whole
  have spelled : param.text = (param.name.toList ++ [':', ' ']) ++
      if param.quoted then '\x27' :: param.value.toList ++ ['\x27'] else param.value.toList := by
    simp [SpelledParam.text]
  rw [spelled, List.append_assoc, front]
  cases style : param.quoted with
  | false =>
    obtain ⟨_, comma⟩ := readable.bare style
    rw [if_neg Bool.false_ne_true, splitOutsideQuotes_append false readable.unquoted (fun _ => comma),
      List.modifyHead_modifyHead]
    simp [Function.comp_def]
  | true =>
    have opens := splitOutsideQuotes_cons false (c := '\x27') (by decide)
      (param.value.toList ++ ['\x27'] ++ rest)
    have value := splitOutsideQuotes_append true readable.unquoted (by simp)
      ('\x27' :: rest)
    have closes := splitOutsideQuotes_cons true (c := '\x27') (by decide) rest
    rw [if_pos rfl, List.cons_append, List.cons_append, opens]
    rw [List.append_assoc, if_pos rfl, Bool.not_false, List.singleton_append, value, closes,
      if_pos rfl]
    simp [List.modifyHead_modifyHead, Function.comp_def]

/-- Each parameter is an item of its own; all but the first keep the blank in front of them. -/
theorem splitOutsideQuotes_paramListText {param : SpelledParam} {others : List SpelledParam}
    (readable : ∀ p ∈ param :: others, p.Readable) :
    splitOutsideQuotes false (paramListText (param :: others)) =
      param.text :: others.map fun other => ' ' :: other.text := by
  induction others generalizing param with
  | nil =>
    have last := splitOutsideQuotes_param (readable param (List.mem_cons_self ..)) []
    simpa [paramListText, splitOutsideQuotes] using last
  | cons next more ih =>
    have later := ih fun p member => readable p (List.mem_cons_of_mem _ member)
    have joined : paramListText (param :: next :: more) =
        param.text ++ ',' :: ' ' :: paramListText (next :: more) := by
      simp [paramListText, List.intercalate_cons_cons]
    have blank := splitOutsideQuotes_cons false (c := ' ') (by decide)
      (paramListText (next :: more))
    have separator : splitOutsideQuotes false (',' :: ' ' :: paramListText (next :: more)) =
        [] :: splitOutsideQuotes false (' ' :: paramListText (next :: more)) := rfl
    rw [joined, splitOutsideQuotes_param (readable param (List.mem_cons_self ..)), separator, blank,
      if_neg (by decide), later]
    simp

theorem unquote_spelled {param : SpelledParam} (readable : param.Readable) :
    unquote (trim (' ' :: if param.quoted then '\x27' :: param.value.toList ++ ['\x27']
      else param.value.toList)) = param.value.toList := by
  have blank : isBlank ' ' = true := by decide
  cases style : param.quoted with
  | true =>
    have solid : Trimmed ('\x27' :: param.value.toList ++ ['\x27']) := by
      have quote : isBlank '\x27' = false := by decide
      refine ⟨by simpa using quote, ?_⟩
      rw [List.getLast?_concat]
      simpa using quote
    rw [if_pos rfl, solid.trim_cons blank]
    simp [unquote]
  | false =>
    obtain ⟨trimmed, _⟩ := readable.bare style
    rw [if_neg Bool.false_ne_true, trimmed.trim_cons blank]
    cases letters : param.value.toList with
    | nil => rfl
    | cons c rest =>
      have other : c ≠ '\x27' := by
        rintro rfl
        exact readable.unquoted (by simp [letters])
      unfold unquote
      split
      · rename_i same
        cases same
        exact absurd rfl other
      · rfl

theorem readParam_spelled {param : SpelledParam} (readable : param.Readable) {lead : List Char}
    (blank : ∀ c ∈ lead, isBlank c = true) :
    readParam (lead ++ param.text) = .ok param.entry := by
  have uncut : ':' ∉ lead ++ param.name.toList := by
    intro member
    rcases List.mem_append.mp member with inLead | inName
    · exact absurd (blank _ inLead) (by decide)
    · exact (readable.plain _ inName).1 rfl
  have name : trim (lead ++ param.name.toList) = param.name.toList := by
    have none : ∀ c ∈ ([] : List Char), isBlank c = true := by simp
    simpa using readable.trimmed.trim_padded blank none
  have cut : cutAt? ':' (lead ++ param.text) = some (lead ++ param.name.toList, ' ' ::
      if param.quoted then '\x27' :: param.value.toList ++ ['\x27'] else param.value.toList) := by
    rw [SpelledParam.text, ← List.append_assoc]
    exact cutAt?_append uncut _
  rw [readParam, cut]
  simp only [name, if_neg readable.named, unquote_spelled readable, String.ofList_toList]
  rfl

/-- An item with a parameter is not passed over. -/
theorem trim_spelled_ne_nil (param : SpelledParam) (lead : List Char) :
    (trim (lead ++ param.text) != []) = true := by
  obtain ⟨front, back, whole, frontBlank, backBlank, _⟩ := trim_decomposition (lead ++ param.text)
  rw [bne_iff_ne]
  intro empty
  have colon : ':' ∈ front ++ trim (lead ++ param.text) ++ back := by
    rw [← whole]
    simp [SpelledParam.text]
  rw [empty, List.append_nil] at colon
  rcases List.mem_append.mp colon with inside | inside
  · exact absurd (frontBlank _ inside) (by decide)
  · exact absurd (backBlank _ inside) (by decide)

theorem mapM_eq_ok {ε α β : Type} {read : α → Except ε β} {items : List α} {values : List β}
    (each : List.Forall₂ (fun item value => read item = .ok value) items values) :
    items.mapM read = .ok values := by
  induction each with
  | nil => rfl
  | cons here _ later =>
    rw [List.mapM_cons, here, later]
    rfl

/-- A list is read as the parameters that it was written from, in their order. -/
theorem readParams_paramListText {params : List SpelledParam} (readable : ∀ p ∈ params, p.Readable)
    (distinct : (params.map (·.name)).Nodup) :
    readParams (paramListText params) = .ok ⟨params.map SpelledParam.entry⟩ := by
  cases params with
  | nil => rfl
  | cons param others =>
    have none : ∀ c ∈ ([] : List Char), isBlank c = true := by simp
    have blank : ∀ c ∈ [' '], isBlank c = true := List.forall_mem_singleton.mpr (by decide)
    have kept : ∀ item ∈ param.text :: others.map (fun other => ' ' :: other.text),
        (trim item != []) = true := by
      intro item member
      rcases List.mem_cons.mp member with rfl | member
      · exact trim_spelled_ne_nil param []
      · obtain ⟨other, _, rfl⟩ := List.mem_map.mp member
        exact trim_spelled_ne_nil other [' ']
    have read : (param.text :: others.map fun other => ' ' :: other.text).mapM readParam =
        .ok ((param :: others).map SpelledParam.entry) := by
      refine mapM_eq_ok (.cons (readParam_spelled (readable param (List.mem_cons_self ..)) none) ?_)
      rw [List.forall₂_map_left_iff, List.forall₂_map_right_iff, List.forall₂_same]
      exact fun other member =>
        readParam_spelled (readable other (List.mem_cons_of_mem _ member)) blank
    have entries : (KeyedList.ofEntries ((param :: others).map SpelledParam.entry) : Params) =
        ⟨(param :: others).map SpelledParam.entry⟩ := by
      refine KeyedList.ofEntries_eq ?_
      rw [List.map_map]
      exact distinct
    rw [readParams, splitOutsideQuotes_paramListText readable, List.filter_eq_self.mpr kept, read]
    exact congrArg Except.ok entries

theorem schemeOf?_spelled {scheme : List Char} (word : IsWord scheme) (rest : List Char) :
    schemeOf? ('\x7b' :: scheme ++ ':' :: rest ++ ['\x7d']) = some (scheme, rest) := by
  have colon : isWordChar ':' = false := by decide
  have taken : (scheme ++ (':' :: rest ++ ['\x7d'])).takeWhile isWordChar = scheme := by
    rw [List.takeWhile_append_of_pos word.made, List.cons_append, List.takeWhile_cons, colon]
    simp
  have dropped : (scheme ++ (':' :: rest ++ ['\x7d'])).dropWhile isWordChar =
      ':' :: rest ++ ['\x7d'] := by
    rw [List.dropWhile_append_of_pos word.made, List.cons_append, List.dropWhile_cons, colon]
    simp
  obtain ⟨first, others, rfl⟩ := List.exists_cons_of_ne_nil word.nonempty
  rw [List.append_assoc, List.cons_append, schemeOf?]
  simp only [taken, dropped]
  simp

namespace SchemeReference

/-- A reference is read as the scheme, the key and the parameters that it was written from. -/
theorem read_referenceText {scheme key : String} {params : List SpelledParam}
    (word : IsWord scheme.toList) (trimmed : Trimmed key.toList) (plain : '(' ∉ key.toList)
    (readable : ∀ p ∈ params, p.Readable) (distinct : (params.map (·.name)).Nodup) :
    read (referenceText scheme key params) =
        .ok (some ⟨scheme, key, ⟨params.map SpelledParam.entry⟩⟩) ∧
      read (plainReferenceText scheme key) = .ok (some ⟨scheme, key, .empty⟩) := by
  constructor
  · have spelled : referenceText scheme key params = String.ofList ('\x7b' :: scheme.toList ++
        ':' :: (key.toList ++ '(' :: (paramListText params ++ [')'])) ++ ['\x7d']) := by
      simp [referenceText]
    have closed : trimEnd (paramListText params ++ [')']) = paramListText params ++ [')'] := by
      have solid : isBlank ')' = false := by decide
      exact trimEnd_of_getLast (by simpa using solid)
    have list := readParams_paramListText readable distinct
    rw [read, spelled, String.toList_ofList, schemeOf?_spelled word]
    simp only [readReference, cutAt?_append plain, closed, trimmed.trim_eq, String.ofList_toList]
    rw [List.dropLast_concat, list]
    simp [Except.map]
  · have spelled : plainReferenceText scheme key =
        String.ofList ('\x7b' :: scheme.toList ++ ':' :: key.toList ++ ['\x7d']) := rfl
    rw [read, spelled, String.toList_ofList, schemeOf?_spelled word]
    simp only [readReference, cutAt?_eq_none_iff.mpr plain, trimmed.trim_eq, String.ofList_toList]
    rfl

theorem read_referenceText_delimiters :
    let params : List SpelledParam :=
      [⟨"full name", " Smith, (J: \x7d)", true⟩, ⟨"at", "9:30)", false⟩, ⟨"none", "", false⟩]
    (IsWord "t".toList ∧ Trimmed "a: \x7bkey\x7d".toList ∧ '(' ∉ "a: \x7bkey\x7d".toList ∧
      (∀ p ∈ params, p.Readable) ∧ (params.map (·.name)).Nodup) ∧
    read "\x7bt:a: \x7bkey\x7d(full name: ' Smith, (J: \x7d)', at: 9:30), none: )\x7d" =
      .ok (some ⟨"t", "a: \x7bkey\x7d", ⟨[("full name", " Smith, (J: \x7d)"), ("at", "9:30)"),
        ("none", "")]⟩⟩) ∧
    read "\x7bt:a: \x7bkey\x7d\x7d" = .ok (some ⟨"t", "a: \x7bkey\x7d", .empty⟩) := by
  intro params
  have word : IsWord "t".toList := ⟨by decide, forall_mem_of_all (by decide)⟩
  have trimmed : Trimmed "a: \x7bkey\x7d".toList := trimmed_of_all (by decide) (by decide)
  have plain : '(' ∉ "a: \x7bkey\x7d".toList := by decide
  have readable : ∀ p ∈ params, p.Readable := by
    intro p member
    simp only [params, List.mem_cons, List.not_mem_nil, or_false] at member
    rcases member with rfl | rfl | rfl
    · exact ⟨by decide, trimmed_of_all (by decide) (by decide), forall_mem_of_all (by decide),
        by decide, fun bare => absurd bare (by decide)⟩
    · exact ⟨by decide, trimmed_of_all (by decide) (by decide), forall_mem_of_all (by decide),
        by decide, fun _ => ⟨trimmed_of_all (by decide) (by decide), by decide⟩⟩
    · exact ⟨by decide, trimmed_of_all (by decide) (by decide), forall_mem_of_all (by decide),
        by decide, fun _ => ⟨trimmed_of_all (by decide) (by decide), by decide⟩⟩
  have distinct : (params.map (·.name)).Nodup := by decide
  obtain ⟨listed, unlisted⟩ := read_referenceText word trimmed plain readable distinct
  exact ⟨⟨word, trimmed, plain, readable, distinct⟩, listed, unlisted⟩

end SchemeReference

end ScenarioRunner
