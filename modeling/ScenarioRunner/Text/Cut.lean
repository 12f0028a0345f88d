namespace ScenarioRunner

/-- What follows `start` in a text that begins with it. -/
def afterStart? : List Char → List Char → Option (List Char)
  | [], text => some text
  | _ :: _, [] => none
  | c :: start, d :: text => if c = d then afterStart? start text else none

theorem afterStart?_eq_some {start text rest : List Char} (h : afterStart? start text = some rest) :
    text = start ++ rest := by
  induction start generalizing text with
  | nil => simpa [afterStart?] using h
  | cons c start ih =>
    cases text with
    | nil => simp [afterStart?] at h
    | cons d text =>
      simp only [afterStart?] at h
      split at h
      · rename_i same
        rw [same, ih h]
        rfl
      · cases h

/-- Drops one `c` from the front, if there is one. -/
def dropFirst (c : Char) : List Char → List Char
  | [] => []
  | d :: rest => if d = c then rest else d :: rest

/-- Drops one `c` from the end, if there is one. -/
def dropLast (c : Char) (text : List Char) : List Char :=
  if text.getLast? = some c then text.dropLast else text

/-- The text before the first `c` and the text after it. -/
def cutAt? (c : Char) : List Char → Option (List Char × List Char)
  | [] => none
  | d :: rest =>
    if d = c then some ([], rest)
    else (cutAt? c rest).map fun (before, after) => (d :: before, after)

theorem cutAt?_eq_some {c : Char} {text before after : List Char}
    (h : cutAt? c text = some (before, after)) : text = before ++ c :: after ∧ c ∉ before := by
  induction text generalizing before with
  | nil => simp [cutAt?] at h
  | cons d rest ih =>
    unfold cutAt? at h
    split at h
    · rename_i same
      cases h
      simp [same]
    · rename_i other
      obtain ⟨⟨front, back⟩, found, equal⟩ := Option.map_eq_some_iff.1 h
      cases equal
      obtain ⟨rfl, absent⟩ := ih found
      exact ⟨rfl, by simp [absent, Ne.symm other]⟩

end ScenarioRunner
