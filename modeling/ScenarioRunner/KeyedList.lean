namespace ScenarioRunner

/-- Values under distinct keys, in an order that is part of the value. -/
structure KeyedList (κ ν : Type) where
  entries : List (κ × ν) := []
  deriving DecidableEq, Repr

namespace KeyedList

variable {κ ν : Type} [BEq κ]

def empty : KeyedList κ ν := ⟨[]⟩

def keys (list : KeyedList κ ν) : List κ := list.entries.map Prod.fst

def values (list : KeyedList κ ν) : List ν := list.entries.map Prod.snd

def get? (list : KeyedList κ ν) (key : κ) : Option ν :=
  (list.entries.find? fun entry => entry.1 == key).map Prod.snd

def contains (list : KeyedList κ ν) (key : κ) : Bool := list.entries.any fun entry => entry.1 == key

/-- Writes a value and makes its key the last one, whether or not it was there. -/
def insertLast (list : KeyedList κ ν) (key : κ) (value : ν) : KeyedList κ ν :=
  ⟨list.entries.filter (fun entry => !(entry.1 == key)) ++ [(key, value)]⟩

/-- Changes the value under a key where it stands. A new key goes to the end and starts from
`initial`. -/
def update (list : KeyedList κ ν) (key : κ) (initial : ν) (change : ν → ν) : KeyedList κ ν :=
  if list.contains key then
    ⟨list.entries.map fun entry => if entry.1 == key then (entry.1, change entry.2) else entry⟩
  else ⟨list.entries ++ [(key, change initial)]⟩

/-- Changes the value under a key that is present, and nothing otherwise. -/
def modify (list : KeyedList κ ν) (key : κ) (change : ν → ν) : KeyedList κ ν :=
  ⟨list.entries.map fun entry => if entry.1 == key then (entry.1, change entry.2) else entry⟩

/-- Writes the entries one after another, each to the end. -/
def ofEntries (entries : List (κ × ν)) : KeyedList κ ν :=
  entries.foldl (fun list entry => list.insertLast entry.1 entry.2) empty

end KeyedList

end ScenarioRunner
