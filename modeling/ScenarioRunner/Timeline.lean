namespace ScenarioRunner

/-- What a computation puts out and what comes of it. It runs in rounds. Between two rounds it
pauses, so that what runs beside it gets its turn. -/
structure Timeline (ω α : Type) where
  first : List ω
  later : List (List ω)
  value : α
  deriving DecidableEq, Repr

namespace Timeline

variable {ω ω' α β : Type}

def outputs (timeline : Timeline ω α) : List ω := timeline.first ++ timeline.later.flatten

def emit (outputs : List ω) : Timeline ω Unit := ⟨outputs, [], ()⟩

def pause : Timeline ω Unit := ⟨[], [[]], ()⟩

/-- Goes on with another computation in the last of the given rounds. -/
def continueAfter (first : List ω) : List (List ω) → Timeline ω α → Timeline ω α
  | [], next => { next with first := first ++ next.first }
  | round :: later, next =>
    let rest := continueAfter round later next
    ⟨first, rest.first :: rest.later, rest.value⟩

def bind (timeline : Timeline ω α) (next : α → Timeline ω β) : Timeline ω β :=
  continueAfter timeline.first timeline.later (next timeline.value)

instance : Monad (Timeline ω) where
  pure value := ⟨[], [], value⟩
  bind := bind

def mapOutputs (change : ω → ω') (timeline : Timeline ω α) : Timeline ω' α :=
  ⟨timeline.first.map change, timeline.later.map (·.map change), timeline.value⟩

/-- Runs computations one after another. -/
def inSequence : List (Timeline ω Unit) → Timeline ω Unit
  | [] => pure ()
  | timeline :: rest => do timeline; inSequence rest

/-- Joins rounds of the same number. What is left of the longer list stays as it is. -/
def joinRounds : List (List ω) → List (List ω) → List (List ω)
  | [], rounds => rounds
  | rounds, [] => rounds
  | a :: as, b :: bs => (a ++ b) :: joinRounds as bs

/-- Runs computations side by side. In each round those that have not ended take their turns in the
order of the list. -/
def gather : List (Timeline ω α) → Timeline ω (List α)
  | [] => pure []
  | timeline :: rest =>
    let others := gather rest
    ⟨timeline.first ++ others.first, joinRounds timeline.later others.later,
      timeline.value :: others.value⟩

theorem value_continueAfter (first : List ω) (later : List (List ω)) (next : Timeline ω α) :
    (continueAfter first later next).value = next.value := by
  induction later generalizing first with
  | nil => rfl
  | cons round later ih => exact ih round

theorem outputs_continueAfter (first : List ω) (later : List (List ω)) (next : Timeline ω α) :
    (continueAfter first later next).outputs = first ++ later.flatten ++ next.outputs := by
  induction later generalizing first with
  | nil => simp [continueAfter, outputs]
  | cons round later ih =>
    have rest := ih round
    simp only [outputs] at rest
    simp only [continueAfter, outputs, List.flatten_cons, rest, List.append_assoc]

/-- What comes first is put out first, whatever the pauses. -/
theorem outputs_bind (timeline : Timeline ω α) (next : α → Timeline ω β) :
    (timeline >>= next).outputs = timeline.outputs ++ (next timeline.value).outputs :=
  outputs_continueAfter _ _ _

theorem value_bind (timeline : Timeline ω α) (next : α → Timeline ω β) :
    (timeline >>= next).value = (next timeline.value).value :=
  value_continueAfter _ _ _

theorem value_gather (timelines : List (Timeline ω α)) :
    (gather timelines).value = timelines.map (·.value) := by
  induction timelines with
  | nil => rfl
  | cons timeline rest ih => simp only [gather, List.map_cons, ih]

end Timeline

end ScenarioRunner
