import ScenarioRunner.Proofs.Run.Gathered
import ScenarioRunner.Proofs.Suite.Calls

namespace ScenarioRunner

variable {ω ε : Type}

/-- What a run puts out, each output with the address of the registration that it comes from. -/
abbrev SuiteTrace (ω : Type) := List (List Nat × ω)

namespace SuiteTrace

/-- What comes from one registration. -/
def outputsOf (trace : SuiteTrace ω) (address : List Nat) : List ω :=
  trace.filterMap fun output => if output.1 = address then some output.2 else none

/-- All that comes from the first registration stands before all that comes from the second. -/
def Before (trace : SuiteTrace ω) (first second : List Nat) : Prop :=
  trace.Pairwise fun x y => ¬ (x.1 = second ∧ y.1 = first)

/-- The trace of a group as a part of the trace of the group around it. -/
def under (place : Nat) (trace : SuiteTrace ω) : SuiteTrace ω :=
  trace.map fun output => (place :: output.1, output.2)

/-- Does the output come from the registration at this place, or from within it? -/
def isFrom (place : Nat) (output : List Nat × ω) : Bool := output.1.head? == some place

theorem isFrom_iff {place : Nat} {output : List Nat × ω} :
    isFrom place output = true ↔ ∃ inner, output.1 = place :: inner := by
  rw [isFrom, beq_iff_eq, List.head?_eq_some_iff]

theorem outputsOf_append (first second : SuiteTrace ω) (address : List Nat) :
    outputsOf (first ++ second) address = first.outputsOf address ++ second.outputsOf address :=
  List.filterMap_append

theorem outputsOf_eq_nil {trace : SuiteTrace ω} {address : List Nat}
    (silent : ∀ output ∈ trace, output.1 ≠ address) : trace.outputsOf address = [] :=
  List.filterMap_eq_nil_iff.mpr fun output member => if_neg (silent output member)

theorem outputsOf_map (outputs : List ω) (address : List Nat) :
    outputsOf (outputs.map fun output => (address, output)) address = outputs := by
  rw [outputsOf, List.filterMap_map]
  simp

theorem outputsOf_under (trace : SuiteTrace ω) (place : Nat) (inner : List Nat) :
    (trace.under place).outputsOf (place :: inner) = trace.outputsOf inner := by
  rw [outputsOf, under, List.filterMap_map]
  simp [outputsOf]

/-- What comes from a place is found among all that comes from there. -/
theorem outputsOf_filter (trace : SuiteTrace ω) (place : Nat) (inner : List Nat) :
    outputsOf (trace.filter (isFrom place)) (place :: inner) = trace.outputsOf (place :: inner) := by
  rw [outputsOf, List.filterMap_filter, outputsOf]
  congr 1
  funext output
  by_cases own : output.1 = place :: inner
  · rw [if_pos (isFrom_iff.mpr ⟨inner, own⟩)]
  · rw [if_neg own]
    split <;> rfl

theorem Before.of_filter {trace : SuiteTrace ω} {place : Nat} {first second : List Nat}
    (before : SuiteTrace.Before (trace.filter (isFrom place)) (place :: first) (place :: second)) :
    trace.Before (place :: first) (place :: second) := by
  refine (List.pairwise_filter.mp before).imp fun {x y} apart same => ?_
  exact apart (isFrom_iff.mpr ⟨second, same.1⟩) (isFrom_iff.mpr ⟨first, same.2⟩) same

theorem Before.under {trace : SuiteTrace ω} {first second : List Nat}
    (before : trace.Before first second) (place : Nat) :
    (trace.under place).Before (place :: first) (place :: second) :=
  List.pairwise_map.mpr (before.imp fun apart same =>
    apart ⟨(List.cons.inj same.1).2, (List.cons.inj same.2).2⟩)

theorem Before.of_silent_first {trace : SuiteTrace ω} {first second : List Nat}
    (silent : ∀ output ∈ trace, output.1 ≠ first) : trace.Before first second :=
  List.pairwise_of_forall_mem_list fun _ _ y member same => silent y member same.2

theorem Before.of_silent_second {trace : SuiteTrace ω} {first second : List Nat}
    (silent : ∀ output ∈ trace, output.1 ≠ second) : trace.Before first second :=
  List.pairwise_of_forall_mem_list fun x member _ _ same => silent x member same.1

/-- Only what stands in front comes from the first registration. -/
theorem Before.append_right {front : SuiteTrace ω} {first second : List Nat}
    (before : front.Before first second) {rest : SuiteTrace ω}
    (silent : ∀ output ∈ rest, output.1 ≠ first) : SuiteTrace.Before (front ++ rest) first second :=
  List.pairwise_append.mpr ⟨before, Before.of_silent_first silent,
    fun _ _ y member same => silent y member same.2⟩

/-- Only what stands at the end comes from the second. -/
theorem Before.append_left {back : SuiteTrace ω} {first second : List Nat}
    (before : back.Before first second) {front : SuiteTrace ω}
    (silent : ∀ output ∈ front, output.1 ≠ second) :
    SuiteTrace.Before (front ++ back) first second :=
  List.pairwise_append.mpr ⟨Before.of_silent_second silent, before,
    fun x member _ _ same => silent x member same.1⟩

end SuiteTrace

namespace Registration

/-- What a registration puts out by itself when it is run once. A skipped test is not run. -/
def puts : Registration ω ε → List ω
  | group _ _ => []
  | test case => if case.skip then [] else case.body.outputs
  | setUp hook | tearDown hook => hook.outputs

/-- The trace of the calls inside a group: each has put out what it puts out once, the set-up hooks
of every group before all else in it and its tear-down hooks after that, in their order. -/
structure TracesCalls (calls : List (Registration ω ε)) (trace : SuiteTrace ω) : Prop where
  known : ∀ output ∈ trace, ∃ call, callAt? calls output.1 = some call
  once : ∀ address call, callAt? calls address = some call → trace.outputsOf address = call.puts
  setUpsInOrder : ∀ outer i j first second, i < j →
    callAt? calls (outer ++ [i]) = some (.setUp first) →
    callAt? calls (outer ++ [j]) = some (.setUp second) →
    trace.Before (outer ++ [i]) (outer ++ [j])
  setUpsFirst : ∀ outer i hook place more call,
    callAt? calls (outer ++ [i]) = some (.setUp hook) →
    callAt? calls (outer ++ place :: more) = some call → (more = [] → call.setUp? = none) →
    trace.Before (outer ++ [i]) (outer ++ place :: more)
  tearDownsInOrder : ∀ outer i j first second, i < j →
    callAt? calls (outer ++ [i]) = some (.tearDown first) →
    callAt? calls (outer ++ [j]) = some (.tearDown second) →
    trace.Before (outer ++ [i]) (outer ++ [j])
  tearDownsLast : ∀ outer i hook place more call,
    callAt? calls (outer ++ [i]) = some (.tearDown hook) →
    callAt? calls (outer ++ place :: more) = some call → (more = [] → call.tearDown? = none) →
    trace.Before (outer ++ place :: more) (outer ++ [i])

theorem callAt?_cons (calls : List (Registration ω ε)) (place : Nat) {inner : List Nat}
    (filled : inner ≠ []) :
    callAt? calls (place :: inner) = calls[place]?.bind fun call => callAt? call.body inner := by
  cases inner with
  | nil => exact absurd rfl filled
  | cons next more => rfl

theorem callAt?_nil (address : List Nat) : callAt? ([] : List (Registration ω ε)) address = none := by
  match address with
  | [] | [_] | _ :: _ :: _ => rfl

/-- What the hooks of a group put out, one after another. -/
def hookTrace (hook? : Registration ω ε → Option (Timeline ω Unit))
    (calls : List (Registration ω ε)) : SuiteTrace ω :=
  (List.range calls.length).flatMap fun place =>
    ((calls[place]?.bind hook?).toList.flatMap Timeline.outputs).map ([place], ·)

section

variable (hook? : Registration ω ε → Option (Timeline ω Unit)) (calls : List (Registration ω ε))

theorem map_snd_hookTrace :
    (hookTrace hook? calls).map Prod.snd = (calls.filterMap hook?).flatMap Timeline.outputs := by
  have forget : (hookTrace hook? calls).map Prod.snd = (List.range calls.length).flatMap
      fun place => (calls[place]?.bind hook?).toList.flatMap Timeline.outputs := by
    rw [hookTrace, List.map_flatMap]
    simp [List.map_map, Function.comp_def]
  rw [forget]
  induction calls with
  | nil => rfl
  | cons call rest ih =>
    rw [List.length_cons, List.range_succ_eq_map, List.flatMap_cons, List.flatMap_map]
    simp only [List.getElem?_cons_zero, List.getElem?_cons_succ, Option.bind_some]
    rw [ih (by simp [hookTrace, List.map_flatMap, List.map_map, Function.comp_def]),
      List.filterMap_cons]
    cases hook? call <;> simp

variable {hook? calls}

theorem mem_hookTrace {output : List Nat × ω} (member : output ∈ hookTrace hook? calls) :
    ∃ place call, calls[place]? = some call ∧ hook? call ≠ none ∧ output.1 = [place] := by
  obtain ⟨place, _, inside⟩ := List.mem_flatMap.mp member
  obtain ⟨_, known, rfl⟩ := List.mem_map.mp inside
  obtain ⟨hook, found, _⟩ := List.mem_flatMap.mp known
  obtain ⟨call, here, is⟩ := Option.bind_eq_some_iff.mp (Option.mem_toList.mp found)
  exact ⟨place, call, here, by simp [is], rfl⟩

/-- Where no hook is registered, no hook puts out anything. -/
theorem ne_of_mem_hookTrace {place : Nat} {more : List Nat} {call : Registration ω ε}
    (found : callAt? calls (place :: more) = some call) (none : more = [] → hook? call = none)
    {output : List Nat × ω} (member : output ∈ hookTrace hook? calls) :
    output.1 ≠ place :: more := by
  intro same
  obtain ⟨other, hooked, here, some, own⟩ := mem_hookTrace member
  obtain ⟨rfl, rfl⟩ := List.cons.inj (own.symm.trans same)
  obtain rfl := Option.some.inj (here.symm.trans found)
  exact some (none rfl)

theorem filter_hookTrace {place : Nat} {call : Registration ω ε} (here : calls[place]? = some call) :
    (hookTrace hook? calls).filter (SuiteTrace.isFrom place) =
      ((hook? call).toList.flatMap Timeline.outputs).map ([place], ·) := by
  have inside : place < calls.length := (List.getElem?_eq_some_iff.mp here).1
  have own := (Interleaving.flatten ((List.range calls.length).map fun place =>
    ((calls[place]?.bind hook?).toList.flatMap Timeline.outputs).map ([place], ·))).filter_eq_own
      inside (p := SuiteTrace.isFrom place) ?_ ?_
  · rw [hookTrace, List.flatMap_def, own, here, Option.bind_some]
  · intro output member
    obtain ⟨_, _, rfl⟩ := List.mem_map.mp member
    exact SuiteTrace.isFrom_iff.mpr ⟨[], rfl⟩
  · intro other apart output member
    obtain ⟨_, _, rfl⟩ := List.mem_map.mp member
    simpa [SuiteTrace.isFrom] using apart

theorem before_hookTrace {i j : Nat} (less : i < j) : (hookTrace hook? calls).Before [i] [j] := by
  refine List.pairwise_flatMap.mpr ⟨fun place _ => ?_, List.pairwise_lt_range.imp fun order => ?_⟩
  · refine List.pairwise_map.mpr (List.pairwise_of_forall_mem_list fun _ _ _ _ same => ?_)
    simp only [List.cons.injEq, and_true] at same
    omega
  · intro x first y second same
    obtain ⟨_, _, rfl⟩ := List.mem_map.mp first
    obtain ⟨_, _, rfl⟩ := List.mem_map.mp second
    simp only [List.cons.injEq, and_true] at same
    omega

end

/-- What a registration puts out when its turn comes among the members of its group. -/
def direct : Registration ω ε → List ω
  | test case => (test case).puts
  | group .. | setUp _ | tearDown _ => []

theorem puts_eq (call : Registration ω ε) : call.puts =
    call.setUp?.toList.flatMap Timeline.outputs ++ call.direct ++
      call.tearDown?.toList.flatMap Timeline.outputs := by
  cases call <;> simp [puts, direct]

/-- The trace of the registration at a place, made from the trace of what is inside it. -/
def memberTrace (calls : List (Registration ω ε)) (inner : Nat → SuiteTrace ω) (place : Nat) :
    SuiteTrace ω :=
  (calls[place]?.toList.flatMap direct).map ([place], ·) ++ (inner place).under place

theorem TracesCalls.ne_nil {calls : List (Registration ω ε)} {trace : SuiteTrace ω}
    (traced : TracesCalls calls trace) {output : List Nat × ω} (member : output ∈ trace) :
    output.1 ≠ [] := by
  intro empty
  obtain ⟨call, found⟩ := traced.known output member
  rw [empty] at found
  exact nomatch found

theorem TracesCalls.eq_nil {trace : SuiteTrace ω}
    (traced : TracesCalls ([] : List (Registration ω ε)) trace) : trace = [] := by
  refine List.eq_nil_iff_forall_not_mem.mpr fun output member => ?_
  obtain ⟨call, found⟩ := traced.known output member
  rw [callAt?_nil] at found
  exact nomatch found

theorem tracesCalls_nil : TracesCalls ([] : List (Registration ω ε)) ([] : SuiteTrace ω) where
  known := nofun
  once address call found := by simp [callAt?_nil] at found
  setUpsInOrder := by simp [callAt?_nil]
  setUpsFirst := by simp [callAt?_nil]
  tearDownsInOrder := by simp [callAt?_nil]
  tearDownsLast := by simp [callAt?_nil]

theorem exists_of_callAt?_cons {calls : List (Registration ω ε)} {place : Nat} {inner : List Nat}
    {call : Registration ω ε} (filled : inner ≠ [])
    (found : callAt? calls (place :: inner) = some call) :
    ∃ around, calls[place]? = some around ∧ callAt? around.body inner = some call := by
  rw [callAt?_cons calls place filled] at found
  exact Option.bind_eq_some_iff.mp found

section

variable {calls : List (Registration ω ε)} {inner : Nat → SuiteTrace ω} {merged : SuiteTrace ω}

theorem isFrom_memberTrace {place : Nat} {output : List Nat × ω}
    (member : output ∈ memberTrace calls inner place) : SuiteTrace.isFrom place output = true := by
  rcases List.mem_append.mp member with own | inside
  · obtain ⟨_, _, rfl⟩ := List.mem_map.mp own
    exact SuiteTrace.isFrom_iff.mpr ⟨[], rfl⟩
  · obtain ⟨within, _, rfl⟩ := List.mem_map.mp inside
    exact SuiteTrace.isFrom_iff.mpr ⟨within.1, rfl⟩

variable (traced : ∀ place call, calls[place]? = some call → TracesCalls call.body (inner place))
  (turns : Interleaving ((List.range calls.length).map (memberTrace calls inner)) merged)

include traced turns

theorem known_merged {output : List Nat × ω} (member : output ∈ merged) :
    ∃ call, callAt? calls output.1 = some call := by
  obtain ⟨_, known, here⟩ := (turns.mem_iff output).mp member
  obtain ⟨place, inside, rfl⟩ := List.mem_map.mp known
  have found := List.getElem?_eq_getElem (List.mem_range.mp inside)
  rcases List.mem_append.mp here with own | within
  · obtain ⟨_, _, rfl⟩ := List.mem_map.mp own
    exact ⟨_, found⟩
  · obtain ⟨output, from_, rfl⟩ := List.mem_map.mp within
    have below := traced place _ found
    obtain ⟨call, known⟩ := below.known output from_
    refine ⟨call, ?_⟩
    rw [callAt?_cons calls place (below.ne_nil from_), found]
    exact known

/-- A registration that waits for no turn is not among those that take turns. -/
theorem ne_of_mem_merged {place : Nat} {call : Registration ω ε}
    (here : calls[place]? = some call) (silent : call.direct = []) {output : List Nat × ω}
    (member : output ∈ merged) : output.1 ≠ [place] := by
  intro same
  obtain ⟨_, known, inside⟩ := (turns.mem_iff output).mp member
  obtain ⟨other, _, rfl⟩ := List.mem_map.mp known
  obtain ⟨_, start⟩ := SuiteTrace.isFrom_iff.mp (isFrom_memberTrace inside)
  obtain rfl : other = place := (List.cons.inj (start.symm.trans same)).1
  rw [memberTrace, here, Option.toList_some, List.flatMap_singleton, silent] at inside
  obtain ⟨within, from_, rfl⟩ := List.mem_map.mp inside
  exact (traced _ _ here).ne_nil from_ (List.cons.inj same).2

/-- What comes from a place is what is registered there, once, with all that is inside it. -/
theorem filter_trace {place : Nat} {call : Registration ω ε} (here : calls[place]? = some call) :
    (hookTrace setUp? calls ++ merged ++ hookTrace tearDown? calls).filter
        (SuiteTrace.isFrom place) =
      call.puts.map ([place], ·) ++ (inner place).under place := by
  have own := turns.filter_eq_own (List.getElem?_eq_some_iff.mp here).1
    (p := SuiteTrace.isFrom place) (fun _ member => isFrom_memberTrace member) ?_
  · rw [List.filter_append, List.filter_append, filter_hookTrace here, filter_hookTrace here, own,
      memberTrace, here, Option.toList_some, List.flatMap_singleton, puts_eq]
    have within := traced place call here
    cases call with
    | tearDown hook => simp [within.eq_nil, SuiteTrace.under, direct]
    | group name body => simp
    | test case => simp
    | setUp hook => simp
  · intro other apart output member
    obtain ⟨rest, start⟩ := SuiteTrace.isFrom_iff.mp (isFrom_memberTrace member)
    simpa [SuiteTrace.isFrom, start] using apart

/-- What holds of the order inside a registration holds of it in the whole. -/
theorem before_trace {place : Nat} {first second : List Nat} {one other : Registration ω ε}
    (filledFirst : first ≠ []) (filledSecond : second ≠ [])
    (here : callAt? calls (place :: first) = some one)
    (there : callAt? calls (place :: second) = some other)
    (inside : ∀ around : Registration ω ε, TracesCalls around.body (inner place) →
      callAt? around.body first = some one → callAt? around.body second = some other →
      (inner place).Before first second) :
    SuiteTrace.Before (hookTrace setUp? calls ++ merged ++ hookTrace tearDown? calls)
      (place :: first) (place :: second) := by
  obtain ⟨around, found, below⟩ := exists_of_callAt?_cons filledFirst here
  obtain ⟨_, same, beside⟩ := exists_of_callAt?_cons filledSecond there
  obtain rfl := Option.some.inj (found.symm.trans same)
  have before := inside around (traced place around found) below beside
  refine SuiteTrace.Before.of_filter ?_
  rw [filter_trace traced turns found]
  refine (before.under place).append_left fun output member same => filledSecond ?_
  obtain ⟨_, _, rfl⟩ := List.mem_map.mp member
  exact (List.cons.inj same).2.symm

/-- Set-up hooks are through before anything else has its turn. -/
theorem before_of_setUp {place : Nat} {hook : Timeline ω Unit}
    (here : calls[place]? = some (.setUp hook)) {second : List Nat}
    (before : (hookTrace setUp? calls).Before [place] second) :
    SuiteTrace.Before (hookTrace setUp? calls ++ merged ++ hookTrace tearDown? calls)
      [place] second := by
  rw [List.append_assoc]
  refine before.append_right fun output member same => ?_
  rcases List.mem_append.mp member with turn | last
  · exact ne_of_mem_merged traced turns here rfl turn same
  · have found : callAt? calls [place] = some (.setUp hook) := here
    exact ne_of_mem_hookTrace found (fun _ => rfl) last same

/-- Tear-down hooks wait until everything else has had its turn. -/
theorem before_of_tearDown {place : Nat} {hook : Timeline ω Unit}
    (here : calls[place]? = some (.tearDown hook)) {first : List Nat}
    (before : (hookTrace tearDown? calls).Before first [place]) :
    SuiteTrace.Before (hookTrace setUp? calls ++ merged ++ hookTrace tearDown? calls)
      first [place] := by
  refine before.append_left fun output member same => ?_
  rcases List.mem_append.mp member with start | turn
  · have found : callAt? calls [place] = some (.tearDown hook) := here
    exact ne_of_mem_hookTrace found (fun _ => rfl) start same
  · exact ne_of_mem_merged traced turns here rfl turn same

/-- The trace of a group is put together from those of its hooks and those of its members. -/
theorem tracesCalls_around :
    TracesCalls calls (hookTrace setUp? calls ++ merged ++ hookTrace tearDown? calls) where
  known output member := by
    have hook {hook? : Registration ω ε → Option (Timeline ω Unit)}
        (member : output ∈ hookTrace hook? calls) :
        ∃ call, callAt? calls output.1 = some call := by
      obtain ⟨place, call, here, _, own⟩ := mem_hookTrace member
      exact ⟨call, own ▸ here⟩
    rcases List.mem_append.mp member with front | last
    · exact (List.mem_append.mp front).elim hook (known_merged traced turns)
    · exact hook last
  once
    | [], call, found => nomatch found
    | place :: rest, call, found => by
      rw [← SuiteTrace.outputsOf_filter]
      cases rest with
      | nil =>
        have silent : ∀ output ∈ inner place, output.1 ≠ [] :=
          fun _ member => (traced place call found).ne_nil member
        rw [filter_trace traced turns found, SuiteTrace.outputsOf_append, SuiteTrace.outputsOf_map,
          SuiteTrace.outputsOf_under, SuiteTrace.outputsOf_eq_nil silent, List.append_nil]
      | cons next more =>
        obtain ⟨around, here, below⟩ := exists_of_callAt?_cons (List.cons_ne_nil _ _) found
        rw [filter_trace traced turns here, SuiteTrace.outputsOf_append,
          SuiteTrace.outputsOf_under, (traced place around here).once _ _ below]
        refine List.append_left_eq_self.mpr (SuiteTrace.outputsOf_eq_nil fun output member => ?_)
        obtain ⟨_, _, rfl⟩ := List.mem_map.mp member
        simp
  setUpsInOrder
    | [], i, j, first, second, less, here, there =>
      before_of_setUp traced turns here (before_hookTrace less)
    | place :: outer, i, j, first, second, less, here, there =>
      before_trace traced turns (by simp) (by simp) here there fun _ known below beside =>
        known.setUpsInOrder outer i j first second less below beside
  setUpsFirst
    | [], i, hook, place, more, call, here, there, other =>
      before_of_setUp traced turns here
        (.of_silent_second fun _ => ne_of_mem_hookTrace there other)
    | outside :: outer, i, hook, place, more, call, here, there, other =>
      before_trace traced turns (by simp) (by simp) here there fun _ known below beside =>
        known.setUpsFirst outer i hook place more call below beside other
  tearDownsInOrder
    | [], i, j, first, second, less, here, there =>
      before_of_tearDown traced turns there (before_hookTrace less)
    | place :: outer, i, j, first, second, less, here, there =>
      before_trace traced turns (by simp) (by simp) here there fun _ known below beside =>
        known.tearDownsInOrder outer i j first second less below beside
  tearDownsLast
    | [], i, hook, place, more, call, here, there, other =>
      before_of_tearDown traced turns here
        (.of_silent_first fun _ => ne_of_mem_hookTrace there other)
    | outside :: outer, i, hook, place, more, call, here, there, other =>
      before_trace traced turns (by simp) (by simp) there here fun _ known beside below =>
        known.tearDownsLast outer i hook place more call below beside other

end

end Registration

end ScenarioRunner
