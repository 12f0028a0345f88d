import ScenarioRunner.Timeline

namespace ScenarioRunner

/-- A test with its name and tags. The body of a skipped test is never run. -/
structure Test (ω ε : Type) where
  name : String
  tags : List String
  skip : Bool
  body : Timeline ω (Except ε Unit)

/-- What can be registered with a suite. Hooks and tests belong to the innermost group around
them. -/
inductive Registration (ω ε : Type) where
  | group (name : String) (body : List (Registration ω ε))
  | test (test : Test ω ε)
  | setUp (hook : Timeline ω Unit)
  | tearDown (hook : Timeline ω Unit)

/-- A test, or a group that holds others. -/
inductive SuiteItem (ω ε : Type) where
  | group (name : String) (setUp tearDown : List (Timeline ω Unit)) (items : List (SuiteItem ω ε))
  | test (test : Test ω ε)

/-- A group that more can be added to. -/
structure OpenGroup (ω ε : Type) where
  name : String := ""
  setUp : List (Timeline ω Unit) := []
  tearDown : List (Timeline ω Unit) := []
  items : List (SuiteItem ω ε) := []

def OpenGroup.close {ω ε : Type} (group : OpenGroup ω ε) : SuiteItem ω ε :=
  .group group.name group.setUp group.tearDown group.items

/-- Registered tests. Groups that are not closed yet stand in `inner`, the innermost first. -/
structure Suite (ω ε : Type) where
  outermost : OpenGroup ω ε := {}
  inner : List (OpenGroup ω ε) := []

mutual

def SuiteItem.testCount {ω ε : Type} : SuiteItem ω ε → Nat
  | .group _ _ _ items => testCountOf items
  | .test _ => 1

def testCountOf {ω ε : Type} : List (SuiteItem ω ε) → Nat
  | [] => 0
  | item :: rest => item.testCount + testCountOf rest

end

namespace Suite

variable {ω ε : Type}

def empty : Suite ω ε := {}

/-- Changes the group that registrations go to: the innermost open one. -/
def fill (suite : Suite ω ε) (change : OpenGroup ω ε → OpenGroup ω ε) : Suite ω ε :=
  match suite.inner with
  | [] => { suite with outermost := change suite.outermost }
  | group :: groups => { suite with inner := change group :: groups }

def add (suite : Suite ω ε) (item : SuiteItem ω ε) : Suite ω ε :=
  suite.fill fun group => { group with items := group.items ++ [item] }

def openGroup (suite : Suite ω ε) (name : String) : Suite ω ε :=
  { suite with inner := { name := name } :: suite.inner }

/-- Closes the innermost open group and adds it to the one around it. -/
def closeGroup (suite : Suite ω ε) : Suite ω ε :=
  match suite.inner with
  | [] => suite
  | group :: groups => { suite with inner := groups }.add group.close

mutual

def register (suite : Suite ω ε) : Registration ω ε → Suite ω ε
  | .group name body => ((suite.openGroup name).registerAll body).closeGroup
  | .test test => suite.add (.test test)
  | .setUp hook => suite.fill fun group => { group with setUp := group.setUp ++ [hook] }
  | .tearDown hook => suite.fill fun group => { group with tearDown := group.tearDown ++ [hook] }

def registerAll (suite : Suite ω ε) : List (Registration ω ε) → Suite ω ε
  | [] => suite
  | registration :: rest => (suite.register registration).registerAll rest

end

def ofRegistrations (registrations : List (Registration ω ε)) : Suite ω ε :=
  empty.registerAll registrations

def testCount (suite : Suite ω ε) : Nat := testCountOf suite.outermost.items

end Suite

end ScenarioRunner
