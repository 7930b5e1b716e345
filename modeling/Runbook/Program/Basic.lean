/-!
# Programs

* `Step` : a name, the actions of a step and its conditions, each in order;
* `Program` : a name, a goal and the steps in order of declaration;
* `Program.step?`, `position?`, `nextName?` : steps found by name, the first of a name counts;
* `Program.repeatedNames` : the names borne by several steps.
-/

namespace Runbook

/-- One named unit of work. -/
structure Step where
  name : String
  actions : List String
  conditions : List String
deriving DecidableEq, Repr, Inhabited

/-- A step that every state lets run. -/
def Step.isUnconditional (s : Step) : Bool := s.conditions.isEmpty

/-- A named list of steps with a goal. -/
structure Program where
  name : String
  goal : String
  steps : List Step
deriving DecidableEq, Repr, Inhabited

namespace Program

/-- The program without name, goal and steps. -/
def empty : Program := ⟨"", "", []⟩

/-- The name of the first step. -/
def firstName? (p : Program) : Option String := p.steps.head?.map (·.name)

/-- The first step of a name. -/
def step? (p : Program) (name : String) : Option Step := p.steps.find? (·.name == name)

/-- A step that is found by name is found by its own name. -/
theorem step?_name {p : Program} {name : String} {s : Step} (h : p.step? name = some s) : p.step? s.name = some s := by
  have hname := List.find?_some h
  rw [beq_iff_eq] at hname
  rw [hname, h]

/-- The position of the first step of a name. -/
def position? (p : Program) (name : String) : Option Nat := p.steps.findIdx? (·.name == name)

/-- The name of the step after the first one of a name. -/
def nextName? (p : Program) (name : String) : Option String :=
  (p.position? name).bind fun i => p.steps[i + 1]?.map (·.name)

/-- The repeated names of a list whose earlier names are `seen`, of which `listed` were repeated. -/
def repeatsFrom (seen listed : List String) : List String → List String
  | [] => listed
  | n :: ns =>
    if n ∉ seen then repeatsFrom (n :: seen) listed ns
    else if n ∈ listed then repeatsFrom seen listed ns
    else repeatsFrom seen (listed ++ [n]) ns

/-- The names borne by several steps, each once, in order of their second occurrence. A run that
reaches such a step comes back to the first step of that name. -/
def repeatedNames (p : Program) : List String := repeatsFrom [] [] (p.steps.map (·.name))

end Program

end Runbook
