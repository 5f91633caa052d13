import GraphQuery.Script

/-! The callbacks of a step, and properties that hold at every depth of a script. -/
namespace GraphQuery.Step

def equalities (entries : List (String × Value)) : List Step :=
  entries.map fun e => .filter (.column e.1) (some "=") (.value e.2) .and

/-- The callbacks that are run as a group. A mapping is a group of equalities. -/
def groups : Step → List (List Step)
  | .filter (.group body) _ _ _ => [body]
  | .filter (.equalities mapping) _ _ _ => [equalities mapping.entries]
  | .filterGroup body _ => [body]
  | _ => []

def subQueries : Step → List (List Step)
  | .filter (.column _) _ (.query body) _ => [body]
  | .filterQuery _ _ body _ => [body]
  | .filterIn _ (.query body) _ _ => [body]
  | _ => []

def callbacks (step : Step) : List (List Step) := step.groups ++ step.subQueries

theorem group_called {step : Step} {body : List Step} (member : body ∈ step.groups) :
    body ∈ step.callbacks := List.mem_append_left _ member

theorem sub_query_called {step : Step} {body : List Step} (member : body ∈ step.subQueries) :
    body ∈ step.callbacks := List.mem_append_right _ member

/-- Holds of the step itself and of all steps in its callbacks. -/
inductive Everywhere (p : Step → Prop) : Step → Prop where
  | intro {step : Step} (here : p step)
      (inside : ∀ body ∈ step.callbacks, ∀ inner ∈ body, Everywhere p inner) : Everywhere p step

theorem Everywhere.here {p : Step → Prop} {step : Step} (h : Everywhere p step) : p step := by
  cases h with
  | intro here _ => exact here

theorem Everywhere.inside {p : Step → Prop} {step : Step} (h : Everywhere p step) :
    ∀ body ∈ step.callbacks, ∀ inner ∈ body, Everywhere p inner := by
  cases h with
  | intro _ inside => exact inside

theorem Everywhere.leaf {p : Step → Prop} {step : Step} (here : p step)
    (none : step.callbacks = []) : Everywhere p step :=
  .intro here (by simp [none])

theorem Everywhere.imp {p r : Step → Prop} (weaker : ∀ step, p step → r step) {step : Step}
    (h : Everywhere p step) : Everywhere r step := by
  induction h with
  | intro here _ ih => exact .intro (weaker _ here) ih

def Throughout (p : Step → Prop) (steps : List Step) : Prop := ∀ step ∈ steps, step.Everywhere p

theorem Throughout.nil {p : Step → Prop} : Throughout p [] := by simp [Throughout]

theorem Throughout.cons {p : Step → Prop} {step : Step} {rest : List Step}
    (head : step.Everywhere p) (tail : Throughout p rest) : Throughout p (step :: rest) :=
  List.forall_mem_cons.mpr ⟨head, tail⟩

theorem Everywhere.call {p : Step → Prop} {step : Step} {body : List Step} (here : p step)
    (called : step.callbacks = [body]) (inside : Throughout p body) : Everywhere p step :=
  .intro here (by simpa [called, Throughout] using inside)

/-- Puts a condition on the current query. -/
def isFilter : Step → Bool
  | .filter .. | .filterGroup .. | .filterQuery .. | .filterIn .. | .filterBetween ..
  | .filterNull .. | .filterCarried .. => true
  | _ => false

/-- Extends the current query by conditions, traversals, a label, a projection, an order or a
range, and sends nothing. -/
def builds : Step → Bool
  | .target .. | .select .. | .limit .. | .offset .. | .sortBy .. | .carry .. | .relate ..
  | .relateToAny .. => true
  | step => step.isFilter

abbrev Building (steps : List Step) : Prop := Throughout (fun s => s.builds) steps

theorem building_equalities (entries : List (String × Value)) : Building (equalities entries) := by
  intro step member
  obtain ⟨e, -, rfl⟩ := List.mem_map.mp member
  exact .leaf rfl rfl

/-- Runs every step, also after one that fails. -/
def runEach (d : Dialect) (steps : List Step) (s : Session) : Session :=
  steps.foldl (fun s step => (run d step s).2) s

end GraphQuery.Step
