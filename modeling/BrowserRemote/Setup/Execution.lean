import BrowserRemote.Settings.History

/-!
# Setup/Execution — what an execution of a setup file does, deed by deed

An execution is told by its deeds: the variables it sets and the settings it makes, in their order,
each at the moment it is done.  The rules below say which deeds an expression or a statement comes
to from a given stage, and how it ends; after a failure there are no more deeds.  They do not run
anything: `Setup.run` does.
-/

namespace BrowserRemote

/-- The shelf with settings put on it one after the other. -/
def Shelf.putAll (shelf : Shelf) (made : List (Settings Value)) : Shelf := made.foldl put shelf

namespace Setup

/-! ## Deeds and stages -/

/-- What an execution does that lasts. -/
inductive Deed where
  | sets (name : String) (v : Value)
  | makes (s : Settings Value)

/-- The variables and the shelf at a moment of an execution. -/
structure Stage where
  vars : Variables
  shelf : Shelf

namespace Stage

/-- The stage a file starts from: its options are in their variable. -/
def start (options : Value) (shelf : Shelf) : Stage := ⟨[(optionsName, options)], shelf⟩

/-- The stage after a deed. -/
def perform (g : Stage) : Deed → Stage
  | .sets name v => { g with vars := setEntry g.vars name v }
  | .makes s => { g with shelf := g.shelf.put s }

/-- The stage after deeds. -/
def after (g : Stage) (deeds : List Deed) : Stage := deeds.foldl perform g

end Stage

/-- The settings that deeds made. -/
def settingsMade (deeds : List Deed) : List (Settings Value) :=
  deeds.filterMap fun
    | .sets _ _ => none
    | .makes s => some s

/-- **The last value that deeds set a variable to.** -/
def LastSet (deeds : List Deed) (name : String) (v : Value) : Prop :=
  ∃ before behind, deeds = before ++ .sets name v :: behind ∧ ∀ w, .sets name w ∉ behind

/-- The settings that fields make on a shelf. -/
def settingsFrom (shelf : Shelf) (fields : List (String × Value)) : Except Fault (Settings Value) :=
  if fields.all fun f => f.1 ∈ settingsFields then
    match fields.lookup "dialect" with
    | some dialect => Prod.fst <$> shelf.make dialect ((fields.lookup "atom_path").getD .null)
        ((fields.lookup "atoms").getD .null)
    | none => .error .wrongType
  else .error .wrongType

/-! ## Executions -/

mutual

/-- **An expression comes to deeds and to a value**, or to a failure. -/
inductive Evaluates : Stage → Expr → List Deed → Except Fault Value → Prop where
  | value (g : Stage) (v : Value) : Evaluates g (.value v) [] (.ok v)
  | fromOption (g : Stage) (key : String) : Evaluates g (.fromOption key) [] (option g.vars key)
  | fromVariable (g : Stage) (name : String) :
    Evaluates g (.fromVariable name) [] (readVariable g.vars name)
  | fieldFails {g : Stage} {fields : List (String × Expr)} {deeds : List Deed} {fault : Fault}
    (hfields : EvaluatesAll g fields deeds (.error fault)) :
    Evaluates g (.newSettings fields) deeds (.error fault)
  | refused {g : Stage} {fields : List (String × Expr)} {deeds : List Deed}
    {values : List (String × Value)} {fault : Fault}
    (hfields : EvaluatesAll g fields deeds (.ok values))
    (hmake : settingsFrom (g.after deeds).shelf values = .error fault) :
    Evaluates g (.newSettings fields) deeds (.error fault)
  | made {g : Stage} {fields : List (String × Expr)} {deeds : List Deed}
    {values : List (String × Value)} {s : Settings Value}
    (hfields : EvaluatesAll g fields deeds (.ok values))
    (hmake : settingsFrom (g.after deeds).shelf values = .ok s) :
    Evaluates g (.newSettings fields) (deeds ++ [.makes s]) (.ok (.settings s))

/-- Fields come to deeds and to values, in the order they are written. -/
inductive EvaluatesAll :
    Stage → List (String × Expr) → List Deed → Except Fault (List (String × Value)) → Prop where
  | nil (g : Stage) : EvaluatesAll g [] [] (.ok [])
  | stops {g : Stage} {name : String} {e : Expr} {fields : List (String × Expr)}
    {deeds : List Deed} {fault : Fault} (hfirst : Evaluates g e deeds (.error fault)) :
    EvaluatesAll g ((name, e) :: fields) deeds (.error fault)
  | goesOn {g : Stage} {name : String} {e : Expr} {fields : List (String × Expr)}
    {deeds more : List Deed} {v : Value} {outcome : Except Fault (List (String × Value))}
    (hfirst : Evaluates g e deeds (.ok v))
    (hrest : EvaluatesAll (g.after deeds) fields more outcome) :
    EvaluatesAll g ((name, e) :: fields) (deeds ++ more) (((name, v) :: ·) <$> outcome)

end

mutual

/-- **A statement comes to deeds**, and ends well or fails. -/
inductive Does : Stage → Statement → List Deed → Except Fault Unit → Prop where
  | assigns {g : Stage} {name : String} {e : Expr} {deeds : List Deed} {v : Value}
    (hvalue : Evaluates g e deeds (.ok v)) :
    Does g (.assign name e) (deeds ++ [.sets name v]) (.ok ())
  | assignFails {g : Stage} {name : String} {e : Expr} {deeds : List Deed} {fault : Fault}
    (hvalue : Evaluates g e deeds (.error fault)) : Does g (.assign name e) deeds (.error fault)
  | enters {g : Stage} {key : String} {body : List Statement} {deeds : List Deed}
    {outcome : Except Fault Unit} (hholds : optionHolds g.vars key = .ok true)
    (hbody : Executes g body deeds outcome) : Does g (.whenOption key body) deeds outcome
  | skips {g : Stage} {key : String} {body : List Statement}
    (hholds : optionHolds g.vars key = .ok false) : Does g (.whenOption key body) [] (.ok ())
  | conditionFails {g : Stage} {key : String} {body : List Statement} {fault : Fault}
    (hholds : optionHolds g.vars key = .error fault) :
    Does g (.whenOption key body) [] (.error fault)
  | mentions (g : Stage) (name : String) :
    Does g (.mention name) [] ((fun _ => ()) <$> readVariable g.vars name)

/-- **Statements come to deeds**, one after the other up to the first failure. -/
inductive Executes : Stage → List Statement → List Deed → Except Fault Unit → Prop where
  | nil (g : Stage) : Executes g [] [] (.ok ())
  | stops {g : Stage} {s : Statement} {rest : List Statement} {deeds : List Deed} {fault : Fault}
    (hfirst : Does g s deeds (.error fault)) : Executes g (s :: rest) deeds (.error fault)
  | goesOn {g : Stage} {s : Statement} {rest : List Statement} {deeds more : List Deed}
    {outcome : Except Fault Unit} (hfirst : Does g s deeds (.ok ()))
    (hrest : Executes (g.after deeds) rest more outcome) :
    Executes g (s :: rest) (deeds ++ more) outcome

end

end Setup

end BrowserRemote
