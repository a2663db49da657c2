import RecordRules.Engine

/-!
# Engines forget their history

Calls on an engine load rules, register functions and validate records, in any order.  What an
engine answers depends on the rules that were loaded last and, for each name, on the function
that was registered last under it, and on nothing else that has happened before.

## Key results

- `Engine.step_eq`: what one call changes
- `Engine.run_eq`: what any number of calls change, in closed form
- `Engine.validate_congr`: answers depend on what the names of functions stand for only
- `Engine.run_forgets_history`: an engine with a history answers as a fresh one
-/

namespace RecordRules

/-! ### Functions that are registered one after the other -/

namespace Registry

/-- Registers functions in order. -/
def registerAll (r : Registry) (functions : List (String × CustomFunction)) : Registry :=
  functions.foldl (fun r (name, function) => r.register name function) r

/-- The last function under a name. -/
def lastNamed? (name : String) : List (String × CustomFunction) → Option CustomFunction
  | [] => none
  | (n, f) :: rest => lastNamed? name rest <|> if n = name then some f else none

/-- Of the functions under one name only the last one. -/
def onlyLast : List (String × CustomFunction) → List (String × CustomFunction)
  | [] => []
  | (n, f) :: rest => if n ∈ rest.map Prod.fst then onlyLast rest else (n, f) :: onlyLast rest

/-- The registry without the functions under some names. -/
def without (r : Registry) (names : List String) : Registry :=
  ⟨r.functions.filter (·.1 ∉ names)⟩

/-- After registrations a name stands for the function registered last under it. -/
theorem get?_registerAll (r : Registry) (functions : List (String × CustomFunction))
    (name : String) :
    (r.registerAll functions).get? name = (lastNamed? name functions <|> r.get? name) := by
  -- the induction goes through the registry, which each registration changes
  induction functions generalizing r with
  | nil => rfl
  | cons first rest ih =>
    obtain ⟨n, f⟩ := first
    have hrest : (r.registerAll ((n, f) :: rest)).get? name =
        (lastNamed? name rest <|> (r.register n f).get? name) := ih (r.register n f)
    rw [hrest, get?_register, lastNamed?]
    by_cases hn : n = name
    · -- the first function is found unless a later one has its name
      subst hn
      cases lastNamed? n rest <;> simp
    · cases lastNamed? name rest <;> simp [hn, Ne.symm hn]

/-- A name that functions are registered under has a last one of them. -/
theorem lastNamed?_isSome {name : String} {functions : List (String × CustomFunction)}
    (h : name ∈ functions.map Prod.fst) : (lastNamed? name functions).isSome := by
  induction functions with
  | nil => exact nomatch h
  | cons first rest ih =>
    obtain ⟨n, f⟩ := first
    rw [List.map_cons, List.mem_cons] at h
    unfold lastNamed?
    -- the first function has the name, unless a later one takes its place
    rcases h with rfl | h
    · cases lastNamed? name rest <;> simp
    · obtain ⟨g, hg⟩ := Option.isSome_iff_exists.mp (ih h)
      rw [hg]
      rfl

/-- Dropping functions that are replaced later does not change what a name stands for. -/
theorem lastNamed?_onlyLast (name : String) (functions : List (String × CustomFunction)) :
    lastNamed? name (onlyLast functions) = lastNamed? name functions := by
  induction functions with
  | nil => rfl
  | cons first rest ih =>
    obtain ⟨n, f⟩ := first
    unfold onlyLast
    split
    · next hmem =>
      rw [ih, lastNamed?]
      -- the function that is dropped has a later one of its name, which is found in either list
      by_cases hn : n = name
      · obtain ⟨g, hg⟩ := Option.isSome_iff_exists.mp (lastNamed?_isSome (hn ▸ hmem))
        rw [hg]
        rfl
      · cases lastNamed? name rest <;> simp [hn]
    · rw [lastNamed?, ih, lastNamed?]

theorem mem_onlyLast {m : String × CustomFunction} {functions : List (String × CustomFunction)}
    (h : m ∈ onlyLast functions) : m ∈ functions := by
  induction functions with
  | nil => exact nomatch h
  | cons first rest ih =>
    obtain ⟨n, f⟩ := first
    unfold onlyLast at h
    split at h
    · exact List.mem_cons_of_mem _ (ih h)
    · rcases List.mem_cons.mp h with rfl | h
      · exact List.mem_cons_self
      · exact List.mem_cons_of_mem _ (ih h)

/-- One function to a name is left. -/
theorem onlyLast_nodup (functions : List (String × CustomFunction)) :
    ((onlyLast functions).map Prod.fst).Nodup := by
  induction functions with
  | nil => exact List.nodup_nil
  | cons first rest ih =>
    obtain ⟨n, f⟩ := first
    unfold onlyLast
    split
    · exact ih
    · next hmem =>
      -- a name that is kept does not come again, and what is left comes from what follows
      refine List.nodup_cons.mpr ⟨fun hn => hmem ?_, ih⟩
      obtain ⟨m, hm, rfl⟩ := List.mem_map.mp hn
      exact List.mem_map_of_mem (mem_onlyLast hm)

/-- A name that is not taken away stands for what it stood for. -/
theorem get?_without (r : Registry) {names : List String} {name : String} (h : name ∉ names) :
    (r.without names).get? name = r.get? name := by
  obtain ⟨functions⟩ := r
  change (functions.filter (·.1 ∉ names)).lookup name = functions.lookup name
  induction functions with
  | nil => rfl
  | cons first rest ih =>
    obtain ⟨n, f⟩ := first
    -- the first function goes with its name or stays, and is found under its own name only
    by_cases hn : n ∈ names
    · have hne : n ≠ name := fun heq => h (heq ▸ hn)
      rw [List.filter_cons_of_neg (by simpa using hn), ih, Named.lookup_cons, if_neg hne]
    · rw [List.filter_cons_of_pos (by simpa using hn), Named.lookup_cons, Named.lookup_cons, ih]

end Registry

/-! ### Calls -/

namespace Engine

/-- A call on an engine. -/
inductive Call where
  | load (rules : List Rule)
  | register (name : String) (function : CustomFunction)
  | withFunction (name : String) (function : CustomFunction)
  | validate (r : Record)
  | report (r : Record)

namespace Call

/-- The rules that a call loads. -/
def loaded? : Call → Option (List Rule)
  | load rules => some rules
  | _ => none

/-- The function that a call registers, under its name. -/
def registered? : Call → Option (String × CustomFunction)
  | register name function | withFunction name function => some (name, function)
  | _ => none

end Call

/-- The engine after a call.  Validations read it. -/
def step (e : Engine) : Call → Engine
  | .load rules => e.load rules
  | .register name function => e.register name function
  | .withFunction name function => e.withFunction name function
  | .validate _ | .report _ => e

/-- The engine after calls, in order. -/
def run (e : Engine) (calls : List Call) : Engine :=
  calls.foldl step e

/-- The rules that were loaded last, none if there were none. -/
def lastLoaded (calls : List Call) : List Rule :=
  (calls.filterMap Call.loaded?).getLast?.getD []

/-- The functions that were registered, in order. -/
def registrations (calls : List Call) : List (String × CustomFunction) :=
  calls.filterMap Call.registered?

/-- The calls on a fresh engine that give it the rules loaded last and, for each name, the
    function registered last under it. -/
def essentials (calls : List Call) : List Call :=
  (Registry.onlyLast (registrations calls)).map (fun (name, function) => .register name function) ++
    [.load (lastLoaded calls)]

/-- A fresh engine in place of one with a history.  Functions that it started with are only there
    where none was registered under their names. -/
def fresh (initial : Registry) (calls : List Call) : Engine :=
  run (withFunctions (initial.without ((registrations calls).map Prod.fst))) (essentials calls)

/-! ### What calls change -/

/-- The rules are those that the call loads, and the functions those that it registers. -/
theorem step_eq (e : Engine) (c : Call) :
    e.step c =
      { ruleSet := c.loaded?.elim e.ruleSet .ofRules
        functions := e.functions.registerAll c.registered?.toList } := by
  cases c <;> rfl

/-- The rules are those of the last load, the functions those of all registrations. -/
theorem run_eq (e : Engine) (calls : List Call) :
    e.run calls =
      { ruleSet := (calls.filterMap Call.loaded?).getLast?.elim e.ruleSet .ofRules
        functions := e.functions.registerAll (registrations calls) } := by
  -- the induction is for all engines, since the first call changes the one it is made on
  induction calls generalizing e with
  | nil => rfl
  | cons c calls ih =>
    have hrun : e.run (c :: calls) = (e.step c).run calls := rfl
    rw [hrun, ih, step_eq]
    cases c with
    | load rules =>
      -- a load counts only if no other one follows
      simp only [registrations, Call.loaded?, Call.registered?, List.filterMap_cons,
        List.getLast?_cons, Option.elim, Option.toList, Registry.registerAll, List.foldl_nil]
      cases (calls.filterMap Call.loaded?).getLast? <;> rfl
    | register name function => rfl
    | withFunction name function => rfl
    | validate r => rfl
    | report r => rfl

/-- What an engine that started without rules holds. -/
theorem run_withFunctions (initial : Registry) (calls : List Call) :
    (withFunctions initial).run calls =
      { ruleSet := .ofRules (lastLoaded calls)
        functions := initial.registerAll (registrations calls) } := by
  rw [run_eq, lastLoaded]
  -- without a load the rules are the empty ones it started with
  cases (calls.filterMap Call.loaded?).getLast? <;> rfl

end Engine

/-! ### What answers depend on -/

section Answers

variable {f g : Registry}

/-- Only custom checks ask for functions, and they do so by name. -/
theorem Rule.outcome?_of_get? (h : ∀ name, f.get? name = g.get? name) (rule : Rule)
    (field : String) (r : Record) (patterns : PatternCache) :
    rule.outcome? field r patterns f = rule.outcome? field r patterns g := by
  unfold Rule.outcome? Check.outcome?
  -- the other checks do not mention the registry
  cases rule.check with
  | custom c => simp only [CustomCheck.outcome?, funext h]
  | format c | range c | completeness c | uniqueness c | crossField c => rfl
  | unknown ruleType j => rfl

/-- Two engines with the same rules whose names of functions stand for the same have the same
    results. -/
theorem Engine.validate_congr (s : RuleSet) (h : ∀ name, f.get? name = g.get? name) (r : Record) :
    Engine.validate ⟨s, f⟩ r = Engine.validate ⟨s, g⟩ r := by
  have hresult (rule : Rule) :
      RuleSet.result? rule r s.patterns f = RuleSet.result? rule r s.patterns g := by
    funext field
    rw [RuleSet.result?, rule.outcome?_of_get? h, RuleSet.result?]
  simp only [Engine.validate, RuleSet.results, hresult]

/-- A report is made of the results. -/
theorem Engine.report_congr (s : RuleSet) (h : ∀ name, f.get? name = g.get? name) (r : Record) :
    Engine.report ⟨s, f⟩ r = Engine.report ⟨s, g⟩ r := by
  have hresults : s.results f r = s.results g r := Engine.validate_congr s h r
  rw [Engine.report, Engine.report, RuleSet.report, RuleSet.report, hresults]

end Answers

namespace Engine

/-- The essential calls load the same rules. -/
theorem lastLoaded_essentials (calls : List Call) :
    lastLoaded (essentials calls) = lastLoaded calls := by
  -- registrations load nothing, so only the last call does
  have hnone (functions : List (String × CustomFunction)) :
      (functions.map fun (name, function) => Call.register name function).filterMap
        Call.loaded? = [] := by
    induction functions with
    | nil => rfl
    | cons _ _ ih => exact ih
  rw [lastLoaded, essentials, List.filterMap_append, hnone]
  rfl

/-- The essential calls register the last function of each name. -/
theorem registrations_essentials (calls : List Call) :
    registrations (essentials calls) = Registry.onlyLast (registrations calls) := by
  -- each of the calls registers its function, and the load behind them none
  have hall (functions : List (String × CustomFunction)) :
      (functions.map fun (name, function) => Call.register name function).filterMap
        Call.registered? = functions := by
    induction functions with
    | nil => rfl
    | cons first rest ih => exact congrArg (first :: ·) ih
  rw [registrations, essentials, List.filterMap_append, hall]
  exact List.append_nil _

/-- A name stands for the same in an engine with a history as in the fresh one. -/
theorem get?_fresh (initial : Registry) (calls : List Call) (name : String) :
    (initial.registerAll (registrations calls)).get? name =
      ((initial.without ((registrations calls).map Prod.fst)).registerAll
        (Registry.onlyLast (registrations calls))).get? name := by
  rw [Registry.get?_registerAll, Registry.get?_registerAll, Registry.lastNamed?_onlyLast]
  by_cases hname : name ∈ (registrations calls).map Prod.fst
  · -- whatever the engines started with under that name is hidden
    obtain ⟨g, hg⟩ := Option.isSome_iff_exists.mp (Registry.lastNamed?_isSome hname)
    rw [hg]
    rfl
  · rw [Registry.get?_without _ hname]

/-! ### The order of calls -/

/-- The calls that load rules. -/
def loads (calls : List Call) : List Call :=
  calls.filter (·.loaded?.isSome)

/-- The calls that register functions. -/
def registers (calls : List Call) : List Call :=
  calls.filter (·.registered?.isSome)

/-- The calls that load rules load all of them. -/
private theorem loaded?_loads (calls : List Call) :
    (loads calls).filterMap Call.loaded? = calls.filterMap Call.loaded? := by
  rw [loads, List.filterMap_filter]
  congr 1
  funext c
  cases c <;> rfl

/-- The calls that register functions load no rules. -/
private theorem loaded?_registers (calls : List Call) :
    (registers calls).filterMap Call.loaded? = [] := by
  refine List.filterMap_eq_nil_iff.mpr fun c hc => ?_
  have hregistered := (List.mem_filter.mp hc).2
  cases c <;> first | rfl | exact nomatch hregistered

/-- The calls that register functions register all of them. -/
private theorem registrations_registers (calls : List Call) :
    registrations (registers calls) = registrations calls := by
  rw [registrations, registers, List.filterMap_filter, registrations]
  congr 1
  funext c
  cases c <;> rfl

/-- The calls that load rules register nothing. -/
private theorem registrations_loads (calls : List Call) : registrations (loads calls) = [] := by
  refine List.filterMap_eq_nil_iff.mpr fun c hc => ?_
  have hloaded := (List.mem_filter.mp hc).2
  cases c <;> first | rfl | exact nomatch hloaded

theorem registrations_append (calls calls' : List Call) :
    registrations (calls ++ calls') = registrations calls ++ registrations calls' :=
  List.filterMap_append

/-- All loads may come before all registrations, and validations may be left out. -/
theorem run_loads_registers (e : Engine) (calls : List Call) :
    e.run (loads calls ++ registers calls) = e.run calls := by
  rw [run_eq, run_eq, List.filterMap_append, loaded?_loads, loaded?_registers, List.append_nil,
    registrations_append, registrations_loads, registrations_registers, List.nil_append]

/-- All registrations may come before all loads, and validations may be left out. -/
theorem run_registers_loads (e : Engine) (calls : List Call) :
    e.run (registers calls ++ loads calls) = e.run calls := by
  rw [run_eq, run_eq, List.filterMap_append, loaded?_loads, loaded?_registers, List.nil_append,
    registrations_append, registrations_loads, registrations_registers, List.append_nil]

/-- An engine answers as a fresh one that is given nothing but the rules loaded last and, for
    each name, the function registered last under it.  What it holds are the rules loaded last
    with their own patterns and nothing of earlier loads; validations leave no trace, and loads
    and registrations may be told apart in either order. -/
theorem run_forgets_history (initial : Registry) (calls : List Call) :
    (∀ r, ((withFunctions initial).run calls).validate r = (fresh initial calls).validate r) ∧
    (∀ r, ((withFunctions initial).run calls).report r = (fresh initial calls).report r) ∧
    ((registrations (essentials calls)).map Prod.fst).Nodup ∧
    (∀ name, (fresh initial calls).functions.get? name =
      (Registry.lastNamed? name (registrations calls) <|> initial.get? name)) ∧
    ((withFunctions initial).run calls).ruleSet = .ofRules (lastLoaded calls) ∧
    ∀ e : Engine, e.run calls = e.run (loads calls ++ registers calls) ∧
      e.run calls = e.run (registers calls ++ loads calls) := by
  -- the fresh engine has the same rules, and functions that are found alike
  have hfresh : fresh initial calls =
      { ruleSet := .ofRules (lastLoaded calls)
        functions := (initial.without ((registrations calls).map Prod.fst)).registerAll
          (Registry.onlyLast (registrations calls)) } := by
    rw [fresh, run_withFunctions, lastLoaded_essentials, registrations_essentials]
  have hget := get?_fresh initial calls
  rw [run_withFunctions, hfresh, registrations_essentials]
  refine ⟨validate_congr _ hget, report_congr _ hget, Registry.onlyLast_nodup _, fun name => ?_,
    rfl, fun e => ⟨(run_loads_registers e calls).symm, (run_registers_loads e calls).symm⟩⟩
  exact (hget name).symm.trans (initial.get?_registerAll _ name)

end Engine
end RecordRules
