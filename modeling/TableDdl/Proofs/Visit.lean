/-
How far a compilation gets.

A compilation comes to its commands one after the other and stops at the first that fails.  `visits`
lists the commands it comes to, each with what became of it.  They are the first commands in order
(`visits_inOrder`), and what is asked while they are compiled is all that is asked
(`compile_asked`).  The statements of a compilation that succeeds are theirs, one block after the
other (`visits_statements`).
-/
import TableDdl.Proofs.Question

namespace TableDdl

variable {σ : Type}

/-- A command that a compilation came to, and what became of it. -/
structure Visit (σ : Type) where
  command : Command
  outcome : Outcome Activity σ (List String)

/-- Commands were compiled in order, up to the first that failed, with this result. -/
structure Visit.InOrder (commands : List Command) (result : Except SchemaError (List String))
    (visits : List (Visit σ)) : Prop where
  order : visits.map Visit.command <+: commands
  failed : ∀ before v after e, visits = before ++ v :: after → v.outcome.result = .error e →
    after = [] ∧ result = .error e
  complete : ∀ sql, result = .ok sql → visits.map Visit.command = commands

/-- The statements that the command became, none if it failed. -/
def Visit.statements (v : Visit σ) : List String :=
  match v.outcome.result with
  | .ok sql => sql
  | .error _ => []

theorem Visit.statements_of_ok {v : Visit σ} {sql : List String} (h : v.outcome.result = .ok sql) :
    v.statements = sql := by
  rw [statements, h]

theorem Visit.ok_of_mem_statements {v : Visit σ} {statement : String}
    (h : statement ∈ v.statements) : ∃ sql, v.outcome.result = .ok sql := by
  cases hresult : v.outcome.result with
  | ok sql => exact ⟨sql, rfl⟩
  | error e =>
      rw [statements, hresult] at h
      cases h

namespace Blueprint

variable (b : Blueprint) (g : Grammar) (connection : Connection) (i : Option (Introspector σ))

/-- The commands up to the first that fails, compiled from a state onwards. -/
def visitsFrom : List Command → σ → List (Visit σ)
  | [], _ => []
  | c :: rest, s =>
      let outcome := b.compileCommand g connection i c s
      match outcome.result with
      | .ok _ => ⟨c, outcome⟩ :: visitsFrom rest outcome.state
      | .error _ => [⟨c, outcome⟩]

/-- The commands that the compilation of a blueprint comes to.  A blueprint with a faulty column is
not compiled at all. -/
def visits (s : σ) : List (Visit σ) :=
  match b.fault? with
  | some _ => []
  | none => b.finalized.visitsFrom g connection i b.finalized.commands s

variable {b g connection i}

theorem visitsFrom_cons_of_ok {c : Command} {s : σ} {sql : List String}
    (h : (b.compileCommand g connection i c s).result = .ok sql) (rest : List Command) :
    b.visitsFrom g connection i (c :: rest) s =
      ⟨c, b.compileCommand g connection i c s⟩ ::
        b.visitsFrom g connection i rest (b.compileCommand g connection i c s).state := by
  simp only [visitsFrom, h]

theorem visitsFrom_cons_of_error {c : Command} {s : σ} {e : SchemaError}
    (h : (b.compileCommand g connection i c s).result = .error e) (rest : List Command) :
    b.visitsFrom g connection i (c :: rest) s =
      [⟨c, b.compileCommand g connection i c s⟩] := by
  simp only [visitsFrom, h]

theorem compileCommands_cons_of_error {c : Command} {s : σ} {e : SchemaError}
    (h : (b.compileCommand g connection i c s).result = .error e) (rest : List Command) :
    b.compileCommands g connection i (c :: rest) s =
      ⟨.error e, (b.compileCommand g connection i c s).trace,
        (b.compileCommand g connection i c s).state⟩ :=
  Run.bind_of_error h

/-- After a command that compiled, the outcome of the others decides. -/
theorem compileCommands_cons_of_ok {c : Command} {s : σ} {sql : List String}
    (h : (b.compileCommand g connection i c s).result = .ok sql) (rest : List Command) :
    let first := b.compileCommand g connection i c s
    let others := b.compileCommands g connection i rest first.state
    b.compileCommands g connection i (c :: rest) s =
      ⟨others.result.map (sql ++ ·), first.trace ++ others.trace, others.state⟩ := by
  intro first others
  refine (Run.bind_of_ok h).trans ?_
  rw [Run.bind_pure_apply]

theorem compileCommands_trace (commands : List Command) (s : σ) :
    (b.compileCommands g connection i commands s).trace =
      (b.visitsFrom g connection i commands s).flatMap fun v => v.outcome.trace := by
  induction commands generalizing s with
  | nil => rfl
  | cons c rest ih =>
      cases h : (b.compileCommand g connection i c s).result with
      | error e =>
          rw [compileCommands_cons_of_error h, visitsFrom_cons_of_error h]
          exact (List.append_nil _).symm
      | ok sql =>
          rw [compileCommands_cons_of_ok h, visitsFrom_cons_of_ok h, List.flatMap_cons]
          exact congrArg _ (ih _)

theorem visitsFrom_order (commands : List Command) (s : σ) :
    (b.visitsFrom g connection i commands s).map Visit.command <+: commands := by
  induction commands generalizing s with
  | nil => exact List.nil_prefix
  | cons c rest ih =>
      cases h : (b.compileCommand g connection i c s).result with
      | error e =>
          rw [visitsFrom_cons_of_error h]
          exact List.prefix_append [c] rest
      | ok sql =>
          rw [visitsFrom_cons_of_ok h]
          exact (List.cons_prefix_cons).mpr ⟨rfl, ih _⟩

/-- A visit that fails is the last one, and its error is that of the compilation. -/
theorem visitsFrom_failed {commands : List Command} {s : σ} {before after : List (Visit σ)}
    {v : Visit σ} {e : SchemaError}
    (hvisits : b.visitsFrom g connection i commands s = before ++ v :: after)
    (hfailed : v.outcome.result = .error e) :
    after = [] ∧ (b.compileCommands g connection i commands s).result = .error e := by
  -- If nothing stands before the failed visit, it is that of the first command.
  induction commands generalizing s before with
  | nil => cases before <;> cases hvisits
  | cons c rest ih =>
      cases h : (b.compileCommand g connection i c s).result with
      | error e' =>
          rw [visitsFrom_cons_of_error h] at hvisits
          rw [compileCommands_cons_of_error h]
          cases before with
          | nil =>
              cases hvisits
              rw [h] at hfailed
              cases hfailed
              exact ⟨rfl, rfl⟩
          | cons w before => cases before <;> cases hvisits
      | ok sql =>
          rw [visitsFrom_cons_of_ok h] at hvisits
          rw [compileCommands_cons_of_ok h]
          cases before with
          | nil =>
              cases hvisits
              rw [h] at hfailed
              cases hfailed
          | cons w before =>
              obtain ⟨hafter, hresult⟩ := ih (List.cons.inj hvisits).2
              rw [hresult]
              exact ⟨hafter, rfl⟩

/-- A compilation that succeeds came to every command. -/
theorem visitsFrom_complete {commands : List Command} {s : σ} {sql : List String}
    (h : (b.compileCommands g connection i commands s).result = .ok sql) :
    (b.visitsFrom g connection i commands s).map Visit.command = commands := by
  induction commands generalizing s sql with
  | nil => rfl
  | cons c rest ih =>
      cases hc : (b.compileCommand g connection i c s).result with
      | error e =>
          rw [compileCommands_cons_of_error hc] at h
          cases h
      | ok first =>
          rw [compileCommands_cons_of_ok hc] at h
          cases hmore : (b.compileCommands g connection i rest
              (b.compileCommand g connection i c s).state).result with
          | error e =>
              rw [hmore] at h
              cases h
          | ok more => rw [visitsFrom_cons_of_ok hc, List.map_cons, ih hmore]

theorem visitsFrom_statements {commands : List Command} {s : σ} {sql : List String}
    (h : (b.compileCommands g connection i commands s).result = .ok sql) :
    (b.visitsFrom g connection i commands s).flatMap Visit.statements = sql := by
  induction commands generalizing s sql with
  | nil =>
      cases h
      rfl
  | cons c rest ih =>
      cases hc : (b.compileCommand g connection i c s).result with
      | error e =>
          rw [compileCommands_cons_of_error hc] at h
          cases h
      | ok first =>
          rw [compileCommands_cons_of_ok hc] at h
          cases hmore : (b.compileCommands g connection i rest
              (b.compileCommand g connection i c s).state).result with
          | error e =>
              rw [hmore] at h
              cases h
          | ok more =>
              rw [hmore] at h
              cases h
              have hfirst : Visit.statements ⟨c, b.compileCommand g connection i c s⟩ = first :=
                Visit.statements_of_ok hc
              rw [visitsFrom_cons_of_ok hc, List.flatMap_cons, ih hmore, hfirst]

theorem outcome_of_mem_visitsFrom {commands : List Command} {s : σ} {v : Visit σ}
    (h : v ∈ b.visitsFrom g connection i commands s) :
    ∃ s', v.outcome = b.compileCommand g connection i v.command s' := by
  induction commands generalizing s with
  | nil => cases h
  | cons c rest ih =>
      cases hc : (b.compileCommand g connection i c s).result with
      | error e =>
          rw [visitsFrom_cons_of_error hc] at h
          rw [List.mem_singleton.mp h]
          exact ⟨s, rfl⟩
      | ok sql =>
          rw [visitsFrom_cons_of_ok hc] at h
          rcases List.mem_cons.mp h with rfl | h
          · exact ⟨s, rfl⟩
          · exact ih h

/-! ## Compiling a blueprint -/

variable (b g connection i)

theorem visits_inOrder (s : σ) :
    Visit.InOrder b.finalized.commands (b.compile g connection i s).result
      (b.visits g connection i s) := by
  unfold visits
  cases hfault : b.fault? with
  | some f =>
      rw [compile_of_fault hfault]
      refine ⟨List.nil_prefix, ?_, ?_⟩
      · intro before v after e h
        cases before <;> cases h
      · intro sql h
        cases h
  | none =>
      rw [compile_of_sound hfault]
      exact ⟨visitsFrom_order _ s, fun _ _ _ _ => visitsFrom_failed,
        fun _ => visitsFrom_complete⟩

theorem outcome_of_mem_visits {s : σ} {v : Visit σ} (h : v ∈ b.visits g connection i s) :
    ∃ s', v.outcome = b.finalized.compileCommand g connection i v.command s' := by
  unfold visits at h
  cases hfault : b.fault? with
  | some f =>
      rw [hfault] at h
      cases h
  | none =>
      rw [hfault] at h
      exact outcome_of_mem_visitsFrom h

/-- A command that is no alteration becomes what its plan emits, whenever it is come to. -/
theorem result_of_mem_visits {s : σ} {v : Visit σ} {c : Command}
    (h : v ∈ b.visits g connection i s) (hc : v.command = c)
    (hlive : g.dialect.alteration? c = none) :
    v.outcome.result = .ok (g.plan connection b.finalized c).emitted := by
  obtain ⟨s', houtcome⟩ := outcome_of_mem_visits b g connection i h
  rw [houtcome, hc]
  exact (compileCommand_of_no_alteration hlive i s').2

theorem visits_statements {s : σ} {sql : List String}
    (h : (b.compile g connection i s).result = .ok sql) :
    (b.visits g connection i s).flatMap Visit.statements = sql := by
  unfold visits
  cases hfault : b.fault? with
  | some f =>
      rw [compile_of_fault hfault] at h
      cases h
  | none =>
      rw [compile_of_sound hfault] at h
      exact visitsFrom_statements h

theorem exists_visit_of_ok {s : σ} {sql : List String} {c : Command}
    (h : (b.compile g connection i s).result = .ok sql) (hc : c ∈ b.finalized.commands) :
    ∃ v ∈ b.visits g connection i s, v.command = c := by
  have hall := (b.visits_inOrder g connection i s).complete sql h
  rw [← hall] at hc
  exact List.mem_map.mp hc

/-- The statements of a command are among those of the compilation. -/
theorem mem_of_compile {s : σ} {sql : List String} {c : Command}
    (h : (b.compile g connection i s).result = .ok sql) (hc : c ∈ b.finalized.commands)
    (hlive : g.dialect.alteration? c = none) :
    ∀ statement ∈ (g.plan connection b.finalized c).emitted, statement ∈ sql := by
  intro statement hstatement
  obtain ⟨v, hv, hcommand⟩ := exists_visit_of_ok b g connection i h hc
  have hresult := result_of_mem_visits b g connection i hv hcommand hlive
  rw [← visits_statements b g connection i h]
  refine List.mem_flatMap.mpr ⟨v, hv, ?_⟩
  rwa [Visit.statements_of_ok hresult]

/-- A compilation leaves its announcements, and then what compiling each command left. -/
theorem compile_trace (s : σ) :
    ∃ events : List Event, (b.compile g connection i s).trace =
      events.map .event ++ (b.visits g connection i s).flatMap fun v => v.outcome.trace := by
  unfold visits
  cases hfault : b.fault? with
  | some f => exact ⟨[], by rw [compile_of_fault hfault]; rfl⟩
  | none =>
      refine ⟨b.announcements g connection, ?_⟩
      rw [compile_of_sound hfault]
      exact congrArg _ (compileCommands_trace _ s)

theorem trace_of_mem_visits {s : σ} {v : Visit σ} (h : v ∈ b.visits g connection i s) :
    v.outcome.trace <:+: (b.compile g connection i s).trace := by
  obtain ⟨events, htrace⟩ := b.compile_trace g connection i s
  rw [htrace, List.flatMap_def]
  exact List.infix_append_of_infix_right
    (List.infix_of_mem_flatten (List.mem_map_of_mem h))

theorem compile_asked (s : σ) :
    asked (b.compile g connection i s).trace =
      (b.visits g connection i s).flatMap fun v => asked v.outcome.trace := by
  obtain ⟨events, htrace⟩ := b.compile_trace g connection i s
  rw [htrace, asked_append, asked_events, List.nil_append]
  exact List.filter_flatMap

end Blueprint
end TableDdl
