/-
What a configuration that was loaded is good for.

Loading validates every profile, so each has a URL and a dialect (`fault?_eq_none_of_parse`).  Hence
a profile that is found has a connection, and nothing about its dialect can go wrong later.  What
remains is that the profile is not there, and that its dialect cannot be connected to.
-/
import TableDdl.Database.Connect
import TableDdl.Proofs.Compile
import TableDdl.Proofs.Config
import TableDdl.Proofs.Trim

namespace TableDdl

variable {σ : Type}

/-! ## The prefix in the log -/

/-- Whatever happened, it was not a record of two prefixes that differ. -/
def Activity.Quiet (t : Activity) : Prop := ∀ ours theirs, t ≠ .event (.prefixMismatch ours theirs)

namespace Blueprint

variable (b : Blueprint)

theorem announcements_eq {g : Grammar} {connection : Connection}
    (h : connection.tablePrefix = g.tablePrefix) :
    b.announcements g connection = [.compiling b.table g.dialect b.finalized.commands.length] := by
  rw [announcements, if_neg (not_not_intro h), List.nil_append]

theorem compile_quiet {g : Grammar} {connection : Connection}
    (h : connection.tablePrefix = g.tablePrefix) (i : Option (Introspector σ)) :
    (b.compile g connection i).Leaves Activity.Quiet := by
  refine (b.compile_leaves g connection i).mono fun t ht => ?_
  rw [b.announcements_eq h] at ht
  intro ours theirs heq
  subst heq
  cases ht with
  | announced _ hmem => cases List.mem_singleton.mp hmem

theorem execute_quiet (table : String) (executor : Executor σ) (statements : List String) :
    (execute table executor statements).Leaves Activity.Quiet := by
  induction statements with
  | nil => exact Run.leaves_pure ()
  | cons sql rest ih =>
      refine Run.leaves_bind (Run.leaves_note nofun) fun _ => Run.leaves_bind ?_ fun _ => ih
      refine Run.leaves_noteFailure ?_ fun e => nofun
      exact Run.leaves_bind (Run.leaves_note nofun) fun _ =>
        Run.leaves_mapTrace fun _ _ _ => nofun

end Blueprint

/-- The grammar is the connection's own, so there are no two prefixes. -/
theorem Schema.run_quiet (schema : Schema σ) (b : Blueprint) :
    (schema.run b).Leaves Activity.Quiet :=
  Run.leaves_bind (b.compile_quiet rfl _) fun sql =>
    Blueprint.execute_quiet b.table schema.executor sql

/-! ## Profiles that were validated -/

namespace Profile

variable {p : Profile}

/-- The profile has a URL and a dialect, and this connection is what it says. -/
structure Usable (p : Profile) (connection : Connection) : Prop where
  url : Text.trim p.url ≠ ""
  connects : p.connection = .ok connection
  dialect : Dialect.ofIdentifier? p.identifier = some connection.dialect
  charset : connection.charset = p.charset
  collation : connection.collation = p.collation
  database : connection.database = p.database
  grammar : connection.grammar = ⟨connection.dialect, p.tablePrefix.getD ""⟩

theorem exists_usable_of_sound {name : String} (h : p.fault? name = none) :
    ∃ connection, p.Usable connection := by
  unfold fault? dialect Dialect.resolve at h
  split at h
  · cases h
  next hurl =>
    cases hdialect : Dialect.ofIdentifier? p.identifier with
    | none =>
        rw [hdialect] at h
        cases h
    | some d =>
        refine ⟨⟨d, p.charset, p.collation, p.database, p.tablePrefix.getD ""⟩, ?_, ?_, hdialect,
          rfl, rfl, rfl, rfl⟩
        · rw [ne_eq, Text.trim_eq_empty_iff]
          exact hurl
        · unfold Profile.connection dialect Dialect.resolve
          rw [hdialect]
          rfl

end Profile

namespace Config

variable {c : Config} {document : String}

theorem fault?_eq_none_of_parse (h : Config.parse document = .ok c) : c.fault? = none := by
  unfold Config.parse at h
  cases hread : (Json.parse? document).bind ofJson? with
  | none =>
      rw [hread] at h
      cases h
  | some d =>
      rw [hread] at h
      cases hfault : d.fault? with
      | some e =>
          simp only [validate, hfault] at h
          cases h
      | none =>
          simp only [validate, hfault] at h
          cases h
          exact hfault

theorem profile_eq_ok_iff {name : Option String} {p : Profile} :
    c.profile name = .ok p ↔ c.profiles.find? (name.getD c.default) = some p := by
  simp only [profile]
  cases c.profiles.find? (name.getD c.default) <;> simp

theorem profile_eq_error_iff {name : Option String} {e : SetupError} :
    c.profile name = .error e ↔
      name.getD c.default ∉ c.profiles.entries.map Prod.fst ∧
        e = .noSuchProfile (name.getD c.default) := by
  have hmissing : name.getD c.default ∉ c.profiles.entries.map Prod.fst ↔
      c.profiles.find? (name.getD c.default) = none := by
    rw [NameMap.find?, List.lookup_eq_none_iff, List.mem_map]
    constructor
    · intro h e he
      exact bne_iff_ne.mpr fun heq => h ⟨e, he, heq.symm⟩
    · rintro h ⟨e, he, heq⟩
      exact bne_iff_ne.mp (h e he) heq.symm
  rw [hmissing]
  simp only [profile]
  cases c.profiles.find? (name.getD c.default) <;> simp [eq_comm]

theorem exists_usable_of_parse (h : Config.parse document = .ok c) {name : Option String}
    {p : Profile} (hp : c.profile name = .ok p) : ∃ connection, p.Usable connection := by
  have hmem : ∃ name, (name, p) ∈ c.profiles.entries := by
    obtain ⟨before, after, hentries, -⟩ := List.lookup_eq_some_iff.mp (profile_eq_ok_iff.mp hp)
    exact ⟨_, hentries ▸ List.mem_append_right before List.mem_cons_self⟩
  obtain ⟨name, hmem⟩ := hmem
  have hfault := fault?_eq_none_of_parse h
  unfold Config.fault? at hfault
  split at hfault
  · cases hfault
  · exact Profile.exists_usable_of_sound (List.findSome?_eq_none_iff.mp hfault _ hmem)

section Opening

variable {name : Option String} {p : Profile} {connection : Connection}

/-- Nothing is connected to for a dialect other than SQLite. -/
theorem openProfile_of_not_sqlite (hp : c.profile name = .ok p) (husable : p.Usable connection)
    (hd : connection.dialect ≠ .sqlite) (connect : Connector σ) (s : σ) :
    c.openProfile connect name s =
      (.error (.unusable (.notConnectable connection.dialect)), s) := by
  simp only [openProfile, hp, husable.connects, if_neg hd]

theorem fault_of_openProfile (hp : c.profile name = .ok p) (husable : p.Usable connection)
    (hd : connection.dialect = .sqlite) {connect : Connector σ} {s : σ} {e : SetupError}
    (h : (c.openProfile connect name s).1 = .error e) :
    ∃ fault : ConnectFault, e = fault.error := by
  simp only [openProfile, hp, husable.connects, if_pos hd] at h
  split at h
  next fault _ _ => exact ⟨fault, (Except.error.inj h).symm⟩
  next => cases h

end Opening

/-- A configuration that loads is of use.  A profile is missing exactly when there is none of that
name.  Each that is found has a URL and a connection with its own prefix, which never shows up in
the log as a mismatch, and opening it fails for want of a SQLite dialect or because of the
connection. -/
theorem usable_of_parse (h : Config.parse document = .ok c) (name : Option String) :
    let wanted := name.getD c.default
    (∀ e, c.profile name = .error e ↔
        wanted ∉ c.profiles.entries.map Prod.fst ∧ e = .noSuchProfile wanted) ∧
      ∀ p, c.profile name = .ok p →
        ∃ connection, p.Usable connection ∧
          (∀ (executor : Executor σ) (b : Blueprint) (table : String) (steps : List Step),
            let schema : Schema σ := ⟨connection, executor⟩
            (schema.run b).Leaves Activity.Quiet ∧
              (schema.preview table steps).Leaves Activity.Quiet) ∧
          ∀ (connect : Connector σ) (s : σ),
            let opened := c.openProfile connect name s
            (∀ identifier, opened.1 ≠ .error (.schema (.unsupportedDialect identifier))) ∧
              ((∃ fault, opened.1 = .error (.unusable fault)) ↔ connection.dialect ≠ .sqlite) ∧
              (connection.dialect ≠ .sqlite →
                opened = (.error (.unusable (.notConnectable connection.dialect)), s)) := by
  intro wanted
  refine ⟨fun e => profile_eq_error_iff, fun p hp => ?_⟩
  obtain ⟨connection, husable⟩ := exists_usable_of_parse h hp
  refine ⟨connection, husable, fun executor b table steps => ?_, fun connect s => ?_⟩
  · exact ⟨Schema.run_quiet _ b, Blueprint.compile_quiet _ rfl _⟩
  · intro opened
    by_cases hd : connection.dialect = .sqlite
    · refine ⟨fun identifier hopened => ?_, ⟨?_, fun hne => absurd hd hne⟩,
        fun hne => absurd hd hne⟩
      · obtain ⟨fault, hfault⟩ := fault_of_openProfile hp husable hd hopened
        cases fault <;> cases hfault
      · rintro ⟨_, hopened⟩
        obtain ⟨fault, hfault⟩ := fault_of_openProfile hp husable hd hopened
        cases fault <;> cases hfault
    · have hopened : opened = _ := openProfile_of_not_sqlite hp husable hd connect s
      rw [hopened]
      exact ⟨nofun, ⟨fun _ => hd, fun _ => ⟨_, rfl⟩⟩, fun _ => rfl⟩

/-- A driver name in mixed case with a blank in front still selects its dialect.  A database that
counts how often it is tried is not tried. -/
theorem usable_of_parse_report :
    let connect : Connector Nat := fun _ tried => (.error .refused, tried + 1)
    let report : Profile := { identifier := " PgSQL:", url := "db.local", charset := some "" }
    let c : Config :=
      { default := "main"
        profiles := NameMap.ofList
          [("report", report),
           ("main", { identifier := "sqlite", url := ":memory:", tablePrefix := some "app_" })] }
    let document :=
      "\x7b\"default\":\"main\",\"profiles\":\x7b\"main\":\x7b\"dialect\":\"sqlite\"," ++
        "\"url\":\":memory:\",\"table_prefix\":\"app_\"\x7d,\"report\":" ++
        "\x7b\"dialect\":\" PgSQL:\",\"url\":\"db.local\",\"charset\":\"\"\x7d\x7d\x7d"
    Config.parse document = .ok c ∧
      c.profile (some "backup") = .error (.noSuchProfile "backup") ∧
      c.profile (some "report") = .ok report ∧
      ∃ connection, report.Usable connection ∧ connection.dialect = .postgres ∧
        c.openProfile connect (some "report") 0 =
          (.error (.unusable (.notConnectable connection.dialect)), 0) := by
  intro connect report c document
  have hparse : Config.parse document = .ok c := by
    have hdocument : document = c.serialize := by decide +kernel
    have hsound : c.fault? = none := by decide +kernel
    exact hdocument ▸ parse_of_sound c.read_serialize hsound
  have hreport : c.profile (some "report") = .ok report :=
    profile_eq_ok_iff.mpr (by decide +kernel)
  obtain ⟨hmissing, -⟩ := usable_of_parse (σ := Nat) hparse (some "backup")
  obtain ⟨-, hfound⟩ := usable_of_parse (σ := Nat) hparse (some "report")
  obtain ⟨connection, husable, -, hopened⟩ := hfound report hreport
  have hd : connection.dialect = .postgres := by
    have hdialect : Dialect.ofIdentifier? report.identifier = some .postgres := by decide +kernel
    exact Option.some.inj (husable.dialect.symm.trans hdialect)
  refine ⟨hparse, (hmissing _).mpr ⟨by decide +kernel, rfl⟩, hreport, connection, husable, hd, ?_⟩
  exact (hopened connect 0).2.2 (by rw [hd]; decide)

end Config
end TableDdl
