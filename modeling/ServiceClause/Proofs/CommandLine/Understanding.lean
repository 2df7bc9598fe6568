import ServiceClause.CommandLine.Execution
import ServiceClause.Proofs.Results.RoundTrip

/-!
# What a command means

A command that is executed comes down to a configuration, some input rows and a clause. Each of them
may be at fault, and then there is nothing to execute.

## Main definitions

* `ServiceClause.CommandLine.QueryCommand.BasedOn` — the configuration that a command builds on.
* `ServiceClause.CommandLine.QueryCommand.ConfiguredAs` — its own configuration.
* `ServiceClause.CommandLine.QueryCommand.HasInput` — its input rows.
* `ServiceClause.CommandLine.Declares` — the prefix that a declaration declares.
* `ServiceClause.CommandLine.QueryCommand.Means` — what it comes down to.

## Main statements

* `ServiceClause.CommandLine.QueryCommand.task_eq_ok_iff` — when a command is understood, and how.
* `ServiceClause.CommandLine.QueryCommand.exists_means_iff` — which faults there may be.
-/

set_option autoImplicit false

namespace ServiceClause.CommandLine

theorem mapError_eq_ok_iff {α ε ε' : Type} {f : ε → ε'} {x : Except ε α} {a : α} :
    x.mapError f = .ok a ↔ x = .ok a := by
  cases x <;> simp [Except.mapError]

theorem bind_eq_ok_iff {α β ε : Type} {x : Except ε α} {f : α → Except ε β} {b : β} :
    x >>= f = .ok b ↔ ∃ a, x = .ok a ∧ f a = .ok b := by
  cases x <;> simp [bind, Except.bind]

namespace QueryCommand

/-- What configuration a command builds on: the one in its file, or else the default one. -/
inductive BasedOn (q : QueryCommand) (files : Files) : Config → Prop where
  /-- No file is named. -/
  | default (h : q.config? = none) : BasedOn q files {}
  /-- The file that is named holds an acceptable configuration. -/
  | stored {path text : String} {config : Config} (hpath : q.config? = some path)
    (hfile : files path = .ok text) (hread : Config.read (symbolsOf text) = .ok config) :
    BasedOn q files config

/-- Whether a command is configured in this way: by the configuration that it builds on with its own
settings in place of those there, if that is acceptable. -/
def ConfiguredAs (q : QueryCommand) (files : Files) (config : Config) : Prop :=
  ∃ base, q.BasedOn files base ∧ config = q.adjust base ∧ config.validate = .ok ()

/-- Which input rows a command has. -/
inductive HasInput (q : QueryCommand) (files : Files) : List Row → Prop where
  /-- They are in a file. -/
  | stored {path text : String} {rows : List Row} (hpath : q.input? = some path)
    (hfile : files path = .ok text) (hread : readRows (symbolsOf text) = .ok rows) :
    HasInput q files rows
  /-- They are given with the command. -/
  | given {text : String} {rows : List Row} (hinput : q.input? = none) (hrows : q.rows? = some text)
    (hread : readRows (symbolsOf text) = .ok rows) : HasInput q files rows
  /-- There are none, and then there is a single row without bindings. -/
  | single (hinput : q.input? = none) (hrows : q.rows? = none) : HasInput q files [.empty]

end QueryCommand

/-- Whether a declaration declares a prefix: the prefix stands before the first equals sign and its
namespace behind it, both perhaps between white space. -/
def Declares (declaration : String) (declared : String × String) : Prop :=
  ∃ name namespaceIri, declaration.toList = name ++ '=' :: namespaceIri ∧ '=' ∉ name ∧
    declared = (trim (String.ofList name), trim (String.ofList namespaceIri))

namespace QueryCommand

/-- What a command comes down to. -/
structure Means (q : QueryCommand) (files : Files) (task : Task) : Prop where
  /-- The clause is evaluated in the way that the command is configured. -/
  config : q.ConfiguredAs files task.config
  /-- It is evaluated for the input rows of the command. -/
  input : q.HasInput files task.input
  /-- It is the pattern of the command with its prefixes. -/
  clause : ∃ declared, List.Forall₂ Declares q.prefixes declared ∧
    task.clause = q.clause ⟨declared, q.pattern⟩

section

variable {q : QueryCommand} {files : Files} {config : Config} {rows : List Row}

/-! ## Configurations -/

theorem baseConfig_eq_ok_iff : q.baseConfig files = .ok config ↔ q.BasedOn files config := by
  constructor
  · intro h
    unfold baseConfig at h
    split at h
    · next hnone =>
      obtain rfl := Except.ok.inj h
      exact .default hnone
    · next path hpath =>
      split at h
      · cases h
      · next text hfile => exact .stored hpath hfile (mapError_eq_ok_iff.1 h)
  · intro h
    unfold baseConfig
    cases h with
    | default hnone => rw [hnone]
    | stored hpath hfile hread =>
      simp only [hpath, hfile]
      exact mapError_eq_ok_iff.2 hread

theorem configuration_eq_ok_iff :
    q.configuration files = .ok config ↔ q.ConfiguredAs files config := by
  unfold configuration ConfiguredAs
  rw [bind_eq_ok_iff]
  constructor
  · rintro ⟨base, hbase, h⟩
    obtain ⟨_, hvalid, h⟩ := bind_eq_ok_iff.1 h
    obtain rfl := Except.ok.inj h
    exact ⟨base, baseConfig_eq_ok_iff.1 hbase, rfl, mapError_eq_ok_iff.1 hvalid⟩
  · rintro ⟨base, hbase, rfl, hvalid⟩
    refine ⟨base, baseConfig_eq_ok_iff.2 hbase, ?_⟩
    exact bind_eq_ok_iff.2 ⟨(), mapError_eq_ok_iff.2 hvalid, rfl⟩

/-! ## Input rows -/

theorem inputRows_eq_ok_iff : q.inputRows files = .ok rows ↔ q.HasInput files rows := by
  constructor
  · intro h
    unfold inputRows at h
    split at h
    · next path hpath =>
      split at h
      · cases h
      · next text hfile => exact .stored hpath hfile (mapError_eq_ok_iff.1 h)
    · next text hinput hrows => exact .given hinput hrows (mapError_eq_ok_iff.1 h)
    · next hinput hrows =>
      obtain rfl := Except.ok.inj h
      exact .single hinput hrows
  · intro h
    unfold inputRows
    cases h with
    | stored hpath hfile hread =>
      simp only [hpath, hfile]
      exact mapError_eq_ok_iff.2 hread
    | given hinput hrows hread =>
      simp only [hinput, hrows]
      exact mapError_eq_ok_iff.2 hread
    | single hinput hrows => rw [hinput, hrows]

/-! ## Prefixes -/

theorem readPrefix_eq_ok_iff {declaration : String} {declared : String × String} :
    readPrefix declaration = .ok declared ↔ Declares declaration declared := by
  unfold readPrefix Declares
  constructor
  · intro h
    split at h
    · cases h
    · next name namespaceIri hsplit =>
      obtain ⟨hdeclaration, hname⟩ := splitFirst?_eq_some_iff.1 hsplit
      exact ⟨name, namespaceIri, hdeclaration, hname, (Except.ok.inj h).symm⟩
  · rintro ⟨name, namespaceIri, hdeclaration, hname, rfl⟩
    rw [splitFirst?_eq_some_iff.2 ⟨hdeclaration, hname⟩]

theorem exists_declares_iff {declaration : String} :
    (∃ declared, Declares declaration declared) ↔ '=' ∈ declaration.toList := by
  constructor
  · rintro ⟨declared, name, namespaceIri, hdeclaration, -, -⟩
    rw [hdeclaration]
    exact List.mem_append_right _ List.mem_cons_self
  · intro h
    obtain ⟨name, namespaceIri, hdeclaration, hname⟩ := List.eq_append_cons_of_mem h
    exact ⟨_, name, namespaceIri, hdeclaration, hname, rfl⟩

/-- All declarations can be understood if there is an equals sign in each of them. -/
theorem exists_declared_iff {declarations : List String} :
    (∃ declared, List.Forall₂ Declares declarations declared) ↔
      ∀ declaration ∈ declarations, '=' ∈ declaration.toList := by
  induction declarations with
  | nil => simp
  | cons declaration rest ih =>
    rw [List.forall_mem_cons, ← ih, ← exists_declares_iff]
    constructor
    · rintro ⟨_, h⟩
      cases h with
      | cons hfirst hrest => exact ⟨⟨_, hfirst⟩, _, hrest⟩
    · rintro ⟨⟨first, hfirst⟩, rest, hrest⟩
      exact ⟨first :: rest, .cons hfirst hrest⟩

theorem readPrefixes_eq_ok_iff {declarations : List String} {declared : List (String × String)} :
    declarations.mapM readPrefix = .ok declared ↔ List.Forall₂ Declares declarations declared := by
  rw [mapM_eq_ok_iff, ← List.forall₂_eq_eq_eq, List.forall₂_map_left_iff,
    List.forall₂_map_right_iff]
  simp only [readPrefix_eq_ok_iff]

theorem patternQuery_eq_ok_iff {pattern : PatternQuery} :
    q.patternQuery = .ok pattern ↔
      ∃ declared, List.Forall₂ Declares q.prefixes declared ∧ pattern = ⟨declared, q.pattern⟩ := by
  unfold patternQuery
  constructor
  · intro h
    cases hprefixes : q.prefixes.mapM readPrefix with
    | error e =>
      rw [hprefixes] at h
      cases h
    | ok declared =>
      rw [hprefixes] at h
      exact ⟨declared, readPrefixes_eq_ok_iff.1 hprefixes, (Except.ok.inj h).symm⟩
  · rintro ⟨declared, hdeclared, rfl⟩
    rw [readPrefixes_eq_ok_iff.2 hdeclared]
    rfl

/-! ## Tasks -/

/-- **A command is understood exactly if it means something, and then as that.** -/
theorem task_eq_ok_iff {task : Task} : q.task files = .ok task ↔ q.Means files task := by
  unfold QueryCommand.task
  constructor
  · intro h
    obtain ⟨config, hconfig, h⟩ := bind_eq_ok_iff.1 h
    obtain ⟨rows, hrows, h⟩ := bind_eq_ok_iff.1 h
    obtain ⟨pattern, hpattern, h⟩ := bind_eq_ok_iff.1 h
    obtain rfl := Except.ok.inj h
    obtain ⟨declared, hdeclared, rfl⟩ := patternQuery_eq_ok_iff.1 hpattern
    exact ⟨configuration_eq_ok_iff.1 hconfig, inputRows_eq_ok_iff.1 hrows,
      declared, hdeclared, rfl⟩
  · rintro ⟨hconfig, hinput, declared, hdeclared, hclause⟩
    refine bind_eq_ok_iff.2 ⟨_, configuration_eq_ok_iff.2 hconfig, ?_⟩
    refine bind_eq_ok_iff.2 ⟨_, inputRows_eq_ok_iff.2 hinput, ?_⟩
    refine bind_eq_ok_iff.2 ⟨_, patternQuery_eq_ok_iff.2 ⟨declared, hdeclared, rfl⟩, ?_⟩
    rw [← hclause]
    rfl

/-- A command means something unless its configuration, its input rows or one of its prefixes is at
fault. -/
theorem exists_means_iff : (∃ task, q.Means files task) ↔
    (∃ config, q.ConfiguredAs files config) ∧ (∃ rows, q.HasInput files rows) ∧
      ∀ declaration ∈ q.prefixes, '=' ∈ declaration.toList := by
  rw [← exists_declared_iff]
  constructor
  · rintro ⟨task, hconfig, hinput, declared, hdeclared, -⟩
    exact ⟨⟨_, hconfig⟩, ⟨_, hinput⟩, declared, hdeclared⟩
  · rintro ⟨⟨config, hconfig⟩, ⟨rows, hinput⟩, declared, hdeclared⟩
    exact ⟨⟨config, q.clause ⟨declared, q.pattern⟩, rows⟩, hconfig, hinput, declared, hdeclared,
      rfl⟩

end

end QueryCommand

end ServiceClause.CommandLine
