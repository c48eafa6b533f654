import LineMachine.Proofs.CommandLine.Options

/-!
# `LineMachine.Proofs.CommandLine.Commands`: what the commands leave behind

Both commands begin alike: they read the configuration, begin the log and build the table. The
first thing that goes wrong ends them.

* `Prepared` says that a command comes through this beginning, with its configuration and its table.
  `invoke_of_prepared` tells what it leaves behind then, and `invoke_of_not_prepared` what if not.
* `Completes` is the parse of an input by the library, with what it reads and finds.
  `code_eq_zero_iff` says that the exit of a run is good exactly then.
* `run_is_parse` puts the parts together, and compares a run with a check of the same table.
  `not_optionsByKey` is about a file that has the settings of a parse as a list.
-/

set_option autoImplicit false

namespace LineMachine.CommandLine

open Config (Value)
open Engine (start)

/-! ### The log -/

/-- The levels that the configuration of a log names. -/
def levelNames (c : LogConfig) : List String := c.level :: (c.table.toList ++ c.engine.toList)

/-- A name that `levelLimit?` knows gives a limit for the log, without an error. -/
theorem LogFilter.limit_eq_ok {name : String} (h : (levelLimit? name).isSome = true) :
    ∃ l, limit name = .ok l := by
  obtain ⟨l, hl⟩ := Option.isSome_iff_exists.mp h
  exact ⟨l, by rw [limit, hl]⟩

/-- A name that gives a limit is one that `levelLimit?` knows. With `LogFilter.limit_eq_ok` the
two say the same of a name. -/
theorem LogFilter.isSome_of_limit {name : String} {l : LevelLimit} (h : limit name = .ok l) :
    (levelLimit? name).isSome = true := by
  unfold limit at h
  split at h
  · rename_i hl
    rw [hl]
    rfl
  · cases h

/-- The log begins exactly if all levels can be read. `LogFilter.ofConfig` reads them in order and
stops at the first that is unknown; `levelNames` has those that it looks at. -/
theorem exists_ofConfig_iff (c : LogConfig) :
    (∃ filter, LogFilter.ofConfig c = .ok filter) ↔
      ∀ name ∈ levelNames c, (levelLimit? name).isSome = true := by
  have htable : c.levelFor Report.tableTarget = c.table.getD c.level := by
    rw [LogConfig.levelFor, if_pos rfl]
  have hengine : c.levelFor Report.engineTarget = c.engine.getD c.level := by
    rw [LogConfig.levelFor, if_neg (by decide), if_pos rfl]
  have hcommand : c.levelFor Notice.commandTarget = c.level := by
    rw [LogConfig.levelFor, if_neg (by decide), if_neg (by decide)]
  constructor
  · rintro ⟨filter, h⟩
    obtain ⟨l, hlevel, h⟩ := bind_eq_ok_iff.mp h
    obtain ⟨lt, htableLimit, h⟩ := bind_eq_ok_iff.mp h
    obtain ⟨le, hengineLimit, h⟩ := bind_eq_ok_iff.mp h
    -- A level that a part names is the one that is read for it.
    rw [htable] at htableLimit
    rw [hengine] at hengineLimit
    intro name hname
    rcases List.mem_cons.mp hname with rfl | hpart
    · exact LogFilter.isSome_of_limit hlevel
    · rcases List.mem_append.mp hpart with hmem | hmem
      · rw [Option.mem_toList.mp hmem] at htableLimit
        exact LogFilter.isSome_of_limit htableLimit
      · rw [Option.mem_toList.mp hmem] at hengineLimit
        exact LogFilter.isSome_of_limit hengineLimit
  · intro h
    have hlevel : (levelLimit? c.level).isSome = true := h _ List.mem_cons_self
    -- A part without a level of its own has that for all, which is known.
    have hpart (part : Option String) (hpart : part.toList ⊆ levelNames c) :
        (levelLimit? (part.getD c.level)).isSome = true := by
      cases part with
      | none => exact hlevel
      | some name => exact h name (hpart (by simp))
    obtain ⟨l, hl⟩ := LogFilter.limit_eq_ok hlevel
    obtain ⟨lt, hlt⟩ := LogFilter.limit_eq_ok (hpart c.table (by simp [levelNames]))
    obtain ⟨le, hle⟩ := LogFilter.limit_eq_ok (hpart c.engine (by simp [levelNames]))
    refine ⟨⟨lt, le, l⟩, ?_⟩
    rw [LogFilter.ofConfig, hl, htable, hengine, hcommand, hlt, hle, hl]
    rfl

/-! ### The beginning of a command -/

/-- The command comes to its work:

- `loads`: it has this configuration;
- `levels`: all levels of the log can be read;
- `builds`: its table file is read as a definition, from which this table is built. The validation
  of the configuration applies if the definition chooses none. -/
structure Prepared (w : World) (i : Invocation) (c : Config) (t : Table Events) : Prop where
  loads : loadConfig w i = .ok c
  levels : ∀ name ∈ levelNames c.log, (levelLimit? name).isSome = true
  builds : ∃ d log, TableDefinition.ofFile i.command.table (w.file i.command.table) = .ok d ∧
    d.build c.validation = (.ok t, log)

variable {w : World} {i : Invocation} {c : Config} {t : Table Events}

/-- The beginning of a command decides on one configuration and one table. All three parts of
`Prepared` come from functions, so a run and a check speak of the same table. -/
theorem Prepared.unique {c' : Config} {t' : Table Events} (h : Prepared w i c t)
    (h' : Prepared w i c' t') : c = c' ∧ t = t' := by
  obtain rfl : c = c' := Except.ok.inj (h.loads.symm.trans h'.loads)
  obtain ⟨d, log, hd, hbuild⟩ := h.builds
  obtain ⟨d', log', hd', hbuild'⟩ := h'.builds
  obtain rfl : d = d' := Except.ok.inj (hd.symm.trans hd')
  rw [hbuild] at hbuild'
  exact ⟨rfl, Except.ok.inj (Prod.mk.inj hbuild').1⟩

/-- A table that is loaded comes from a definition in its file, which was built under the
validation of the configuration. -/
theorem exists_build_of_loadTable {path : String} {log : List Report}
    (h : loadTable w path c = (.ok t, log)) :
    ∃ d, TableDefinition.ofFile path (w.file path) = .ok d ∧
      d.build c.validation = (.ok t, log) := by
  unfold loadTable at h
  split at h
  · cases (Prod.mk.inj h).1
  · exact ⟨_, by assumption, h⟩

/-- What a command leaves behind whose log has begun, by what it tells and by its result. -/
def leave (c : Config) (filter : LogFilter) (account : Account) : Exit :=
  match account.2 with
  | .error message => ⟨1, "", account.1.filter filter.admits, c.log.format, some message⟩
  | .ok stdout => ⟨0, stdout, account.1.filter filter.admits, c.log.format, none⟩

/-- An exit that `leave` makes is good and prints what the work says, or is one and prints
nothing. There is no third code. -/
theorem leave_code_cases (c : Config) (filter : LogFilter) (account : Account) :
    ((leave c filter account).code = 0 ∧ account.2 = .ok (leave c filter account).stdout) ∨
      ((leave c filter account).code = 1 ∧ (leave c filter account).stdout = "" ∧
        ∃ message, account.2 = .error message ∧
          (leave c filter account).failure = some message) := by
  obtain ⟨notices, message | stdout⟩ := account
  · exact .inr ⟨rfl, rfl, message, rfl, rfl⟩
  · exact .inl ⟨rfl, rfl⟩

/-- Behind its configuration and its log, what a command leaves is told by its work alone. The
lemmas below go on with `tableWork` and do not open `invoke`. -/
theorem invoke_eq_leave {filter : LogFilter} (hc : loadConfig w i = .ok c)
    (hfilter : LogFilter.ofConfig c.log = .ok filter) :
    invoke w i = leave c filter (tableWork w c i.command) := by
  rw [invoke, hc]
  dsimp only
  rw [hfilter]
  rfl

/-- What a command leaves behind that comes to its work: what its work says. The notices are left
open, as neither the code nor the text depends on them. -/
theorem invoke_of_prepared (h : Prepared w i c t) : ∃ filter told,
    invoke w i = leave c filter (told, (work w c t i.command).2) := by
  obtain ⟨filter, hfilter⟩ := (exists_ofConfig_iff c.log).mpr h.levels
  obtain ⟨d, log, hd, hbuild⟩ := h.builds
  have htable : loadTable w i.command.table c = (.ok t, log) := by
    rw [loadTable, hd]
    exact hbuild
  have hwork : (tableWork w c i.command).2 = (work w c t i.command).2 := by
    rw [tableWork, htable]
  refine ⟨filter, (tableWork w c i.command).1, ?_⟩
  rw [invoke_eq_leave h.loads hfilter, ← hwork]

/-- What a command leaves behind that does not come to its work. Only the beginning matters, so
any other command that begins alike leaves the same. The cases are the parts of `Prepared`, in the
order in which they can fail. -/
theorem invoke_of_not_prepared (h : ∀ c t, ¬ Prepared w i c t) :
    (invoke w i).code = 1 ∧ (invoke w i).stdout = "" ∧
      ∀ command : Command, command.table = i.command.table →
        command.decoding = i.command.decoding → invoke w { i with command } = invoke w i := by
  have hconfig (command : Command) (hdecoding : command.decoding = i.command.decoding) :
      loadConfig w { i with command } = loadConfig w i := by
    simp only [loadConfig, hdecoding]
  cases hloads : loadConfig w i with
  | error fault =>
    have hexit (j : Invocation) (hj : loadConfig w j = .error fault) :
        invoke w j = configFailure fault.message := by rw [invoke, hj]
    rw [hexit i hloads]
    exact ⟨rfl, rfl, fun command _ hdecoding =>
      hexit _ ((hconfig command hdecoding).trans hloads)⟩
  | ok c =>
    cases hfilter : LogFilter.ofConfig c.log with
    | error name =>
      have hexit (j : Invocation) (hj : loadConfig w j = .ok c) :
          invoke w j = configFailure s!"invalid log level `{name}`" := by
        rw [invoke, hj]
        dsimp only
        rw [hfilter]
      rw [hexit i hloads]
      exact ⟨rfl, rfl, fun command _ hdecoding =>
        hexit _ ((hconfig command hdecoding).trans hloads)⟩
    | ok filter =>
      -- The configuration is in order, so the table is not.
      have hlevels := (exists_ofConfig_iff c.log).mp ⟨filter, hfilter⟩
      obtain ⟨fault, log, htable⟩ : ∃ fault log,
          loadTable w i.command.table c = (.error fault, log) := by
        rcases htable : loadTable w i.command.table c with ⟨fault | t, log⟩
        · exact ⟨fault, log, rfl⟩
        · obtain ⟨d, hd, hbuild⟩ := exists_build_of_loadTable htable
          exact absurd ⟨hloads, hlevels, d, log, hd, hbuild⟩ (h c t)
      have hexit (j : Invocation) (hj : loadConfig w j = .ok c)
          (htablePath : j.command.table = i.command.table) :
          invoke w j = leave c filter (Notice.loading i.command.table c.validation ::
            log.map .machine, .error s!"Table error in {i.command.table}: {fault.message}") := by
        rw [invoke_eq_leave hj hfilter, tableWork, htablePath, htable]
      rw [hexit i hloads rfl]
      exact ⟨rfl, rfl, fun command hpath hdecoding =>
        hexit _ ((hconfig command hdecoding).trans hloads) hpath⟩

/-- A command that does not exit with one has come to its work, by `invoke_of_not_prepared`. -/
theorem exists_prepared (h : (invoke w i).code ≠ 1) : ∃ c t, Prepared w i c t := by
  apply Classical.byContradiction
  intro hnone
  refine h (invoke_of_not_prepared ?_).1
  intro c t hprepared
  exact hnone ⟨c, t, hprepared⟩

/-- Every command exits well, or with one and without a text. The exit of a program called with
words that make no sense is another one, and no command is carried out there. -/
theorem invoke_code_cases (w : World) (i : Invocation) :
    (invoke w i).code = 0 ∨ (invoke w i).code = 1 ∧ (invoke w i).stdout = "" := by
  rcases Classical.em (∃ c t, Prepared w i c t) with ⟨c, t, hprepared⟩ | hnone
  · obtain ⟨filter, told, hinvoke⟩ := invoke_of_prepared hprepared
    rw [hinvoke]
    rcases leave_code_cases c filter (told, (work w c t i.command).2) with
      ⟨hzero, -⟩ | ⟨hone, hstdout, -⟩
    · exact .inl hzero
    · exact .inr ⟨hone, hstdout⟩
  · obtain ⟨hone, hstdout, -⟩ :=
      invoke_of_not_prepared fun c t hprepared => hnone ⟨c, t, hprepared⟩
    exact .inr ⟨hone, hstdout⟩

/-- A check has nothing left to fail at when its table is there: `work` prints the table for it
and cannot fail. -/
theorem check_code_eq_one_iff {config logLevel : Option String} {table : String} :
    (invoke w ⟨config, logLevel, .check table⟩).code = 1 ↔
      ∀ c t, ¬ Prepared w ⟨config, logLevel, .check table⟩ c t := by
  constructor
  · intro hcode c t hprepared
    obtain ⟨filter, told, hinvoke⟩ := invoke_of_prepared hprepared
    rw [hinvoke] at hcode
    cases hcode
  · intro hnone
    exact (invoke_of_not_prepared hnone).1

/-! ### The work of a run -/

/-- A parse whose steps are recorded from the beginning is one with `trace` set in its settings.
`Engine.recording` before the first line is no different from starting so. -/
theorem startEngine_eq (t : Table Events) (c : Config) (trace : Bool) :
    startEngine t c trace = start t (withTrace trace c.parse) Events.empty := by
  cases trace with
  | false => rfl
  | true =>
    obtain ⟨validation, ⟨decoding, requireEmptyStack, recorded⟩, log⟩ := c
    cases recorded <;> rfl

/-- A parse of an input succeeds in the program exactly when the library's parse does. The error
for running out of steps is no success, so it does not matter here whether it can occur. -/
theorem parseInput_eq_ok_iff {source : Text.Source} {engine e : Engine Events}
    {summary : Summary} : parseInput source engine = (.ok summary, e) ↔
      engine.parseSource 0 source = some (.ok summary, e) := by
  unfold parseInput
  split
  · rename_i answer hanswer
    rw [hanswer, Option.some.injEq]
  · rename_i hnone
    rw [hnone]
    constructor
    · intro h
      cases (Prod.mk.inj h).1
    · intro h
      cases h

/-- A run that opens its input says what the parse of it finds. This leads from the work of a run
to `Completes.parses`. -/
theorem work_run_eq_ok_iff {table input : String} {format : ReportFormat} {trace : Bool}
    {decoding : Option Decoding} {stdout : String} :
    (work w c t (.run table input format trace decoding)).2 = .ok stdout ↔
      ∃ source summary e, openInput w input = .ok source ∧
        (start t (withTrace trace c.parse) Events.empty).parseSource 0 source =
          some (.ok summary, e) ∧ stdout = runReport format e.data summary := by
  rw [work]
  cases hopen : openInput w input with
  | error message => simp
  | ok source =>
    dsimp only
    rw [runInput, startEngine_eq]
    -- The text of the run says whether the parse succeeded, and so does its summary.
    rcases hparse : parseInput source (start t (withTrace trace c.parse) Events.empty) with
      ⟨fault | summary, e⟩
    · constructor
      · intro h
        cases h
      · rintro ⟨source', summary, e', hsource, hrun, -⟩
        cases hsource
        rw [parseInput_eq_ok_iff.mpr hrun] at hparse
        cases (Prod.mk.inj hparse).1
    · constructor
      · intro h
        cases h
        exact ⟨source, summary, e, rfl, parseInput_eq_ok_iff.mp hparse, rfl⟩
      · rintro ⟨source', summary', e', hsource, hrun, rfl⟩
        cases hsource
        rw [parseInput_eq_ok_iff.mpr hrun] at hparse
        cases hparse
        rfl

/-- The library parses the input of a run to its end:

- `prepared`: the run comes to its work;
- `opens`: its input is this source;
- `parses`: the parse of the source under these settings succeeds. -/
structure Completes (w : World) (i : Invocation) (input : String) (options : ParseOptions)
    (c : Config) (t : Table Events) (source : Text.Source) (summary : Summary)
    (e : Engine Events) : Prop where
  prepared : Prepared w i c t
  opens : openInput w input = .ok source
  parses : (start t options Events.empty).parseSource 0 source = some (.ok summary, e)

section Run

variable {config logLevel : Option String} {table input : String} {format : ReportFormat}
  {trace : Bool} {decoding : Option Decoding} {stdout : String}

/-- Where a parse completes, the run prints its report. The settings in `Completes` are those of
`runOptions`, and `options_of_loadConfig` says that the run uses the same. -/
theorem Completes.invoke_eq {document : Value} {source : Text.Source} {summary : Summary}
    {e : Engine Events} (hdocument : configDocument w config = .ok document)
    (h : Completes w ⟨config, logLevel, .run table input format trace decoding⟩ input
      (runOptions document decoding trace) c t source summary e) :
    (invoke w ⟨config, logLevel, .run table input format trace decoding⟩).code = 0 ∧
    (invoke w ⟨config, logLevel, .run table input format trace decoding⟩).stdout =
      runReport format e.data summary := by
  obtain ⟨filter, told, hinvoke⟩ := invoke_of_prepared h.prepared
  obtain ⟨document', hdocument', hoptions⟩ := options_of_loadConfig h.prepared.loads
  obtain rfl : document = document' := Except.ok.inj (hdocument.symm.trans hdocument')
  have hwork : (work w c t (.run table input format trace decoding)).2 =
      .ok (runReport format e.data summary) := by
    rw [work_run_eq_ok_iff]
    refine ⟨source, summary, e, h.opens, ?_, rfl⟩
    rw [hoptions trace]
    exact h.parses
  rw [hinvoke, hwork]
  exact ⟨rfl, rfl⟩

/-- A run exits well exactly if a parse completes. One direction is `Completes.invoke_eq`; for the
other, the run came to its work, and `work_run_eq_ok_iff` gives the parse. -/
theorem code_eq_zero_iff :
    (invoke w ⟨config, logLevel, .run table input format trace decoding⟩).code = 0 ↔
      ∃ document c t source summary e, configDocument w config = .ok document ∧
        Completes w ⟨config, logLevel, .run table input format trace decoding⟩ input
          (runOptions document decoding trace) c t source summary e := by
  constructor
  · intro hcode
    obtain ⟨c, t, hprepared⟩ := exists_prepared (by rw [hcode]; decide)
    obtain ⟨filter, told, hinvoke⟩ := invoke_of_prepared hprepared
    rw [hinvoke] at hcode
    rcases leave_code_cases c filter (told, _) with ⟨-, hwork⟩ | ⟨hone, -⟩
    · obtain ⟨source, summary, e, hopens, hparses, -⟩ := work_run_eq_ok_iff.mp hwork
      obtain ⟨document, hdocument, hoptions⟩ := options_of_loadConfig hprepared.loads
      rw [hoptions trace] at hparses
      exact ⟨document, c, t, source, summary, e, hdocument, hprepared, hopens, hparses⟩
    · rw [hone] at hcode
      cases hcode
  · rintro ⟨document, c, t, source, summary, e, hdocument, hcompletes⟩
    exact (hcompletes.invoke_eq hdocument).1

end Run

/-! ### A list of settings -/

/-- A world in which the settings of a parse are a list that forbids saved states at the end, and
the table saves one on every line. -/
def listWorld : World where
  file name :=
    let text := if name = "c.toml" then "parse = ['utf8', true]"
      else if name = "t.json" then "\x7b\"rules\":[\x7b\"state\":\"a\",\"action\":\"push\"\x7d]\x7d"
      else "x\n"
    .bytes (text.toList.map fun c => c.toNat.toUInt8)
  stdin := []

/-- A run with a decoding there. -/
def listWords : List String := ["run", "t.json", "in.txt", "--decoding", "utf8", "-c", "c.toml"]

/-- The definition there, which is the same as JSON and as YAML. -/
def savingTable : TableDefinition where
  initial := none
  validation := none
  rules := [⟨"a", none, none, none, some "push"⟩]

/-- The words of the example ask for a run with a configuration file and a decoding. -/
theorem ofWords_listWords : Wish.ofWords listWords =
    .ok (.invocation ⟨some "c.toml", none, .run "t.json" "in.txt" .text false (some .utf8)⟩) :=
  eq_ok_of_toOption (by decide +kernel)

/-- The configuration file of the example has its settings as a list: no saved states are allowed
at the end, and `listsOptions` is true. -/
theorem exists_document_listWorld : ∃ document,
    configDocument listWorld (some "c.toml") = .ok document ∧
      fileOptions document = ⟨.utf8, true, false⟩ ∧ listsOptions document = true := by
  have hdocument : (configDocument listWorld (some "c.toml")).toOption.map
      (fun document => (fileOptions document, listsOptions document)) =
        some (⟨.utf8, true, false⟩, true) := by decide +kernel
  obtain ⟨document, hread, hboth⟩ := Option.map_eq_some_iff.mp hdocument
  exact ⟨document, eq_ok_of_toOption hread, (Prod.mk.inj hboth).1, (Prod.mk.inj hboth).2⟩

/-- The table file of the example is read as `savingTable`. The readers of JSON and of YAML agree
on it, so the ending of its name need not be looked at. -/
theorem ofFile_listWorld :
    TableDefinition.ofFile "t.json" (listWorld.file "t.json") = .ok savingTable := by
  have htext : (listWorld.file "t.json").text =
      .ok "\x7b\"rules\":[\x7b\"state\":\"a\",\"action\":\"push\"\x7d]\x7d" :=
    eq_ok_of_toOption (by decide +kernel)
  rw [TableDefinition.ofFile, htext]
  dsimp only
  split
  · exact eq_ok_of_toOption (by decide +kernel)
  · exact eq_ok_of_toOption (by decide +kernel)

/-- The run of the example completes: one state is left on the stack. Under the settings of the
file alone it would fail, as they ask for an empty one. -/
theorem exists_completes_listWorld : ∃ document c t source summary e log,
    configDocument listWorld (some "c.toml") = .ok document ∧
      fileOptions document = ⟨.utf8, true, false⟩ ∧
      savingTable.build .strict = (.ok t, log) ∧ source = ⟨[0x78, 0x0A], none⟩ ∧
      summary = ⟨"a", 1, ["a"], none⟩ ∧ e.data = Events.empty ∧
      Completes listWorld ⟨some "c.toml", none, .run "t.json" "in.txt" .text false (some .utf8)⟩
        "in.txt" (runOptions document (some .utf8) false) c t source summary e := by
  obtain ⟨document, hdocument, hfile, hlists⟩ := exists_document_listWorld
  obtain ⟨t, log, hbuild⟩ : ∃ t log, savingTable.build .strict = (.ok t, log) := ⟨_, _, rfl⟩
  have hprepared : Prepared listWorld
      ⟨some "c.toml", none, .run "t.json" "in.txt" .text false (some .utf8)⟩
      ⟨.strict, ⟨.utf8, false, false⟩, ⟨"warn", none, none, .compact⟩⟩ t :=
    ⟨eq_ok_of_toOption (by decide +kernel), by decide +kernel, savingTable, log, ofFile_listWorld,
      hbuild⟩
  obtain ⟨e, hdata, hparse⟩ : ∃ e, e.data = Events.empty ∧
      (start t ⟨.utf8, false, false⟩ Events.empty).parseSource 0 ⟨[0x78, 0x0A], none⟩ =
        some (.ok ⟨"a", 1, ["a"], none⟩, e) := by
    cases hbuild
    exact ⟨_, rfl, rfl⟩
  refine ⟨document, _, t, _, _, e, log, hdocument, hfile, hbuild, rfl, rfl, hdata, hprepared,
    eq_ok_of_toOption (by decide +kernel), ?_⟩
  rw [runOptions, if_pos hlists]
  exact hparse

/-! ### Runs and checks -/

/-- A run is a parse by the library. Take any words that ask for a run, any files and any standard
input.

- The run exits well exactly if its configuration can be read, with all levels of its log, its
  table is read and built, its input is opened, and the parse of the input succeeds (`Completes`).
  The settings of the parse are those of the configuration file or else the defaults, under the
  options of the run (`runOptions`). A decoding among these options replaces a list of settings as
  a whole.
- Then it prints the report of this parse, in the format that is asked for.
- Otherwise it exits with one and prints nothing, whatever was recorded before.
- A check of the same table under the same configuration exits with one exactly if a run without a
  decoding does not come to its work. Such a run ends as the check does, whatever its input is. A
  run that comes to its work fails next at an input that cannot be opened. -/
theorem run_is_parse {w : World} {words : List String} {config logLevel : Option String}
    {table input : String} {format : ReportFormat} {trace : Bool} {decoding : Option Decoding}
    (h : Wish.ofWords words =
      .ok (.invocation ⟨config, logLevel, .run table input format trace decoding⟩)) :
    ((execute w words).code = 0 ↔
      ∃ document c t source summary e, configDocument w config = .ok document ∧
        Completes w ⟨config, logLevel, .run table input format trace decoding⟩ input
          (runOptions document decoding trace) c t source summary e) ∧
    (∀ document c t source summary e, configDocument w config = .ok document →
      Completes w ⟨config, logLevel, .run table input format trace decoding⟩ input
        (runOptions document decoding trace) c t source summary e →
      (execute w words).stdout = runReport format e.data summary) ∧
    ((execute w words).code ≠ 0 → (execute w words).code = 1 ∧ (execute w words).stdout = "") ∧
    ∀ (checking running : List String) (other : String) (otherFormat : ReportFormat)
      (otherTrace : Bool),
      Wish.ofWords checking = .ok (.invocation ⟨config, logLevel, .check table⟩) →
      Wish.ofWords running =
        .ok (.invocation ⟨config, logLevel, .run table other otherFormat otherTrace none⟩) →
      ((execute w checking).code = 1 ↔
        ∀ c t, ¬ Prepared w ⟨config, logLevel, .run table other otherFormat otherTrace none⟩ c t) ∧
      ((∀ c t, ¬ Prepared w ⟨config, logLevel, .run table other otherFormat otherTrace none⟩ c t) →
        execute w running = execute w checking) ∧
      ∀ c t message,
        Prepared w ⟨config, logLevel, .run table other otherFormat otherTrace none⟩ c t →
        openInput w other = .error message →
        (execute w running).failure = some s!"Failed to open {other}: {message}" := by
  have hexecute {words : List String} {i : Invocation}
      (hwords : Wish.ofWords words = .ok (.invocation i)) : execute w words = invoke w i := by
    rw [execute, hwords]
  rw [hexecute h]
  refine ⟨code_eq_zero_iff, ?_, ?_, ?_⟩
  · intro document c t source summary e hdocument hcompletes
    exact (hcompletes.invoke_eq hdocument).2
  · intro hcode
    exact (invoke_code_cases w _).resolve_left hcode
  · intro checking running other otherFormat otherTrace hchecking hrunning
    rw [hexecute hchecking, hexecute hrunning]
    -- Both commands begin alike.
    have hbegin (c : Config) (t : Table Events) :
        Prepared w ⟨config, logLevel, .check table⟩ c t ↔
          Prepared w ⟨config, logLevel, .run table other otherFormat otherTrace none⟩ c t :=
      ⟨fun hprepared => ⟨hprepared.loads, hprepared.levels, hprepared.builds⟩,
        fun hprepared => ⟨hprepared.loads, hprepared.levels, hprepared.builds⟩⟩
    refine ⟨?_, fun hnone => ?_, fun c t message hprepared hopen => ?_⟩
    · simp only [check_code_eq_one_iff, hbegin]
    · exact ((invoke_of_not_prepared hnone).2.2 (.check table) rfl rfl).symm
    · obtain ⟨filter, told, hinvoke⟩ := invoke_of_prepared hprepared
      rw [hinvoke, work, hopen]
      rfl

/-- The theorem in `listWorld`: the run there exits well, and a check of its table does, too. -/
theorem run_is_parse_listWorld :
    (execute listWorld listWords).code = 0 ∧
      (execute listWorld listWords).stdout = "final state: a\nlines: 1\nstack: a\n" ∧
      (execute listWorld ["check", "t.json", "-c", "c.toml"]).code ≠ 1 := by
  obtain ⟨document, c, t, source, summary, e, log, hdocument, hfile, hbuild, hsource, rfl, hdata,
    hcompletes⟩ := exists_completes_listWorld
  obtain ⟨hcode, hstdout, -, hcheck⟩ := run_is_parse (w := listWorld) ofWords_listWords
  refine ⟨hcode.mpr ⟨_, _, _, _, _, _, hdocument, hcompletes⟩, ?_, ?_⟩
  · rw [hstdout _ _ _ _ _ _ hdocument hcompletes, hdata]
    decide +kernel
  · obtain ⟨hchecking, -⟩ := hcheck ["check", "t.json", "-c", "c.toml"]
      ["run", "t.json", "in.txt", "-c", "c.toml"] "in.txt" .text false
      (eq_ok_of_toOption (by decide +kernel)) (eq_ok_of_toOption (by decide +kernel))
    rw [Ne, hchecking]
    intro hnone
    refine hnone ⟨.strict, ⟨.utf8, true, false⟩, ⟨"warn", none, none, .compact⟩⟩ t ?_
    exact ⟨eq_ok_of_toOption (by decide +kernel), by decide +kernel, savingTable, log,
      ofFile_listWorld, hbuild⟩

/-- The settings of a parse if a decoding changed one setting of a list only. -/
def optionsByKey (document : Value) (decoding : Option Decoding) (trace : Bool) : ParseOptions :=
  withTrace trace { fileOptions document with
    decoding := decoding.getD (fileOptions document).decoding }

/-- A decoding changes more than one setting, so `optionsByKey` are not the settings of a run. In
`listWorld` the file forbids saved states at the end, and one is left there, but the run exits
well. -/
theorem not_optionsByKey : ¬ ∀ (w : World) (words : List String) (config logLevel : Option String)
    (table input : String) (format : ReportFormat) (trace : Bool) (decoding : Option Decoding),
    Wish.ofWords words =
      .ok (.invocation ⟨config, logLevel, .run table input format trace decoding⟩) →
    ((execute w words).code = 0 ↔
      ∃ document c t source summary e, configDocument w config = .ok document ∧
        Completes w ⟨config, logLevel, .run table input format trace decoding⟩ input
          (optionsByKey document decoding trace) c t source summary e) := by
  intro hall
  obtain ⟨document, c, t, source, summary, e, log, hdocument, hfile, hbuild, rfl, -, -,
    hcompletes⟩ := exists_completes_listWorld
  have hcode : (execute listWorld listWords).code = 0 := by
    rw [execute, ofWords_listWords]
    exact (hcompletes.invoke_eq hdocument).1
  obtain ⟨document', c', t', source', summary', e', hdocument', hprepared', hopens', hparses'⟩ :=
    (hall listWorld listWords _ _ _ _ _ _ _ ofWords_listWords).mp hcode
  obtain rfl : document = document' := Except.ok.inj (hdocument.symm.trans hdocument')
  obtain ⟨-, rfl⟩ := hcompletes.prepared.unique hprepared'
  obtain rfl := Except.ok.inj (hcompletes.opens.symm.trans hopens')
  -- The same parse with the requirement of the file does not succeed.
  rw [optionsByKey, hfile] at hparses'
  cases hbuild
  cases hparses'

end LineMachine.CommandLine
