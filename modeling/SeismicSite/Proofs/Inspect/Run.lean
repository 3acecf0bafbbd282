import SeismicSite.Main
import SeismicSite.Proofs.Document.Placement
/-!
# Runs, file by file

Every file adds something of its own to the report of a run: to the output, to the
log and to the count of failures. One step adds what the file at hand has
(`Report.add_eq`), so a run adds up what the files have that it takes
(`Report.addAll_eq`): all of them, unless it is strict and one of them fails. The
program reads its files in the same loop, and the run that notes what it looks up
shows which files are read.
-/

namespace SeismicSite.Inspect

/-! ## What a file has of its own -/

/-- The contents of a file that fails: it has no text, or its text is no document. -/
inductive Fails : Except Unreadable String → Prop
  | unreadable (reason : Unreadable) : Fails (.error reason)
  | rejected {text : String} {error : ReadError} (h : Document.parse text = .error error) :
      Fails (.ok text)

theorem fails_ok_iff {text : String} :
    Fails (.ok text) ↔ ∃ error, Document.parse text = .error error := by
  constructor
  · rintro (_ | h)
    exact ⟨_, h⟩
  · rintro ⟨error, h⟩
    exact .rejected h

/-- **A text with many sites fails if one of them does**, be it the last. -/
theorem fails_array_iff {text : String} {items : List Json}
    (h : Json.parse? text = some (.array items)) :
    Fails (.ok text) ↔ ∃ item ∈ items, ∃ error, Site.ofJson "$" item = .error error := by
  have hparse : (∃ error, Document.parse text = .error error) ↔
      ∃ error, Document.sites (.array items) = .error error := by
    simp only [Document.parse, h, mapError_eq_error]
    constructor
    · rintro ⟨_, error, herror, -⟩
      exact ⟨error, herror⟩
    · rintro ⟨error, herror⟩
      exact ⟨_, error, herror, rfl⟩
  simp only [fails_ok_iff, hparse, exists_error_iff, Document.exists_sites_array_iff, not_forall,
    exists_prop]

instance instDecidablePredFails : DecidablePred Fails
  | .error reason => .isTrue (.unreadable reason)
  | .ok text =>
    match h : Document.parse text with
    | .error _ => .isTrue (.rejected h)
    | .ok _ => .isFalse fun hfails => by
        obtain ⟨_, herror⟩ := fails_ok_iff.mp hfails
        rw [h] at herror
        cases herror

/-- What a file has printed: each of its sites in order, with a line feed behind it, and
nothing if it fails. -/
def ownOutput (json : Bool) : Except Unreadable String → String
  | .error _ => ""
  | .ok text =>
    match Document.parse text with
    | .error _ => ""
    | .ok sites =>
      String.join
        (sites.map fun site => (if json then site.toJson.pretty else site.summary) ++ "\n")

/-- A file that fails has nothing printed, be it for the last of its sites. -/
theorem ownOutput_of_fails {json : Bool} {content : Except Unreadable String} (h : Fails content) :
    ownOutput json content = "" := by
  rcases h with _ | h
  · rfl
  · rw [ownOutput, h]

/-- The event that ends the reading of a file. -/
def ending (file : String) : Except Unreadable String → Event
  | .error reason => .failed file (.unreadable reason)
  | .ok text =>
    match Document.parse text with
    | .error error => .failed file (.rejected error)
    | .ok sites => .valid file sites.length

/-- What a file has logged: its announcements and how its reading ended. -/
def ownEvents (file : String) (content : Except Unreadable String) : List Event :=
  announcements content ++ [ending file content]

/-- The number of files that fail; a file that is named twice counts twice. -/
def failures (files : FileSystem) (names : List String) : Nat :=
  names.countP fun file => Fails (files file)

/-- **A step adds what the file has of its own**, and stops a strict run if the file
fails. -/
theorem Report.add_eq (report : Report) (options : Options) (file : String)
    (content : Except Unreadable String) :
    report.add options file content =
      { output := report.output ++ ownOutput options.json content
        events := report.events ++ ownEvents file content
        failed := report.failed + if Fails content then 1 else 0
        stoppedAt :=
          if Fails content then if options.strict then some file else none
          else report.stoppedAt } := by
  cases content with
  | error reason =>
    have hfails : Fails (.error reason) := .unreadable reason
    simp [add, sitesOf, ownOutput, ownEvents, ending, hfails, Except.mapError, bind, Except.bind]
  | ok text =>
    cases hparse : Document.parse text with
    | error error =>
      have hfails : Fails (.ok text) := .rejected hparse
      simp [add, sitesOf, ownOutput, ownEvents, ending, hparse, hfails, Except.mapError, bind,
        Except.bind]
    | ok sites =>
      have hvalid : ¬ Fails (.ok text) := by simp [fails_ok_iff, hparse]
      simp [add, sitesOf, ownOutput, ownEvents, ending, hparse, hvalid, Except.mapError, bind,
        Except.bind]
      rfl

/-! ## What a run adds up -/

/-- The files that a run takes: all of them, or, if it is strict, those up to the first
that fails, and that one. -/
def taken (options : Options) (files : FileSystem) : List String → List String
  | [] => []
  | file :: rest =>
    file :: if options.strict ∧ Fails (files file) then [] else taken options files rest

variable {options : Options} {files : FileSystem}

/-- A run that is not strict takes all files. -/
theorem taken_of_lenient (h : options.strict = false) (names : List String) :
    taken options files names = names := by
  induction names with
  | nil => rfl
  | cons file rest ih => rw [taken, h, if_neg (by simp), ih]

/-- So does a run none of whose files fails. -/
theorem taken_of_valid {names : List String} (h : ∀ file ∈ names, ¬ Fails (files file)) :
    taken options files names = names := by
  induction names with
  | nil => rfl
  | cons file rest ih =>
    obtain ⟨hfile, hrest⟩ := List.forall_mem_cons.mp h
    rw [taken, if_neg fun hstop => hfile hstop.2, ih hrest]

/-- **A strict run takes no file behind the first that fails.** -/
theorem taken_append_cons (hstrict : options.strict = true) {before after : List String}
    {file : String} (hbefore : ∀ earlier ∈ before, ¬ Fails (files earlier))
    (hfile : Fails (files file)) :
    taken options files (before ++ file :: after) = before ++ [file] := by
  induction before with
  | nil => rw [List.nil_append, taken, if_pos ⟨hstrict, hfile⟩, List.nil_append]
  | cons earlier before ih =>
    obtain ⟨hearlier, hrest⟩ := List.forall_mem_cons.mp hbefore
    rw [List.cons_append, taken, if_neg fun hstop => hearlier hstop.2, ih hrest, List.cons_append]

/-- The file that ends a run: the first that fails, if the run is strict. -/
def stopping (options : Options) (files : FileSystem) (names : List String) : Option String :=
  if options.strict then names.find? fun file => Fails (files file) else none

/-- A file that does not end a run leaves that to those behind it. -/
theorem stopping_cons {file : String} (hstop : ¬ (options.strict = true ∧ Fails (files file)))
    (rest : List String) : stopping options files (file :: rest) = stopping options files rest := by
  rw [stopping, stopping]
  by_cases hstrict : options.strict = true
  · have hvalid : ¬ Fails (files file) := fun hfile => hstop ⟨hstrict, hfile⟩
    simp [hstrict, hvalid]
  · simp [hstrict]

/-- A run goes on behind a file that does not end it. -/
theorem stoppedAt_add {report : Report} {file : String} (hgoes : report.stoppedAt = none)
    (hstop : ¬ (options.strict = true ∧ Fails (files file))) :
    (report.add options file (files file)).stoppedAt = none := by
  rw [Report.add_eq]
  by_cases hfile : Fails (files file)
  · have hlenient : options.strict = false := by simpa [hfile] using hstop
    simp [hlenient, hgoes]
  · simp [hfile, hgoes]

/-- **A run adds up what its files have of their own**, as far as it takes them. -/
theorem Report.addAll_eq {report : Report} (hgoes : report.stoppedAt = none)
    (names : List String) :
    report.addAll options files names =
      { output := report.output ++ String.join
          ((taken options files names).map fun file => ownOutput options.json (files file))
        events := report.events ++
          (taken options files names).flatMap fun file => ownEvents file (files file)
        failed := report.failed + failures files (taken options files names)
        stoppedAt := stopping options files names } := by
  induction names generalizing report with
  | nil =>
    obtain ⟨output, events, failed, stoppedAt⟩ := report
    obtain rfl := hgoes
    simp [addAll_nil, taken, stopping, failures]
  | cons file rest ih =>
    rw [addAll_cons, taken]
    by_cases hstop : options.strict ∧ Fails (files file)
    · -- the run ends here, with what this file adds
      simp [add_eq, hstop, stopping, failures]
    · have hnext := stoppedAt_add hgoes hstop
      simp only [hnext, Option.isSome_none, Bool.false_eq_true, if_false, if_neg hstop, ih hnext,
        stopping_cons hstop]
      simp only [add_eq, failures, List.map_cons, List.flatMap_cons, List.countP_cons,
        String.join_cons, String.append_assoc, List.append_assoc, decide_eq_true_eq, Nat.add_assoc,
        Nat.add_comm (List.countP _ _)]

/-! ## The files that are read -/

/-- Looks a file up and notes its name behind those noted before. -/
def noting (files : FileSystem) (file : String) :
    StateM (List String) (Except Unreadable String) := do
  modify fun seen => seen ++ [file]
  return files file

/-- **A run reads the files that it takes**, in order, and no others. -/
theorem run_addAllBy_noting {report : Report} (hgoes : report.stoppedAt = none)
    (names seen : List String) :
    (report.addAllBy (noting files) options names).run seen =
      (report.addAll options files names, seen ++ taken options files names) := by
  induction names generalizing report seen with
  | nil => simp [Report.addAllBy, Report.addAll_nil, taken]; rfl
  | cons file rest ih =>
    -- one step of the noting run is a step of the run and one more name
    have hstep : (report.addAllBy (noting files) options (file :: rest)).run seen =
        if (report.add options file (files file)).stoppedAt.isSome
        then (report.add options file (files file), seen ++ [file])
        else ((report.add options file (files file)).addAllBy (noting files) options rest).run
          (seen ++ [file]) := by
      rw [Report.addAllBy]
      change (if (report.add options file (files file)).stoppedAt.isSome then pure _
        else Report.addAllBy _ _ _ _ : StateM (List String) Report).run (seen ++ [file]) = _
      split <;> rfl
    rw [hstep, Report.addAll_cons, taken]
    by_cases hstop : options.strict ∧ Fails (files file)
    · simp [Report.add_eq, hstop]
    · have hnext : (report.add options file (files file)).stoppedAt = none :=
        stoppedAt_add hgoes hstop
      simp only [hnext, Option.isSome_none, Bool.false_eq_true, if_false, if_neg hstop, ih hnext,
        List.append_assoc, List.singleton_append]

/-! ## How a run ends -/

/-- How the inspection ends that the options ask for. -/
def outcomeOf (options : Options) (files : FileSystem) : Outcome :=
  (inspect options files).outcome options

/-- A command line that asks for an inspection ends as that does. -/
theorem run_eq_outcomeOf {arguments : List String}
    (h : Command.ofArguments? arguments = some (.inspect options)) (files : FileSystem) :
    run arguments files = outcomeOf options files := by
  rw [run, h]
  rfl

/-- What a whole run adds up. -/
theorem inspect_eq (options : Options) (files : FileSystem) :
    inspect options files =
      { output := String.join
          ((taken options files options.files).map fun file => ownOutput options.json (files file))
        events :=
          (taken options files options.files).flatMap fun file => ownEvents file (files file)
        failed := failures files (taken options files options.files)
        stoppedAt := stopping options files options.files } := by
  rw [inspect, Report.addAll_eq rfl]
  simp

/-- What is printed does not depend on how the run ends. -/
theorem Report.output_outcome (report : Report) (options : Options) :
    (report.outcome options).output = report.output := by
  rw [outcome]
  split
  · rfl
  · split <;> rfl

/-- A run that is not stopped tells at its end how many files failed, if any did. -/
theorem Report.outcome_of_goes {report : Report} (hgoes : report.stoppedAt = none)
    (options : Options) :
    report.outcome options =
      { exit := if report.failed = 0 then 0 else 1
        output := report.output
        log := logLines options.detail (report.events ++
          if report.failed = 0 then [] else [.someFailed report.failed options.files.length])
        failure :=
          if report.failed = 0 then none
          else some (toString report.failed ++ " of " ++ toString options.files.length
            ++ " documents failed validation") } := by
  rw [outcome, hgoes]
  by_cases hfailed : report.failed = 0 <;> simp [hfailed]

/-- A run prints what the files that it takes have printed. -/
theorem output_outcomeOf (options : Options) (files : FileSystem) :
    (outcomeOf options files).output = String.join
      ((taken options files options.files).map fun file => ownOutput options.json (files file)) := by
  rw [outcomeOf, Report.output_outcome, inspect_eq]

theorem output_outcomeOf_of_lenient (hlenient : options.strict = false) :
    (outcomeOf options files).output =
      String.join (options.files.map fun file => ownOutput options.json (files file)) := by
  rw [output_outcomeOf, taken_of_lenient hlenient]

/-- A strict run prints what the files before the first that fails have printed, for that
one has nothing printed. -/
theorem output_outcomeOf_of_strict (hstrict : options.strict = true) {before after : List String}
    {file : String} (hfiles : options.files = before ++ file :: after)
    (hbefore : ∀ earlier ∈ before, ¬ Fails (files earlier)) (hfile : Fails (files file)) :
    (outcomeOf options files).output =
      String.join (before.map fun file => ownOutput options.json (files file)) := by
  rw [output_outcomeOf, hfiles, taken_append_cons hstrict hbefore hfile, List.map_append,
    String.join_append, List.map_singleton, String.join_cons, String.join_nil,
    ownOutput_of_fails hfile, String.append_empty, String.append_empty]

/-- **A run ends well exactly if no file fails**, be it strict or not. -/
theorem exit_outcomeOf (options : Options) (files : FileSystem) :
    (outcomeOf options files).exit =
      if ∀ file ∈ options.files, ¬ Fails (files file) then 0 else 1 := by
  rw [outcomeOf, inspect_eq, Report.outcome]
  by_cases hvalid : ∀ file ∈ options.files, ¬ Fails (files file)
  · have hfind : options.files.find? (fun file => Fails (files file)) = none := by
      simpa using hvalid
    have hcount : failures files options.files = 0 := by
      simpa [failures] using hvalid
    rw [if_pos hvalid]
    simp [taken_of_valid hvalid, stopping, hfind, hcount]
  · obtain ⟨file, hfile, hfails⟩ : ∃ file ∈ options.files, Fails (files file) := by
      simpa using hvalid
    rw [if_neg hvalid]
    by_cases hstrict : options.strict = true
    · obtain ⟨found, hfound⟩ : ∃ found, options.files.find? (fun file => Fails (files file)) =
          some found := by
        rw [← Option.isSome_iff_exists, List.find?_isSome]
        exact ⟨file, hfile, by simpa using hfails⟩
      simp [stopping, hstrict, hfound]
    · have hcount : failures files options.files ≠ 0 := by
        simpa [failures] using ⟨file, hfile, hfails⟩
      simp [stopping, hstrict, taken_of_lenient, hcount]

/-- **A run that is not strict treats every file on its own.** Its output and its log are
those of its files one after the other, and every file is read, also behind one that
fails. A file that fails prints nothing, be it for the last of its sites. The run ends
well exactly if no file fails, and else tells at its end how many did. -/
theorem lenient_run_treats_files_alone (options : Options) (files : FileSystem)
    (hlenient : options.strict = false) :
    (∀ arguments, Command.ofArguments? arguments = some (.inspect options) →
        run arguments files = outcomeOf options files) ∧
      (outcomeOf options files).output =
        String.join (options.files.map fun file => ownOutput options.json (files file)) ∧
      (∀ content, Fails content → ownOutput options.json content = "") ∧
      (∀ text items, Json.parse? text = some (.array items) →
        (Fails (.ok text) ↔ ∃ item ∈ items, ∃ error, Site.ofJson "$" item = .error error)) ∧
      (({} : Report).addAllBy (noting files) options options.files).run [] =
        (inspect options files, options.files) ∧
      ((outcomeOf options files).exit = 0 ↔ ∀ file ∈ options.files, ¬ Fails (files file)) ∧
      (outcomeOf options files).log = logLines options.detail
        (options.files.flatMap (fun file => ownEvents file (files file)) ++
          if failures files options.files = 0 then []
          else [.someFailed (failures files options.files) options.files.length]) ∧
      (outcomeOf options files).failure =
        if failures files options.files = 0 then none
        else some (toString (failures files options.files) ++ " of "
          ++ toString options.files.length ++ " documents failed validation") := by
  have htaken := @taken_of_lenient options files hlenient
  have hgoes : (inspect options files).stoppedAt = none := by
    rw [inspect_eq, stopping, hlenient]
    rfl
  refine ⟨fun arguments h => run_eq_outcomeOf h files, output_outcomeOf_of_lenient hlenient,
    fun content => ownOutput_of_fails, fun text items => fails_array_iff, ?_, ?_, ?_, ?_⟩
  · rw [run_addAllBy_noting rfl, htaken, inspect, List.nil_append]
  · rw [exit_outcomeOf]
    split <;> simp_all
  · rw [outcomeOf, Report.outcome_of_goes hgoes, inspect_eq, htaken]
  · rw [outcomeOf, Report.outcome_of_goes hgoes, inspect_eq, htaken]

/-- A file with one site and a file with two, the second of which has no code. -/
def twoFiles : FileSystem
  | "site.json" => .ok "\x7b\"station_code\": \"SFRU\"\x7d"
  | "half.json" => .ok "[\x7b\"station_code\": \"SENGL\"\x7d, \x7b\x7d]"
  | _ => .error .notFound

theorem fails_half : Fails (twoFiles "half.json") := by
  decide +kernel

theorem not_fails_site : ¬ Fails (twoFiles "site.json") := by
  decide +kernel

/-- The failing file is named before and behind the other. -/
def halfTwice : Options :=
  ⟨["half.json", "site.json", "half.json"], false, false, Level.info.rank⟩

theorem lenient_run_treats_files_alone_halfTwice :
    halfTwice.strict = false ∧
      Command.ofArguments? halfTwice.files = some (.inspect halfTwice) ∧
      (run halfTwice.files twoFiles).output = "Station SFRU\n" ∧
      (run halfTwice.files twoFiles).exit ≠ 0 ∧
      (run halfTwice.files twoFiles).failure = some "2 of 3 documents failed validation" := by
  have harguments : Command.ofArguments? halfTwice.files = some (.inspect halfTwice) := rfl
  obtain ⟨hrun, houtput, -, -, -, hexit, -, hfailure⟩ :=
    lenient_run_treats_files_alone halfTwice twoFiles rfl
  have hcount : failures twoFiles halfTwice.files = 2 := by
    simp [failures, halfTwice, fails_half, not_fails_site]
  refine ⟨rfl, harguments, ?_, ?_, ?_⟩
  · rw [hrun _ harguments, houtput]
    decide +kernel
  · rw [hrun _ harguments, ne_eq, hexit]
    exact fun hvalid => hvalid _ List.mem_cons_self fails_half
  · rw [hrun _ harguments, hfailure, hcount]
    decide

end SeismicSite.Inspect
