import SeismicSite.Proofs.Inspect.Run
/-!
# Strict runs

A strict run is a run cut short: up to the first file that fails the two do the same,
and behind it a strict run does nothing more. `--strict` changes nothing else in what
a command line asks for (`ofArguments?_strict`), so the same files are inspected in
the same form with it and without.
-/

namespace SeismicSite.Inspect

/-! ## Asking for a strict run -/

namespace Tally

/-- The arguments met so far, and a request to be strict. -/
def strictly (tally : Tally) : Tally :=
  { tally with strict := true }

/-- Arguments that do not ask to be strict are taken in the same way whether or not that
was asked for before. -/
def Indifferent (take : Tally → Except Halt Tally) : Prop :=
  ∀ tally next, take tally = .ok next → next.strict = false →
    tally.strict = false ∧ take tally.strictly = .ok next.strictly

/-- No arguments at all. -/
theorem indifferent_ok : Indifferent .ok := by
  intro tally next h hnext
  obtain rfl := Except.ok.inj h
  exact ⟨hnext, rfl⟩

/-- One after the other. -/
theorem Indifferent.bind {first second : Tally → Except Halt Tally} (hfirst : Indifferent first)
    (hsecond : Indifferent second) : Indifferent fun tally => first tally >>= second := by
  intro tally next h hnext
  obtain ⟨middle, hmiddle, h⟩ := bind_eq_ok.mp h
  obtain ⟨hlenient, hrest⟩ := hsecond middle next h hnext
  obtain ⟨hstart, hsame⟩ := hfirst tally middle hmiddle hlenient
  exact ⟨hstart, bind_eq_ok.mpr ⟨_, hsame, hrest⟩⟩

theorem indifferent_addFile (name : String) : Indifferent fun tally => tally.addFile name := by
  intro tally next h hnext
  unfold addFile at h ⊢
  split at h
  · cases h
  · rename_i hname
    obtain rfl := Except.ok.inj h
    exact ⟨hnext, if_neg hname⟩

theorem indifferent_addFiles (names : List String) :
    Indifferent fun tally => tally.addFiles names := by
  induction names with
  | nil => exact indifferent_ok
  | cons name names ih => exact (indifferent_addFile name).bind ih

/-- Of all switches only `--strict` is not taken in the same way, and what it leaves is
strict. -/
theorem indifferent_flip (switch : Switch) : Indifferent fun tally => tally.flip switch := by
  intro tally next h hnext
  cases switch with
  | json =>
    simp only [flip] at h ⊢
    split at h
    · cases h
    · rename_i hjson
      obtain rfl := Except.ok.inj h
      exact ⟨hnext, if_neg hjson⟩
  | strict =>
    simp only [flip] at h
    split at h
    · cases h
    · obtain rfl := Except.ok.inj h
      cases hnext
  | verbose | quiet =>
    obtain rfl := Except.ok.inj h
    exact ⟨hnext, rfl⟩
  | version | help => cases h

theorem indifferent_addSwitch (switch : Option Switch) :
    Indifferent fun tally => tally.addSwitch switch := by
  cases switch with
  | none =>
    intro tally next h
    cases h
  | some switch => exact indifferent_flip switch

theorem indifferent_addLetters (letters : List Char) :
    Indifferent fun tally => tally.addLetters letters := by
  induction letters with
  | nil => exact indifferent_ok
  | cons letter letters ih => exact (indifferent_addSwitch (Switch.ofLetter? letter)).bind ih

theorem indifferent_addOne (argument : String) :
    Indifferent fun tally => tally.addOne argument := by
  unfold addOne
  split
  · exact indifferent_addSwitch (Switch.ofLong? argument)
  · exact indifferent_addLetters _
  · exact indifferent_addFile argument

/-- **All arguments but `--strict` itself** are taken in the same way. -/
theorem indifferent_addAll (arguments : List String) :
    Indifferent fun tally => tally.addAll arguments := by
  induction arguments with
  | nil => exact indifferent_ok
  | cons argument arguments ih =>
    by_cases hend : argument = "--"
    · subst hend
      exact indifferent_addFiles arguments
    · simp only [addAll]
      exact (indifferent_addOne argument).bind ih

end Tally

/-- **`--strict` in front of a command line** asks for the same inspection, but a strict
one. -/
theorem ofArguments?_strict {arguments : List String} {options : Options}
    (h : Command.ofArguments? arguments = some (.inspect options))
    (hlenient : options.strict = false) :
    Command.ofArguments? ("--strict" :: arguments) =
      some (.inspect { options with strict := true }) := by
  unfold Command.ofArguments? at h ⊢
  split at h
  · rename_i tally htally
    obtain ⟨asked, hasked, hsame⟩ := Option.map_eq_some_iff.mp h
    obtain rfl := Command.inspect.inj hsame
    unfold Tally.toOptions? at hasked
    split at hasked
    · cases hasked
    · rename_i hvalid
      obtain rfl := Option.some.inj hasked
      -- `--strict` makes the first tally strict, and every later one is that of before, strict
      have hfirst : ({} : Tally).addAll ("--strict" :: arguments) =
          ({} : Tally).strictly.addAll arguments := rfl
      obtain ⟨-, hstrict⟩ := Tally.indifferent_addAll arguments {} tally htally hlenient
      rw [hfirst]
      simp only at hstrict
      rw [hstrict]
      exact congrArg (Option.map Command.inspect) (if_neg hvalid)
  all_goals cases h

/-! ## Cutting a run short -/

/-- **A strict run is the run cut short at the first file that fails.** If no file fails,
the two print the same and end well. Else the strict run reads the files up to the first
that fails and no others, and prints what the run on the files before that one prints,
which is how the output of the run that is not strict begins. The two end with the same
status in any case. -/
theorem strict_run_cut_short (options : Options) (files : FileSystem)
    (hlenient : options.strict = false) :
    (∀ arguments, Command.ofArguments? arguments = some (.inspect options) →
        run arguments files = outcomeOf options files ∧
          run ("--strict" :: arguments) files = outcomeOf { options with strict := true } files) ∧
      ((∀ file ∈ options.files, ¬ Fails (files file)) →
        (outcomeOf { options with strict := true } files).output =
            (outcomeOf options files).output ∧
          (outcomeOf { options with strict := true } files).exit = 0 ∧
          (outcomeOf options files).exit = 0) ∧
      (∀ before file after, options.files = before ++ file :: after →
        (∀ earlier ∈ before, ¬ Fails (files earlier)) → Fails (files file) →
          (({} : Report).addAllBy (noting files) { options with strict := true }
              options.files).run [] =
              (inspect { options with strict := true } files, before ++ [file]) ∧
            (outcomeOf { options with strict := true } files).output =
              (outcomeOf { options with files := before } files).output ∧
            (∃ rest, (outcomeOf options files).output =
              (outcomeOf { options with strict := true } files).output ++ rest) ∧
            (outcomeOf { options with strict := true } files).exit ≠ 0 ∧
            (outcomeOf options files).exit ≠ 0) ∧
      (outcomeOf { options with strict := true } files).exit = (outcomeOf options files).exit := by
  refine ⟨fun arguments h => ⟨run_eq_outcomeOf h files,
    run_eq_outcomeOf (ofArguments?_strict h hlenient) files⟩, fun hvalid => ⟨?_, ?_, ?_⟩, ?_, ?_⟩
  · rw [output_outcomeOf, taken_of_valid hvalid, output_outcomeOf_of_lenient hlenient]
  · rw [exit_outcomeOf, if_pos hvalid]
  · rw [exit_outcomeOf, if_pos hvalid]
  · intro before file after hsplit hbefore hfile
    have htaken : taken { options with strict := true } files options.files = before ++ [file] := by
      rw [hsplit]
      exact taken_append_cons rfl hbefore hfile
    have hstrict : (outcomeOf { options with strict := true } files).output =
        String.join (before.map fun file => ownOutput options.json (files file)) :=
      output_outcomeOf_of_strict rfl hsplit hbefore hfile
    have hfails : ¬ ∀ file ∈ options.files, ¬ Fails (files file) := fun hvalid =>
      hvalid file (hsplit ▸ List.mem_append_right _ List.mem_cons_self) hfile
    refine ⟨?_, ?_, ?_, ?_, ?_⟩
    · rw [run_addAllBy_noting rfl, htaken, inspect, List.nil_append]
    · rw [hstrict]
      exact (@output_outcomeOf_of_lenient { options with files := before } files hlenient).symm
    · rw [hstrict, output_outcomeOf_of_lenient hlenient, hsplit, List.map_append,
        String.join_append]
      exact ⟨_, rfl⟩
    · rw [exit_outcomeOf, if_neg hfails]
      exact Nat.one_ne_zero
    · rw [exit_outcomeOf, if_neg hfails]
      exact Nat.one_ne_zero
  · rw [exit_outcomeOf, exit_outcomeOf]

/-- The second of three files fails. -/
def halfBetween : Options :=
  ⟨["site.json", "half.json", "site.json"], false, false, Level.info.rank⟩

/-- The third file is not read, and what the first prints is printed once. -/
theorem strict_run_cut_short_halfBetween :
    halfBetween.strict = false ∧
      Command.ofArguments? halfBetween.files = some (.inspect halfBetween) ∧
      (run ("--strict" :: halfBetween.files) twoFiles).output = "Station SFRU\n" ∧
      (run ("--strict" :: halfBetween.files) twoFiles).exit ≠ 0 ∧
      (({} : Report).addAllBy (noting twoFiles) { halfBetween with strict := true }
        halfBetween.files).run [] =
          (inspect { halfBetween with strict := true } twoFiles, ["site.json", "half.json"]) := by
  have harguments : Command.ofArguments? halfBetween.files = some (.inspect halfBetween) := rfl
  obtain ⟨hrun, -, hcut, -⟩ := strict_run_cut_short halfBetween twoFiles rfl
  obtain ⟨hread, houtput, -, hexit, -⟩ := hcut ["site.json"] "half.json" ["site.json"] rfl
    (List.forall_mem_singleton.mpr not_fails_site) fails_half
  rw [(hrun _ harguments).2]
  refine ⟨rfl, harguments, ?_, ?_, ?_⟩
  · rw [houtput,
      @output_outcomeOf_of_lenient { halfBetween with files := ["site.json"] } twoFiles rfl]
    decide +kernel
  · exact hexit
  · exact hread

end SeismicSite.Inspect
