import WordArithmetic.Proofs.CommandOutcomes

namespace WordArithmetic

namespace Setting

variable {α : Type} {setting : Setting α} {entries : List Settings.Entry} {a : α}

def Unfiled (setting : Setting α) (entries : List Settings.Entry) : Prop :=
  ∀ entry ∈ entries, setting.ofEntry? entry = none

def FiledAs (setting : Setting α) (entries : List Settings.Entry) (a : α) : Prop :=
  ∃ before entry after, entries = before ++ entry :: after ∧ setting.ofEntry? entry = some a ∧
    setting.Unfiled after

/-- The value that an option asks for is in effect, or else that of the environment, or else that of
the file, or else the initial one. A value that cannot be used is like none. -/
inductive InEffect (setting : Setting α) (option? : Option α) (environment? : Option Text)
    (entries : List Settings.Entry) : α → Prop
  | option {a : α} : option? = some a → InEffect setting option? environment? entries a
  | environment {a : α} : option? = none → environment?.bind setting.read = some a →
    InEffect setting option? environment? entries a
  | file {a : α} : option? = none → environment?.bind setting.read = none →
    setting.FiledAs entries a → InEffect setting option? environment? entries a
  | initial : option? = none → environment?.bind setting.read = none → setting.Unfiled entries →
    InEffect setting option? environment? entries setting.initial

theorem unfiled_iff : setting.Unfiled entries ↔ setting.filed entries = [] :=
  List.filterMap_eq_nil_iff.symm

theorem filedAs_iff : setting.FiledAs entries a ↔ (setting.filed entries).getLast? = some a := by
  rw [List.getLast?_eq_some_iff]
  constructor
  · rintro ⟨before, entry, after, rfl, hentry, hafter⟩
    refine ⟨setting.filed before, ?_⟩
    have hnone : setting.filed after = [] := unfiled_iff.mp hafter
    simp only [filed] at hnone
    rw [filed, List.filterMap_append, List.filterMap_cons_some hentry, hnone]
    rfl
  · rintro ⟨values, hvalues⟩
    obtain ⟨before, rest, rfl, _, hrest⟩ := List.filterMap_eq_append_iff.mp hvalues
    obtain ⟨idle, entry, after, rfl, _, hentry, hafter⟩ := List.filterMap_eq_cons_iff.mp hrest
    refine ⟨before ++ idle, entry, after, by simp, hentry, ?_⟩
    exact List.filterMap_eq_nil_iff.mp hafter

/-- Exactly one value is in effect. -/
theorem inEffect_iff {option? : Option α} {environment? : Option Text} :
    setting.InEffect option? environment? entries a ↔
      setting.resolve option? environment? entries = a := by
  unfold resolve
  constructor
  · intro h
    cases h with
    | option ho => simp [ho]
    | environment ho he => simp [ho, he]
    | file ho he hf => simp [ho, he, filedAs_iff.mp hf]
    | initial ho he hu => simp [ho, he, unfiled_iff.mp hu]
  · rintro rfl
    cases ho : option? with
    | some a => exact .option rfl
    | none =>
      cases he : environment?.bind setting.read with
      | some a => exact .environment rfl he
      | none =>
        cases hf : (setting.filed entries).getLast? with
        | some a => exact .file rfl he (filedAs_iff.mpr hf)
        | none => exact .initial rfl he (unfiled_iff.mpr (List.getLast?_eq_none_iff.mp hf))

end Setting

namespace Settings

def Entry.Unusable (entry : Entry) : Prop :=
  Setting.separator.ofEntry? entry = none ∧ Setting.verbosity.ofEntry? entry = none

/-- Entries that only differ in some that cannot be used and in the order of those with different
keys. -/
inductive Rearranged : List Entry → List Entry → Prop
  | unusable (before after : List Entry) {entry : Entry} : entry.Unusable →
    Rearranged (before ++ after) (before ++ entry :: after)
  | reordered {entries entries' : List Entry} :
    (∀ key, entries.filter (·.key = key) = entries'.filter (·.key = key)) →
    Rearranged entries entries'
  | symm {entries entries' : List Entry} : Rearranged entries entries' →
    Rearranged entries' entries
  | trans {first second third : List Entry} : Rearranged first second → Rearranged second third →
    Rearranged first third

theorem Rearranged.swapped (before after : List Entry) {entry other : Entry}
    (h : entry.key ≠ other.key) :
    Rearranged (before ++ entry :: other :: after) (before ++ other :: entry :: after) := by
  refine .reordered ?_
  intro key
  simp only [List.filter_append, List.filter_cons, decide_eq_true_eq]
  by_cases hkey : entry.key = key
  · have hother : other.key ≠ key := fun hother => h (hkey.trans hother.symm)
    simp only [if_pos hkey, if_neg hother]
  · simp only [if_neg hkey]

theorem Rearranged.filed {α : Type} (setting : Setting α)
    (hsetting : ∀ entry : Entry, entry.Unusable → setting.ofEntry? entry = none)
    {entries entries' : List Entry} (h : Rearranged entries entries') :
    setting.filed entries = setting.filed entries' := by
  induction h with
  | unusable before after hentry =>
    simp only [Setting.filed, List.filterMap_append]
    rw [List.filterMap_cons_none (hsetting _ hentry)]
  | reordered hkeys =>
    have hother (entry : Entry) (hkey : decide (entry.key = setting.key) = false) :
        entry.key ≠ setting.key :=
      of_decide_eq_false hkey
    have hsame := congrArg setting.filed (hkeys setting.key)
    rwa [setting.filed_filter hother, setting.filed_filter hother] at hsame
  | symm _ ih => exact ih.symm
  | trans _ _ ih ih' => exact ih.trans ih'

theorem Rearranged.ofSources {entries entries' : List Entry} (h : Rearranged entries entries')
    (separator verbose : Option Text) :
    ofSources separator verbose entries = ofSources separator verbose entries' := by
  have hseparator := h.filed .separator fun _ hentry => hentry.1
  have hverbosity := h.filed .verbosity fun _ hentry => hentry.2
  simp only [ofSources_eq, Setting.resolve, hseparator, hverbosity]

end Settings

namespace CommandLine

theorem separator_inEffect_iff {environment : Environment} {ps : List Piece} {c : Char} :
    (settings environment (optionsOf ps)).separator = c ↔
      Setting.separator.InEffect (ps.filterMap Piece.separator?).getLast? environment.separator
        (Settings.entries environment.file) c := by
  simp only [Setting.inEffect_iff, settings, optionsOf_eq, Settings.ofSources_eq]
  rfl

theorem verbosity_inEffect_iff {environment : Environment} {ps : List Piece} {b : Bool} :
    (settings environment (optionsOf ps)).verbose = b ↔
      Setting.verbosity.InEffect (if .verbose ∈ ps then some true else none) environment.verbose
        (Settings.entries environment.file) b := by
  simp only [Setting.inEffect_iff, settings, optionsOf_eq, Settings.ofSources_eq]
  by_cases hverbose : .verbose ∈ ps
  · rw [if_pos hverbose, decide_eq_true hverbose]
    rfl
  · rw [if_neg hverbose, decide_eq_false hverbose]
    rfl

/-- An accepted command line is performed with the settings in effect. The options go before the
environment, the environment before the file and, in the file, later entries before earlier ones,
for each setting on its own. What cannot be used changes nothing, and neither does the order of
entries with different keys. -/
theorem settings_in_effect (environment : Environment) {arguments : List Text}
    (h : Accepted (pieces arguments)) :
    let ps := pieces arguments
    let entries := Settings.entries environment.file
    let s := settings environment (optionsOf ps)
    run environment arguments = perform environment.line s (optionsOf ps) ∧
      (∀ c, s.separator = c ↔
        Setting.separator.InEffect (ps.filterMap Piece.separator?).getLast? environment.separator
          entries c) ∧
      (∀ b, s.verbose = b ↔
        Setting.verbosity.InEffect (if .verbose ∈ ps then some true else none)
          environment.verbose entries b) ∧
      ∀ file, Settings.Rearranged entries (Settings.entries file) →
        run { environment with file } arguments = run environment arguments := by
  refine ⟨run_of_accepted environment h, fun _ => separator_inEffect_iff,
    fun _ => verbosity_inEffect_iff, ?_⟩
  intro file hfile
  rw [run_of_accepted _ h, run_of_accepted _ h]
  simp only [settings, hfile.ofSources]

/-- The separator of the environment cannot be used, so that of the file is in effect, but its
verbosity is switched off. A file with nothing else than the two entries that can be used does the
same. -/
theorem settings_of_unusable_environment :
    let arguments := ["--parse", "two thousand"].map String.toList
    let file := "separator=.\nverbose=yes\nseparator=xx\ncolour=1\n".toUTF8.data.toList
    let environment : Environment :=
      { separator := some "ab".toList, verbose := some "off".toList, file := file }
    let plain := "verbose=yes\nseparator = .\n".toUTF8.data.toList
    let s := settings environment (optionsOf (pieces arguments))
    Accepted (pieces arguments) ∧ s.separator = '.' ∧ s.verbose = false ∧
      Settings.Rearranged (Settings.entries file) (Settings.entries plain) ∧
      run { environment with file := plain } arguments = run environment arguments ∧
      (run environment arguments).output = "2.000\n".toList := by
  intro arguments file environment plain s
  have h : Accepted (pieces arguments) := accepted_of_readAll rfl
  have hfile : Settings.entries file = [⟨"separator".toList, ".".toList⟩,
      ⟨"verbose".toList, "yes".toList⟩, ⟨"separator".toList, "xx".toList⟩,
      ⟨"colour".toList, "1".toList⟩] := by
    decide +kernel
  have hplain : Settings.entries plain = [⟨"verbose".toList, "yes".toList⟩,
      ⟨"separator".toList, ".".toList⟩] := by
    decide +kernel
  have hrearranged : Settings.Rearranged (Settings.entries file) (Settings.entries plain) := by
    rw [hfile, hplain]
    have hvalue : Settings.Entry.Unusable ⟨"separator".toList, "xx".toList⟩ := ⟨rfl, rfl⟩
    have hkey : Settings.Entry.Unusable ⟨"colour".toList, "1".toList⟩ := ⟨rfl, rfl⟩
    exact (Settings.Rearranged.unusable [_, _] [_] hvalue).symm.trans
      ((Settings.Rearranged.unusable [_, _] [] hkey).symm.trans (.swapped [] [] (by decide)))
  obtain ⟨hrun, hseparator, hverbosity, hsame⟩ := settings_in_effect environment h
  have hdot : s.separator = '.' := by
    refine (hseparator '.').mpr (.file rfl rfl ?_)
    rw [hfile]
    exact ⟨[], _, _, rfl, rfl, by unfold Setting.Unfiled; decide⟩
  have hoff : s.verbose = false :=
    (hverbosity false).mpr (.environment rfl (by decide +kernel))
  refine ⟨h, hdot, hoff, hrearranged, hsame plain hrearranged, ?_⟩
  rw [hrun]
  decide +kernel

end CommandLine

end WordArithmetic
