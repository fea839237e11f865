import Mathlib.Data.List.Induction
import WordArithmetic.Settings

namespace WordArithmetic

/-- Dropping what a function makes nothing of leaves what it makes of the rest. -/
theorem filterMap_filter_of_none {α β : Type} {f : α → Option β} {p : α → Bool}
    (h : ∀ a, p a = false → f a = none) (l : List α) :
    (l.filter p).filterMap f = l.filterMap f := by
  rw [List.filterMap_filter]
  congr 1
  funext a
  cases hp : p a with
  | true => rfl
  | false => rw [h a hp]; rfl

/-- What an option, the environment or the file may set: the key that the file has for it, the
reading of its values and what holds where nothing sets it. -/
structure Setting (α : Type) where
  key : Text
  read : Text → Option α
  initial : α

namespace Setting

def separator : Setting Char :=
  ⟨"separator".toList, Settings.separator?, ','⟩

def verbosity : Setting Bool :=
  ⟨"verbose".toList, Settings.flag?, false⟩

variable {α : Type} (setting : Setting α)

def ofEntry? (entry : Settings.Entry) : Option α :=
  if entry.key = setting.key then setting.read entry.value else none

def filed (entries : List Settings.Entry) : List α :=
  entries.filterMap setting.ofEntry?

def resolve (option? : Option α) (environment? : Option Text) (entries : List Settings.Entry) : α :=
  option?.getD ((environment?.bind setting.read).getD
    ((setting.filed entries).getLast?.getD setting.initial))

theorem ofEntry?_of_key_eq {entry : Settings.Entry} (h : entry.key = setting.key) :
    setting.ofEntry? entry = setting.read entry.value :=
  if_pos h

theorem ofEntry?_of_key_ne {entry : Settings.Entry} (h : entry.key ≠ setting.key) :
    setting.ofEntry? entry = none :=
  if_neg h

/-- Entries with other keys do not matter. -/
theorem filed_filter {p : Settings.Entry → Bool}
    (h : ∀ entry, p entry = false → entry.key ≠ setting.key) (entries : List Settings.Entry) :
    setting.filed (entries.filter p) = setting.filed entries :=
  filterMap_filter_of_none (fun entry hp => setting.ofEntry?_of_key_ne (h entry hp)) entries

end Setting

namespace Settings

theorem adopt_eq (s : Settings) (entry : Entry) :
    s.adopt entry = ⟨(Setting.separator.ofEntry? entry).getD s.separator,
      (Setting.verbosity.ofEntry? entry).getD s.verbose⟩ := by
  rw [adopt]
  by_cases hs : entry.key = "separator".toList
  · have hv : entry.key ≠ Setting.verbosity.key := by
      rw [hs]
      decide
    rw [if_pos hs, Setting.separator.ofEntry?_of_key_eq hs, Setting.verbosity.ofEntry?_of_key_ne hv]
    rfl
  · rw [if_neg hs, Setting.separator.ofEntry?_of_key_ne hs]
    by_cases hv : entry.key = "verbose".toList
    · rw [if_pos hv, Setting.verbosity.ofEntry?_of_key_eq hv]
      rfl
    · rw [if_neg hv, Setting.verbosity.ofEntry?_of_key_ne hv]
      rfl

/-- The last entry that sets a setting wins, and entries that set nothing are passed over. -/
theorem foldl_adopt (s : Settings) (entries : List Entry) :
    entries.foldl adopt s = ⟨(Setting.separator.filed entries).getLast?.getD s.separator,
      (Setting.verbosity.filed entries).getLast?.getD s.verbose⟩ := by
  induction entries using List.reverseRecOn with
  | nil => rfl
  | append_singleton entries entry ih =>
    rw [List.foldl_append, ih, List.foldl_cons, List.foldl_nil, adopt_eq]
    simp only [Setting.filed, List.filterMap_append, List.getLast?_append]
    cases hs : Setting.separator.ofEntry? entry <;>
      cases hv : Setting.verbosity.ofEntry? entry <;> simp [hs, hv]

theorem ofSources_eq (separator verbose : Option Text) (entries : List Entry) :
    ofSources separator verbose entries =
      ⟨Setting.separator.resolve none separator entries,
        Setting.verbosity.resolve none verbose entries⟩ := by
  rw [ofSources, foldl_adopt]
  rfl

end Settings

end WordArithmetic
