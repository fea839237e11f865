import WordArithmetic.Proofs.EncodedText
import WordArithmetic.Proofs.TrimmedText

namespace WordArithmetic.Settings

def IsPadding (pad : Text) : Prop :=
  ∀ c ∈ pad, Text.isBlank c = true ∧ c ≠ '\n'

/-- A text on one line, with no blank at either end. -/
structure IsField (t : Text) : Prop where
  first : t.head?.any Text.isBlank = false
  last : t.getLast?.any Text.isBlank = false
  unbroken : '\n' ∉ t

structure Entry.IsWritable (entry : Entry) : Prop where
  key : IsField entry.key
  value : IsField entry.value
  unsplit : '=' ∉ entry.key
  uncommented : entry.key.head? ≠ some '#'

/-- A line without its end, and the entry that it states if it states one. -/
inductive IsLine : Text → Option Entry → Prop
  | entry {e : Entry} {indent before after tail : Text} : e.IsWritable → IsPadding indent →
    IsPadding before → IsPadding after → IsPadding tail →
    IsLine (indent ++ e.key ++ before ++ '=' :: (after ++ e.value ++ tail)) (some e)
  | blank {pad : Text} : IsPadding pad → IsLine pad none
  | comment {indent rest : Text} : IsPadding indent → '\n' ∉ rest →
    IsLine (indent ++ '#' :: rest) none
  | idle {text : Text} : '=' ∉ text → '\n' ∉ text → IsLine text none

inductive IsLineEnd : List UInt8 → Prop
  | feed : IsLineEnd [10]
  | returnFeed : IsLineEnd [13, 10]

inductive Lines : List UInt8 → List Entry → Prop
  | nil : Lines [] []
  | cons {text : Text} {stated : Option Entry} {ending bytes : List UInt8} {es : List Entry} :
    IsLine text stated → IsLineEnd ending → Lines bytes es →
    Lines (text.encode ++ ending ++ bytes) (stated.toList ++ es)

/-- A settings file, whose last line needs no end, and the entries that it states, in order. -/
inductive Written : List UInt8 → List Entry → Prop
  | ended {bytes : List UInt8} {es : List Entry} : Lines bytes es → Written bytes es
  | unended {text : Text} {stated : Option Entry} {bytes : List UInt8} {es : List Entry} :
    Lines bytes es → IsLine text stated → Written (bytes ++ text.encode) (es ++ stated.toList)

structure IsMalformed (line : List UInt8) : Prop where
  unbroken : 10 ∉ line
  noText : ∀ t : Text, t.encode ≠ line

variable {text : Text} {stated : Option Entry}

theorem IsPadding.blank {pad : Text} (h : IsPadding pad) : ∀ c ∈ pad, Text.isBlank c = true :=
  fun c hc => (h c hc).1

theorem IsPadding.unbroken {pad : Text} (h : IsPadding pad) : '\n' ∉ pad :=
  fun hc => (h _ hc).2 rfl

theorem IsPadding.notMem {pad : Text} {c : Char} (h : IsPadding pad)
    (hc : Text.isBlank c = false) : c ∉ pad := by
  intro hmem
  have := (h c hmem).1
  simp [hc] at this

theorem IsPadding.append_return {pad : Text} (h : IsPadding pad) : IsPadding (pad ++ ['\r']) := by
  intro c hc
  rcases List.mem_append.mp hc with hc | hc
  · exact h c hc
  · rw [List.mem_singleton.mp hc]
    decide

theorem isPadding_nil : IsPadding [] :=
  List.forall_mem_nil _

/-- Padding around a field is what is trimmed from it. -/
theorem IsField.trim_padded {field x y : Text} (h : IsField field) (hx : IsPadding x)
    (hy : IsPadding y) : Text.trim (x ++ field ++ y) = field :=
  Text.trim_between hx.blank hy.blank h.first h.last

/-- The carriage return before a line feed is padding. -/
theorem IsLine.append_return (h : IsLine text stated) : IsLine (text ++ ['\r']) stated := by
  cases h with
  | entry he hindent hbefore hafter htail =>
    simpa using IsLine.entry he hindent hbefore hafter htail.append_return
  | blank hpad => exact .blank hpad.append_return
  | @comment indent rest hindent hrest =>
    have hreturn : '\n' ∉ rest ++ ['\r'] := by simp [hrest]
    simpa using IsLine.comment hindent hreturn
  | idle hsplit hbroken => exact .idle (by simp [hsplit]) (by simp [hbroken])

theorem IsLine.unbroken (h : IsLine text stated) : '\n' ∉ text := by
  cases h with
  | entry he hindent hbefore hafter htail =>
    simp [hindent.unbroken, he.key.unbroken, hbefore.unbroken, hafter.unbroken,
      he.value.unbroken, htail.unbroken]
  | blank hpad => exact hpad.unbroken
  | comment hindent hrest => simp [hindent.unbroken, hrest]
  | idle hsplit hbroken => exact hbroken

/-- A line is split at its first equals sign, unless a number sign comes first of all. -/
theorem Entry.ofLine_of_split {x y : Text} (hx : '=' ∉ x)
    (hcomment : (Text.trim x).head? ≠ some '#') :
    Entry.ofLine? (x ++ '=' :: y) = some ⟨Text.trim x, Text.trim y⟩ := by
  have htrim := Text.trim_append_cons x y (show Text.isBlank '=' = false by decide)
  have hstart : ∀ c ∈ x.dropWhile Text.isBlank, decide (c ≠ '=') = true := by
    intro c hc
    have hmem : c ∈ x := (List.dropWhile_sublist Text.isBlank).subset hc
    rw [decide_eq_true_eq]
    rintro rfl
    exact hx hmem
  -- The line begins as `x` does unless that is blank, and then it begins with the equals sign.
  have hhead : (Text.trim (x ++ '=' :: y)).head? ≠ some '#' := by
    rw [htrim]
    cases hd : x.dropWhile Text.isBlank with
    | nil => simp
    | cons c rest =>
      rintro ⟨⟩
      have hx := Text.trim_append_cons [] rest (show Text.isBlank '#' = false by decide)
      rw [List.nil_append, ← hd, Text.trim_dropWhile] at hx
      exact hcomment (by rw [hx]; rfl)
  rw [Entry.ofLine?]
  simp only [if_neg hhead]
  rw [if_pos (by simp [htrim]), htrim, List.takeWhile_append_of_pos hstart,
    List.dropWhile_append_of_pos hstart]
  simp [Text.trim_dropWhile, Text.trim_rdropWhile]

theorem Entry.ofLine_of_comment {indent : Text} (rest : Text)
    (hindent : ∀ c ∈ indent, Text.isBlank c = true) :
    Entry.ofLine? (indent ++ '#' :: rest) = none := by
  have htrim := Text.trim_append_cons [] rest (show Text.isBlank '#' = false by decide)
  rw [Entry.ofLine?, Text.trim_blanks_append hindent, ← List.nil_append ('#' :: rest), htrim]
  rfl

theorem Entry.ofLine_of_idle {text : Text} (h : '=' ∉ text) : Entry.ofLine? text = none := by
  have htrim : '=' ∉ Text.trim text := mt Text.mem_of_mem_trim h
  simp [Entry.ofLine?, htrim]

/-- A line is read as what it states. -/
theorem IsLine.ofLine (h : IsLine text stated) : Entry.ofLine? text = stated := by
  cases h with
  | entry he hindent hbefore hafter htail =>
    have hkey := he.key.trim_padded hindent hbefore
    have hvalue := he.value.trim_padded hafter htail
    have heq : Text.isBlank '=' = false := by decide
    rw [Entry.ofLine_of_split]
    · rw [hkey, hvalue]
    · simp [hindent.notMem heq, he.unsplit, hbefore.notMem heq]
    · rw [hkey]
      exact he.uncommented
  | blank hpad => exact Entry.ofLine_of_idle (hpad.notMem (by decide))
  | comment hindent hrest => exact Entry.ofLine_of_comment _ hindent.blank
  | idle hsplit hbroken => exact Entry.ofLine_of_idle hsplit

theorem not_feed_of_mem {line : List UInt8} (hline : 10 ∉ line) :
    ∀ b ∈ line, (b == 10) = false := by
  intro b hb
  rw [beq_eq_false_iff_ne]
  rintro rfl
  exact hline hb

/-- A line is divided from the others by its line feed. -/
theorem splitOn_feed {line : List UInt8} (hline : 10 ∉ line) (rest : List UInt8) :
    (line ++ 10 :: rest).splitOn 10 = line :: rest.splitOn 10 := by
  rw [List.splitOn_eq_splitOnP, List.splitOn_eq_splitOnP]
  exact List.splitOnP_append_cons_of_forall_mem (not_feed_of_mem hline) 10 rfl rest

theorem splitOn_of_no_feed {line : List UInt8} (hline : 10 ∉ line) : line.splitOn 10 = [line] := by
  rw [List.splitOn_eq_splitOnP]
  exact List.splitOnP_eq_singleton (not_feed_of_mem hline)

theorem readableLines_encode (text : Text) (rest : List (List UInt8)) :
    readableLines (text.encode :: rest) = text :: readableLines rest := by
  rw [readableLines, decode_encode]

theorem readableLines_of_unreadable {line : List UInt8} (h : decode? line = none)
    (rest : List (List UInt8)) : readableLines (line :: rest) = [] := by
  rw [readableLines, h]

theorem entries_feed (hfeed : '\n' ∉ text) (rest : List UInt8) :
    entries (text.encode ++ 10 :: rest) = (Entry.ofLine? text).toList ++ entries rest := by
  rw [entries, splitOn_feed (Text.feed_notMem_encode hfeed), readableLines_encode,
    List.filterMap_cons, entries]
  cases Entry.ofLine? text <;> rfl

theorem entries_of_no_feed (hfeed : '\n' ∉ text) :
    entries text.encode = (Entry.ofLine? text).toList := by
  rw [entries, splitOn_of_no_feed (Text.feed_notMem_encode hfeed), readableLines_encode,
    List.filterMap_cons]
  cases Entry.ofLine? text <;> rfl

/-- A line that is no text ends the reading, whether it is the last one or another follows. -/
theorem entries_of_unreadable {line : List UInt8} (hline : 10 ∉ line) (h : decode? line = none) :
    entries line = [] ∧ ∀ rest, entries (line ++ 10 :: rest) = [] := by
  constructor
  · rw [entries, splitOn_of_no_feed hline, readableLines_of_unreadable h, List.filterMap_nil]
  · intro rest
    rw [entries, splitOn_feed hline, readableLines_of_unreadable h, List.filterMap_nil]

theorem entries_of_unreadable_ended {line ending : List UInt8} (hline : 10 ∉ line)
    (h : decode? line = none) (hending : IsLineEnd ending) (rest : List UInt8) :
    entries (line ++ ending ++ rest) = [] := by
  cases hending with
  | feed => simpa using (entries_of_unreadable hline h).2 rest
  | returnFeed =>
    have hreturn : 10 ∉ line ++ [13] := by simp [hline]
    simpa using (entries_of_unreadable hreturn (decode_append_return h)).2 rest

/-- A line is read apart from what follows its end. -/
theorem IsLine.entries_append {ending : List UInt8} (h : IsLine text stated)
    (hending : IsLineEnd ending) (rest : List UInt8) :
    entries (text.encode ++ ending ++ rest) = stated.toList ++ entries rest := by
  cases hending with
  | feed =>
    have hread := entries_feed h.unbroken rest
    rw [h.ofLine] at hread
    simpa using hread
  | returnFeed =>
    have hread := entries_feed h.append_return.unbroken rest
    rw [h.append_return.ofLine, Text.encode_append_return] at hread
    simpa using hread

/-- Lines are read one after another, and what follows them as if it stood alone. -/
theorem Lines.entries_append {bytes : List UInt8} {es : List Entry} (h : Lines bytes es)
    (rest : List UInt8) : entries (bytes ++ rest) = es ++ entries rest := by
  induction h with
  | nil => rfl
  | cons hline hending hlines ih =>
    rw [List.append_assoc, hline.entries_append hending, ih, List.append_assoc]

theorem Written.entries {bytes : List UInt8} {es : List Entry} (h : Written bytes es) :
    Settings.entries bytes = es := by
  cases h with
  | ended h =>
    have hread := h.entries_append []
    rw [List.append_nil] at hread
    rw [hread]
    exact List.append_nil es
  | unended h hline => rw [h.entries_append, entries_of_no_feed hline.unbroken, hline.ofLine]

theorem IsMalformed.decode {line : List UInt8} (h : IsMalformed line) : decode? line = none := by
  rw [Option.eq_none_iff_forall_ne_some]
  intro t ht
  exact h.noText t (eq_encode_of_decode ht).symm

/-- The entries of a settings file are those that its lines state, in order, whatever padding,
comments and idle lines stand between them. A line that is not text ends the reading, and the
entries are those of the lines before it. -/
theorem reading_undoes_writing (bytes : List UInt8) (es : List Entry) :
    (Written bytes es → entries bytes = es) ∧
    (Lines bytes es → ∀ line, IsMalformed line → entries (bytes ++ line) = es ∧
      ∀ ending, IsLineEnd ending → ∀ rest, entries (bytes ++ (line ++ ending ++ rest)) = es) := by
  constructor
  · exact Written.entries
  · intro h line hline
    constructor
    · rw [h.entries_append, (entries_of_unreadable hline.unbroken hline.decode).1, List.append_nil]
    · intro ending hending rest
      rw [h.entries_append, entries_of_unreadable_ended hline.unbroken hline.decode hending,
        List.append_nil]

/-- A comment, an entry and a line that is cut short within a character. -/
theorem nothing_behind_a_malformed_line :
    let entry : Entry := ⟨"separator".toList, "=#".toList⟩
    let bytes := Text.encode ([] ++ '#' :: " dots".toList) ++ [13, 10] ++
      (Text.encode ([' '] ++ entry.key ++ ['\t'] ++ '=' :: ([] ++ entry.value ++ ['\u00a0'])) ++
        [10] ++ [])
    Lines bytes [entry] ∧ IsMalformed [0xe2, 0x82] ∧ entries bytes = [entry] ∧
      entries (bytes ++ ([0xe2, 0x82] ++ [13, 10] ++ Text.encode "verbose=yes".toList)) =
        [entry] := by
  intro entry bytes
  have hentry : entry.IsWritable :=
    ⟨⟨by decide, by decide, by decide⟩, ⟨by decide, by decide, by decide⟩, by decide, by decide⟩
  have hpad : IsPadding [' '] ∧ IsPadding ['\t'] ∧ IsPadding ['\u00a0'] := by
    simp only [IsPadding, List.forall_mem_singleton]
    decide
  obtain ⟨hindent, hbefore, htail⟩ := hpad
  have hlines : Lines bytes [entry] :=
    .cons (.comment isPadding_nil (by decide)) .returnFeed
      (.cons (.entry hentry hindent hbefore isPadding_nil htail) .feed .nil)
  have hmalformed : IsMalformed [0xe2, 0x82] := by
    have hnone : decode? [0xe2, 0x82] = none := by decide
    refine ⟨by decide, ?_⟩
    intro t ht
    rw [← ht, decode_encode] at hnone
    cases hnone
  obtain ⟨hwritten, hcut⟩ := reading_undoes_writing bytes [entry]
  exact ⟨hlines, hmalformed, hwritten (.ended hlines),
    (hcut hlines _ hmalformed).2 _ .returnFeed _⟩

end WordArithmetic.Settings
