import WordArithmetic.Fault
import WordArithmetic.Proofs.SentenceMeaning

namespace WordArithmetic

namespace Text

theorem length_le_byteLength (t : Text) : t.length ≤ byteLength t := by
  induction t with
  | nil => exact Nat.le_refl 0
  | cons c t ih =>
    have hpos := c.utf8Size_pos
    rw [byteLength, List.length_cons]
    omega

def IsAscii (t : Text) : Prop :=
  ∀ c ∈ t, c.toNat ≤ 127

theorem isAscii_append {x y : Text} : IsAscii (x ++ y) ↔ IsAscii x ∧ IsAscii y :=
  List.forall_mem_append

theorem utf8Size_eq_one_iff {c : Char} : c.utf8Size = 1 ↔ c.toNat ≤ 127 := by
  rw [Char.utf8Size_eq_one_iff, UInt32.le_iff_toNat_le]
  rfl

/-- A text has more bytes than characters as soon as one character is beyond ASCII. -/
theorem byteLength_eq_length_iff {t : Text} : byteLength t = t.length ↔ IsAscii t := by
  induction t with
  | nil => simp [byteLength, IsAscii]
  | cons c t ih =>
    have hpos := c.utf8Size_pos
    have hle := length_le_byteLength t
    rw [IsAscii, List.forall_mem_cons, ← IsAscii, ← ih, ← utf8Size_eq_one_iff, byteLength,
      List.length_cons]
    omega

def beforeWord (words : List Text) (place : Nat) : Text :=
  (words.take place).flatMap (· ++ [' '])

theorem unwords_eq_beforeWord {words : List Text} {place : Nat} (h : place < words.length) :
    unwords words = beforeWord words place ++ unwords (words.drop place) := by
  induction words generalizing place with
  | nil => simp at h
  | cons w ws ih =>
    cases place with
    | zero => rfl
    | succ place =>
      rw [List.length_cons, Nat.add_lt_add_iff_right] at h
      have hne : ws ≠ [] := List.ne_nil_of_length_pos (Nat.zero_lt_of_lt h)
      rw [unwords_cons w hne, ih h, List.drop_succ_cons, beforeWord, beforeWord,
        List.take_succ_cons, List.flatMap_cons, List.append_assoc, List.append_assoc]
      rfl

end Text

namespace Fault

def caretLine (margin : Text) (column width : Nat) : Text :=
  margin ++ List.replicate column ' ' ++ styled "1;31" (List.replicate width '^')

theorem caretLine_injective {margin : Text} {column width column' width' : Nat}
    (h : caretLine margin column width = caretLine margin column' width') :
    column = column' ∧ width = width' := by
  rw [caretLine, caretLine, List.append_assoc, List.append_assoc, List.append_cancel_left_eq] at h
  have hspaces := congrArg (List.count ' ') h
  have hcarets := congrArg (List.count '^') h
  simp [styled, List.count_replicate] at hspaces hcarets
  exact ⟨hspaces, hcarets⟩

/-- The report shows the words of the sentence with single spaces and, in the next line behind the
same margin, carets from a column on. -/
def Underlines (fault : Fault) (sentence : Text) (column width : Nat) : Prop :=
  ∃ headline margin more, fault.reportLines sentence =
    headline :: (margin ++ Text.unwords (Text.words sentence)) ::
      caretLine margin column width :: more

variable {fault : Fault} {sentence word : Text} {place : Nat}

/-- The carets start after as many columns, and are as many, as the text before the word and the
word have bytes. -/
theorem pointer_eq {words : List Text} (hword : words[place]? = some word) :
    ∃ margin, pointer words place = [margin ++ Text.unwords words,
      caretLine margin (Text.byteLength (Text.beforeWord words place))
        (max (Text.byteLength word) 1)] := by
  rw [pointer, hword]
  exact ⟨_, rfl⟩

theorem underlines_iff (hposition : fault.position = some place)
    (hword : (Text.words sentence)[place]? = some word) {column width : Nat} :
    fault.Underlines sentence column width ↔
      column = Text.byteLength (Text.beforeWord (Text.words sentence) place) ∧
        width = Text.byteLength word := by
  have hwide : max (Text.byteLength word) 1 = Text.byteLength word := by
    have hword := Text.isWord_of_mem (List.mem_of_getElem? hword)
    have hlength := List.length_pos_iff.mpr hword.1
    have hle := Text.length_le_byteLength word
    omega
  obtain ⟨margin, hpointer⟩ := pointer_eq hword
  rw [hwide] at hpointer
  rw [Underlines, reportLines, hposition, Option.map_some, Option.getD_some, hpointer]
  constructor
  · rintro ⟨headline, other, more, he⟩
    obtain ⟨_, he⟩ := List.cons.inj he
    obtain ⟨hmargin, he⟩ := List.cons.inj he
    obtain ⟨hcarets, _⟩ := List.cons.inj he
    rw [← List.append_cancel_right hmargin] at hcarets
    obtain ⟨hcolumn, hwidth⟩ := caretLine_injective hcarets
    exact ⟨hcolumn.symm, hwidth.symm⟩
  · rintro ⟨rfl, rfl⟩
    exact ⟨_, margin, _, rfl⟩

end Fault

/-- The report shows the sentence and carets below it, but their column and their number are counted
in bytes. They stand under the word that the fault points at, and are as many as its characters,
exactly if nothing up to the end of this word is beyond ASCII. -/
theorem carets_are_counted_in_bytes {fault : Fault} {sentence word : Text} {place : Nat}
    (hposition : fault.position = some place) (hword : (Text.words sentence)[place]? = some word) :
    ∃ before, Text.unwords (Text.words sentence) =
        before ++ Text.unwords ((Text.words sentence).drop place) ∧
      (∀ column width, fault.Underlines sentence column width ↔
        column = Text.byteLength before ∧ width = Text.byteLength word) ∧
      (fault.Underlines sentence before.length word.length ↔ Text.IsAscii (before ++ word)) := by
  have hlt := (List.getElem?_eq_some_iff.mp hword).1
  refine ⟨Text.beforeWord (Text.words sentence) place, Text.unwords_eq_beforeWord hlt, ?_, ?_⟩
  · intro column width
    exact Fault.underlines_iff hposition hword
  · rw [Fault.underlines_iff hposition hword, eq_comm, Text.byteLength_eq_length_iff, eq_comm,
      Text.byteLength_eq_length_iff, Text.isAscii_append]

theorem evaluate_accented_words : evaluate "two cafés plus thé".toList =
    .error ⟨.notANumber "thé".toList, some 3, none⟩ := by
  have htokens : tokenize "two cafés plus thé".toList = [⟨.operand "two cafés".toList, 0⟩,
      ⟨.operator .add "plus".toList, 2⟩, ⟨.operand "thé".toList, 3⟩] := by
    decide +kernel
  rw [evaluate_eq, htokens]
  rfl

theorem words_of_accented_words : Text.words "two cafés plus thé".toList =
    ["two".toList, "cafés".toList, "plus".toList, "thé".toList] := by
  decide

/-- One accent before the word moves the carets by a column, and one in the word adds a caret. -/
theorem carets_of_accented_words :
    let sentence := "two cafés plus thé".toList
    let fault : Fault := ⟨.notANumber "thé".toList, some 3, none⟩
    evaluate sentence = .error fault ∧ fault.position = some 3 ∧
      (Text.words sentence)[3]? = some "thé".toList ∧ fault.Underlines sentence 16 4 := by
  intro sentence fault
  have hword : (Text.words sentence)[3]? = some "thé".toList := by
    rw [words_of_accented_words]
    rfl
  have hposition : fault.position = some 3 := rfl
  obtain ⟨before, hsplit, hcarets, _⟩ := carets_are_counted_in_bytes hposition hword
  rw [words_of_accented_words] at hsplit
  have hbefore : "two cafés plus ".toList = before := List.append_cancel_right hsplit
  refine ⟨evaluate_accented_words, hposition, hword, (hcarets 16 4).mpr ?_⟩
  rw [← hbefore]
  decide

/-- The word starts in column 15 and has three characters, and the carets do not stand there. -/
theorem carets_miss_an_accented_word :
    let sentence := "two cafés plus thé".toList
    let before := "two cafés plus ".toList
    let word := "thé".toList
    let fault : Fault := ⟨.notANumber word, some 3, none⟩
    evaluate sentence = .error fault ∧ fault.position = some 3 ∧
      (Text.words sentence)[3]? = some word ∧
      Text.unwords (Text.words sentence) = before ++ word ∧
      ¬ fault.Underlines sentence before.length word.length := by
  intro sentence before word fault
  have hword : (Text.words sentence)[3]? = some word := by
    rw [words_of_accented_words]
    rfl
  refine ⟨evaluate_accented_words, rfl, hword, ?_, ?_⟩
  · rw [words_of_accented_words]
    rfl
  · rw [Fault.underlines_iff rfl hword, words_of_accented_words]
    decide

end WordArithmetic
