import WordArithmetic.Proofs.EnglishNumerals
import WordArithmetic.Proofs.SentenceMeaning

namespace WordArithmetic

namespace Numeral

/-- The filler has no parts at all, so none of them is passed over. -/
theorem isPlain_filler : IsPlain filler where
  isWord := Text.isWord_of_mem (by decide : filler ∈ Text.words filler)
  lowercase := by decide
  known := by decide
  startsNone := by decide

theorem phraseWords_filler : phraseWords filler = [] := by
  decide

/-- A sentence of known words is one number, whether it is read as a phrase or as a sentence. -/
theorem read_of_plain {sentence : Text} {v : Value}
    (hplain : ∀ w ∈ (Text.words sentence).map Text.lowercase, IsPlain w)
    (hne : phraseWords sentence ≠ []) (hv : v.toInt = exactValue sentence) :
    (read sentence).value = some v ∧ unknownWords sentence = [] ∧
      evaluate sentence = .ok ⟨v, []⟩ := by
  have hphrase := phraseWords_eq_flatMap_lowercase sentence
  refine ⟨by rw [read_value, Value.ofInt?_eq_some_iff, hv], ?_, ?_⟩
  · rw [unknownWords, List.filter_eq_nil_iff]
    intro part hm
    rw [hphrase] at hm
    obtain ⟨w, hw, hpart⟩ := List.mem_flatMap.mp hm
    simp [(hplain w hw).known part hpart]
  · rw [exactValue, hphrase] at hv
    rw [hphrase] at hne
    have hwords : (Text.words sentence).map Text.lowercase ≠ [] := by
      intro he
      rw [he] at hne
      exact hne rfl
    have htokens := Token.ofWords_operand hwords (freeOfPhrases_of_plain hplain) (.inl rfl) 0
    rw [List.append_nil] at htokens
    rw [evaluate_eq, tokenize, sentenceWords_eq, htokens]
    simp [Token.ofWords, Notes.analyze, Notes.readOperandAnd,
      Notes.readOperand_of_plain _ hplain hne hv, Notes.readSteps, Except.bind,
      Expression.reduce, Expression.reduction, Reduction.ofSteps, Except.map]

end Numeral

namespace English
open Numeral

/-- The texts that words may be written as: letters of either case, blanks around the words and
between them, and the filler anywhere among them. -/
inductive Spells : List Text → Text → Prop
  | nothing {gap : Text} : gap.all Text.isBlank = true → Spells [] gap
  | word {w : Text} {ws : List Text} (gap written : Text) {rest : Text} :
    gap.all Text.isBlank = true → written.map Char.toLower = w →
    rest.head?.all Text.isBlank = true → Spells ws rest →
    Spells (w :: ws) (gap ++ (written ++ rest))
  | filler {ws : List Text} (gap written : Text) {rest : Text} :
    gap.all Text.isBlank = true → written.map Char.toLower = Numeral.filler →
    rest.head?.all Text.isBlank = true → Spells ws rest →
    Spells ws (gap ++ (written ++ rest))

/-- A known word is read in letters of either case, with blanks before it and behind it. -/
theorem lowercase_words_written {w gap written rest : Text} (hw : IsPlain w)
    (hgap : gap.all Text.isBlank = true) (hwritten : written.map Char.toLower = w)
    (hrest : rest.head?.all Text.isBlank = true) :
    (Text.words (gap ++ (written ++ rest))).map Text.lowercase =
      w :: (Text.words rest).map Text.lowercase := by
  have hword : Text.IsWord written := by
    rw [← Text.isWord_map_toLower, hwritten]
    exact hw.isWord
  have hlower : Text.lowercase written = w := by
    rw [← Text.lowercase_map_toLower, hwritten, hw.lowercase]
  rw [Text.words_blanks_append (List.all_eq_true.mp hgap), Text.words_isWord_append hword hrest,
    List.map_cons, hlower]

theorem Spells.plain {ws : List Text} {text : Text} (h : Spells ws text)
    (hplain : ∀ w ∈ ws, IsPlain w) :
    (∀ w ∈ (Text.words text).map Text.lowercase, IsPlain w) ∧
      phraseWords text = ws.flatMap phraseWords := by
  rw [phraseWords_eq_flatMap_lowercase]
  induction h with
  | nothing hgap => simp [Text.words_blanks (List.all_eq_true.mp hgap)]
  | word gap written hgap hwritten hrest _ ih =>
    have hw := hplain _ List.mem_cons_self
    obtain ⟨hlater, hparts⟩ := ih (fun v hv => hplain v (List.mem_cons_of_mem _ hv))
    rw [lowercase_words_written hw hgap hwritten hrest]
    exact ⟨by simpa [hw] using hlater, by rw [List.flatMap_cons, List.flatMap_cons, hparts]⟩
  | filler gap written hgap hwritten hrest _ ih =>
    obtain ⟨hlater, hparts⟩ := ih hplain
    rw [lowercase_words_written isPlain_filler hgap hwritten hrest]
    exact ⟨by simpa [isPlain_filler] using hlater,
      by rw [List.flatMap_cons, phraseWords_filler, List.nil_append, hparts]⟩

/-- Every number below a trillion is read back from its spelling, in letters of either case, with
any blanks and fillers, and nothing of the spelling is passed over. -/
theorem spelled_number_is_read_back (hyphenated : Nat → Bool) {n : Nat}
    (hn : n ≤ 999999999999) {text : Text} (h : Spells (spelling hyphenated n) text) :
    ∃ v : Value, v.toInt = n ∧ (read text).value = some v ∧ valueOf text = v ∧
      unknownWords text = [] ∧ evaluate text = .ok ⟨v, []⟩ := by
  obtain ⟨hplain, hparts⟩ := h.plain (isPlain_spelling hyphenated n)
  have hexact : exactValue text = n := by
    rw [exactValue, hparts, exactOf_spelling hyphenated hn]
  have hne : phraseWords text ≠ [] := by
    rw [hparts]
    exact parts_ne_nil hyphenated hn
  let v : Value := ⟨n, by omega, by omega⟩
  obtain ⟨hread, hunknown, hevaluate⟩ := read_of_plain (v := v) hplain hne (by rw [hexact])
  exact ⟨v, rfl, hread, by rw [valueOf, hread, Option.getD_some], hunknown, hevaluate⟩

/-- Capitals, blanks of several kinds and fillers at once. -/
theorem spelled_number_in_mixed_letters :
    let text := "\tNine HUNDRED  and ninety-Nine Billion AND one ".toList
    999000000001 ≤ 999999999999 ∧ Spells (spelling (fun _ => true) 999000000001) text ∧
      ∃ v : Value, v.toInt = 999000000001 ∧ evaluate text = .ok ⟨v, []⟩ := by
  intro text
  have h : Spells (spelling (fun _ => true) 999000000001) text := by
    have hwords : spelling (fun _ => true) 999000000001 = ["nine".toList, "hundred".toList,
        "ninety-nine".toList, "billion".toList, "one".toList] := by
      decide
    have htext : text = ['\t'] ++ ("Nine".toList ++ ([' '] ++ ("HUNDRED".toList ++
        ([' ', ' '] ++ ("and".toList ++ ([' '] ++ ("ninety-Nine".toList ++ ([' '] ++
        ("Billion".toList ++ ([' '] ++ ("AND".toList ++ ([' '] ++ ("one".toList ++
        [' ']))))))))))))) := by
      decide
    rw [hwords, htext]
    exact .word _ _ rfl rfl rfl <| .word _ _ rfl rfl rfl <| .filler _ _ rfl rfl rfl <|
      .word _ _ rfl rfl rfl <| .word _ _ rfl rfl rfl <| .filler _ _ rfl rfl rfl <|
      .word _ _ rfl rfl rfl <| .nothing rfl
  obtain ⟨v, hv, _, _, _, hevaluate⟩ := spelled_number_is_read_back (fun _ => true) (by decide) h
  exact ⟨by decide, h, v, hv, hevaluate⟩

end English

end WordArithmetic
