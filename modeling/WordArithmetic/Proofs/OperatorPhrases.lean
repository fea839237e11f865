import WordArithmetic.Sentence.Operator

namespace WordArithmetic.Operator

theorem phrase_words_ne_nil {phrase : Text} {op : Operator} (h : (phrase, op) ∈ phrases) :
    Text.words phrase ≠ [] := by
  have hall : ∀ entry ∈ phrases, Text.words entry.1 ≠ [] := by decide
  exact hall _ h

/-- No phrase is the beginning of another. -/
theorem phrase_unique {a b : Text × Operator} (ha : a ∈ phrases) (hb : b ∈ phrases)
    (h : Text.words a.1 <+: Text.words b.1) : a = b := by
  have hall : ∀ a ∈ phrases, ∀ b ∈ phrases, Text.words a.1 <+: Text.words b.1 → a = b := by
    decide
  exact hall a ha b hb h

/-- No phrase can begin inside another one and go on behind it. -/
theorem later_word_starts_none {a b : Text × Operator} (ha : a ∈ phrases) (hb : b ∈ phrases)
    {w : Text} (hw : w ∈ (Text.words a.1).tail) : (Text.words b.1).head? ≠ some w := by
  have hall : ∀ a ∈ phrases, ∀ b ∈ phrases, ∀ w ∈ (Text.words a.1).tail,
      (Text.words b.1).head? ≠ some w := by
    decide
  exact hall a ha b hb w hw

theorem ofPhrase?_eq_some_iff {phrase : Text} {op : Operator} :
    ofPhrase? phrase = some op ↔ (phrase, op) ∈ phrases := by
  constructor
  · intro h
    obtain ⟨before, after, hs, _⟩ := List.lookup_eq_some_iff.mp h
    simp [hs]
  · intro h
    have hall : ∀ entry ∈ phrases, ofPhrase? entry.1 = some entry.2 := by decide
    exact hall _ h

theorem leading?_eq_none_iff {ws : List Text} :
    leading? ws = none ↔ ∀ entry ∈ phrases, ¬ Text.words entry.1 <+: ws := by
  simp [leading?, List.find?_eq_none]

theorem mem_of_leading? {ws : List Text} {phrase : Text} {op : Operator}
    (h : leading? ws = some (phrase, op)) :
    (phrase, op) ∈ phrases ∧ Text.words phrase <+: ws :=
  ⟨List.mem_of_find?_eq_some h, by simpa using List.find?_some h⟩

theorem leading?_append {phrase : Text} {op : Operator} (h : (phrase, op) ∈ phrases)
    (rest : List Text) : leading? (Text.words phrase ++ rest) = some (phrase, op) := by
  cases hl : leading? (Text.words phrase ++ rest) with
  | none => exact absurd (List.prefix_append _ rest) (leading?_eq_none_iff.mp hl _ h)
  | some found =>
    obtain ⟨other, op'⟩ := found
    obtain ⟨hm, hp⟩ := mem_of_leading? hl
    rcases List.prefix_or_prefix_of_prefix hp (List.prefix_append _ rest) with hle | hle
    · rw [phrase_unique hm h hle]
    · rw [phrase_unique h hm hle]

def FreeOfPhrases (ws : List Text) : Prop :=
  ∀ entry ∈ phrases, ¬ Text.words entry.1 <:+: ws

theorem FreeOfPhrases.nil : FreeOfPhrases [] := by
  intro entry hm hin
  exact phrase_words_ne_nil hm (List.infix_nil.mp hin)

theorem freeOfPhrases_cons_iff {w : Text} {ws : List Text} :
    FreeOfPhrases (w :: ws) ↔
      (∀ entry ∈ phrases, ¬ Text.words entry.1 <+: w :: ws) ∧ FreeOfPhrases ws := by
  constructor
  · intro h
    constructor
    · intro entry hm hp
      exact h entry hm hp.isInfix
    · intro entry hm hin
      exact h entry hm (List.infix_cons hin)
  · rintro ⟨hfirst, hlater⟩ entry hm hin
    rcases List.infix_cons_iff.mp hin with hp | hin
    · exact hfirst entry hm hp
    · exact hlater entry hm hin

def StartsWithPhrase (rest : List Text) : Prop :=
  rest = [] ∨ ∃ entry ∈ phrases, Text.words entry.1 <+: rest

/-- Within an operand no operator begins, not even one that would end behind the operand. -/
theorem leading?_operand {ws rest : List Text} (hne : ws ≠ []) (hfree : FreeOfPhrases ws)
    (hrest : StartsWithPhrase rest) : leading? (ws ++ rest) = none := by
  rw [leading?_eq_none_iff]
  intro a ha hp
  rcases List.prefix_or_prefix_of_prefix hp (List.prefix_append ws rest) with hin | ⟨s, hs⟩
  · exact hfree a ha hin.isInfix
  · cases s with
    | nil =>
      rw [List.append_nil] at hs
      exact hfree a ha (hs ▸ List.infix_refl _)
    | cons v s =>
      rw [← hs, List.prefix_append_right_inj] at hp
      have hv : v ∈ (Text.words a.1).tail := by
        rw [← hs, List.tail_append_of_ne_nil hne]
        simp
      rcases hrest with rfl | ⟨b, hb, hq⟩
      · simp at hp
      · apply later_word_starts_none ha hb hv
        obtain ⟨more, hmore⟩ := hp
        obtain ⟨others, hothers⟩ := hq
        cases hw : Text.words b.1 with
        | nil => exact absurd hw (phrase_words_ne_nil hb)
        | cons u us =>
          rw [hw, ← hmore, List.cons_append, List.cons_append] at hothers
          rw [List.head?_cons, (List.cons.inj hothers).1]

/-- Words that begin with no operator begin with an operand, up to the first operator or the
end. -/
theorem exists_operand {ws : List Text} (hne : ws ≠ []) (hl : leading? ws = none) :
    ∃ operand rest, ws = operand ++ rest ∧ operand ≠ [] ∧ FreeOfPhrases operand ∧
      StartsWithPhrase rest := by
  induction ws with
  | nil => contradiction
  | cons w ws ih =>
    have hfirst (operand : List Text) {rest : List Text} (he : ws = operand ++ rest)
        (hfree : FreeOfPhrases operand) : FreeOfPhrases (w :: operand) := by
      refine freeOfPhrases_cons_iff.mpr ⟨?_, hfree⟩
      intro entry hm hp
      apply leading?_eq_none_iff.mp hl entry hm
      apply hp.trans
      rw [he]
      exact List.prefix_append (w :: operand) rest
    cases hr : leading? ws with
    | some entry =>
      obtain ⟨hm, hp⟩ := mem_of_leading? hr
      exact ⟨[w], ws, rfl, by simp, hfirst [] rfl .nil, .inr ⟨entry, hm, hp⟩⟩
    | none =>
      by_cases hws : ws = []
      · exact ⟨[w], ws, rfl, by simp, hfirst [] rfl .nil, .inl hws⟩
      · obtain ⟨operand, rest, he, _, hfree, hrest⟩ := ih hws hr
        exact ⟨w :: operand, rest, by rw [he, List.cons_append], by simp,
          hfirst operand he hfree, hrest⟩

/-- Induction over the operators and operands that words consist of. -/
@[elab_as_elim]
theorem phrase_induction {motive : List Text → Prop} (nil : motive [])
    (operator : ∀ phrase op rest, (phrase, op) ∈ phrases → motive rest →
      motive (Text.words phrase ++ rest))
    (operand : ∀ ws rest, ws ≠ [] → FreeOfPhrases ws → StartsWithPhrase rest → motive rest →
      motive (ws ++ rest))
    (ws : List Text) : motive ws := by
  by_cases hne : ws = []
  · exact hne ▸ nil
  · cases hl : leading? ws with
    | some entry =>
      obtain ⟨phrase, op⟩ := entry
      obtain ⟨hm, rest, he⟩ := mem_of_leading? hl
      have hlen : rest.length < ws.length := by
        have := List.length_pos_iff.mpr (phrase_words_ne_nil hm)
        rw [← he, List.length_append]
        omega
      exact he ▸ operator phrase op rest hm (phrase_induction nil operator operand rest)
    | none =>
      obtain ⟨first, rest, he, hfirst, hfree, hrest⟩ := exists_operand hne hl
      have hlen : rest.length < ws.length := by
        have := List.length_pos_iff.mpr hfirst
        rw [he, List.length_append]
        omega
      exact he ▸ operand first rest hfirst hfree hrest
        (phrase_induction nil operator operand rest)
termination_by ws.length

end WordArithmetic.Operator
