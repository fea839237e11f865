import WordArithmetic.Expression.Analysis
import WordArithmetic.Proofs.AnalysisFaults

namespace WordArithmetic

namespace Fault

def site (fault : Fault) : Cause × Option Nat :=
  (fault.cause, fault.position)

variable {α : Type}

/-- Results that only a suggestion tells apart. -/
def SameSite (x y : Except Fault α) : Prop :=
  x.mapError site = y.mapError site

theorem SameSite.refl (x : Except Fault α) : SameSite x x := rfl

theorem sameSite_cases {x y : Except Fault α} (h : SameSite x y) :
    (∃ a, x = .ok a ∧ y = .ok a) ∨ ∃ cause position s t,
      x = .error ⟨cause, position, s⟩ ∧ y = .error ⟨cause, position, t⟩ := by
  cases x with
  | ok a =>
    cases y with
    | ok b =>
      cases h
      exact .inl ⟨a, rfl, rfl⟩
    | error f => cases h
  | error e =>
    cases y with
    | ok b => cases h
    | error f =>
      obtain ⟨cause, position, s⟩ := e
      obtain ⟨cause', position', t⟩ := f
      cases h
      exact .inr ⟨cause, position, s, t, rfl, rfl⟩

theorem SameSite.ok_iff {x y : Except Fault α} (h : SameSite x y) {a : α} :
    x = .ok a ↔ y = .ok a := by
  rcases sameSite_cases h with ⟨b, rfl, rfl⟩ | ⟨cause, position, s, t, rfl, rfl⟩
  · exact Iff.rfl
  · simp

theorem SameSite.error_iff {x y : Except Fault α} (h : SameSite x y) {cause : Cause}
    {position : Option Nat} :
    (∃ suggestion, x = .error ⟨cause, position, suggestion⟩) ↔
      ∃ suggestion, y = .error ⟨cause, position, suggestion⟩ := by
  rcases sameSite_cases h with ⟨b, rfl, rfl⟩ | ⟨cause', position', s, t, rfl, rfl⟩
  · simp
  · simp

end Fault

instance : Append Notes :=
  ⟨fun earlier later =>
    ⟨earlier.warnings ++ later.warnings, earlier.skipped ++ later.skipped⟩⟩

namespace Noted

variable {α β : Type}

/-- What is noted behind earlier notes is what is noted without them, and only a suggestion can
tell the results apart. -/
structure Follows (earlier : Notes) (later fresh : Noted α) : Prop where
  notes : later.notes = earlier ++ fresh.notes
  result : Fault.SameSite later.result fresh.result

theorem Follows.andThen {earlier : Notes} {later fresh : Noted α} (h : Follows earlier later fresh)
    {next next' : α → Notes → Noted β}
    (hnext : ∀ a notes, Follows earlier (next a (earlier ++ notes)) (next' a notes)) :
    Follows earlier (later.andThen next) (fresh.andThen next') := by
  obtain ⟨x, n⟩ := later
  obtain ⟨y, m⟩ := fresh
  obtain ⟨rfl, hresult⟩ := h
  rcases Fault.sameSite_cases hresult with ⟨a, rfl, rfl⟩ | ⟨cause, position, s, t, rfl, rfl⟩
  · exact hnext a m
  · exact ⟨rfl, rfl⟩

end Noted

namespace Notes

theorem append_empty (notes : Notes) : notes ++ ({} : Notes) = notes := by
  obtain ⟨warnings, skipped⟩ := notes
  change Notes.mk (warnings ++ []) (skipped ++ []) = ⟨warnings, skipped⟩
  rw [List.append_nil, List.append_nil]

variable (count : Nat → Nat)

theorem readOperand_follows (earlier notes : Notes) (token : Token) :
    Noted.Follows earlier ((earlier ++ notes).readOperand count token)
      (notes.readOperand count token) := by
  obtain ⟨part, position⟩ := token
  cases part with
  | operator op phrase => exact ⟨rfl, .refl _⟩
  | operand text =>
    have hnotes (ws : List Warning) (ts : List Text) :
        Notes.mk ((earlier ++ notes).warnings ++ ws) ((earlier ++ notes).skipped ++ ts) =
          earlier ++ ⟨notes.warnings ++ ws, notes.skipped ++ ts⟩ := by
      change Notes.mk (_ ++ _ ++ _) (_ ++ _ ++ _) = Notes.mk (_ ++ (_ ++ _)) (_ ++ (_ ++ _))
      rw [List.append_assoc, List.append_assoc]
    simp only [readOperand]
    split
    · split
      · exact ⟨hnotes _ _, .refl _⟩
      · exact ⟨hnotes _ _, .refl _⟩
    · refine ⟨?_, rfl⟩
      simpa using hnotes ((Warning.ofOperand text position).map (Warning.counted count)) []

theorem readOperandAnd_follows {α : Type} {earlier : Notes}
    {readRest : Notes → Noted (List Step)}
    (hrest : ∀ notes : Notes,
      Noted.Follows earlier (readRest (earlier ++ notes)) (readRest notes))
    (notes : Notes) (operand : Token) (make : Value → List Step → α) :
    Noted.Follows earlier ((earlier ++ notes).readOperandAnd count operand readRest make)
      (notes.readOperandAnd count operand readRest make) := by
  refine (readOperand_follows count earlier notes operand).andThen ?_
  intro v after
  refine (hrest after).andThen ?_
  intro steps last
  exact ⟨rfl, .refl _⟩

theorem readSteps_follows (earlier notes : Notes) (tokens : List Token) :
    Noted.Follows earlier ((earlier ++ notes).readSteps count tokens)
      (notes.readSteps count tokens) := by
  match tokens with
  | [] => exact ⟨rfl, .refl _⟩
  | ⟨.operand text, p⟩ :: rest => exact ⟨rfl, .refl _⟩
  | [⟨.operator op phrase, p⟩] => exact ⟨rfl, .refl _⟩
  | ⟨.operator op phrase, p⟩ :: operand :: rest =>
    rw [readSteps, readSteps]
    apply readOperandAnd_follows
    intro after
    exact readSteps_follows earlier after rest

/-- An analysis adds to the notes what a fresh analysis of the tokens notes. -/
theorem analyze_follows (notes : Notes) (tokens : List Token) :
    Noted.Follows notes (notes.analyze count tokens) (analyze count {} tokens) := by
  cases tokens with
  | nil => exact ⟨notes.append_empty.symm, .refl _⟩
  | cons first rest =>
    have h : Noted.Follows notes ((notes ++ ({} : Notes)).analyze count (first :: rest))
        (analyze count {} (first :: rest)) := by
      rw [analyze, analyze]
      apply readOperandAnd_follows
      intro after
      exact readSteps_follows count notes after rest
    rwa [append_empty] at h

end Notes

namespace Request

def warnings : Request → List Warning
  | .analyze tokens => (Notes.analyze wordCount {} tokens).notes.warnings
  | .forgetWarnings => []

def sinceForgotten (requests : List Request) : List Request :=
  (requests.reverse.takeWhile (· ≠ .forgetWarnings)).reverse

/-- What the analyst should remember at the end of the requests. -/
def remembered (requests : List Request) : List Warning :=
  (sinceForgotten requests).flatMap warnings

theorem remembered_forget (past : List Request) : remembered (past ++ [.forgetWarnings]) = [] := by
  simp [remembered, sinceForgotten]

theorem remembered_analyze (past : List Request) (tokens : List Token) :
    remembered (past ++ [.analyze tokens]) =
      remembered past ++ (Notes.analyze wordCount {} tokens).notes.warnings := by
  simp [remembered, sinceForgotten, warnings]

end Request

namespace Notes

/-- One request: what is remembered grows by the request's own warnings or is forgotten, and the
answer is the one without earlier notes, but for a suggestion. -/
theorem answer_step {notes : Notes} {past : List Request}
    (h : notes.warnings = Request.remembered past) (request : Request) :
    (notes.answer request).2.warnings = Request.remembered (past ++ [request]) ∧
      (notes.answer request).1.map (·.mapError Fault.site) =
        (answer {} request).1.map (·.mapError Fault.site) := by
  cases request with
  | forgetWarnings => exact ⟨(Request.remembered_forget past).symm, rfl⟩
  | analyze tokens =>
    obtain ⟨hnotes, hresult⟩ := notes.analyze_follows wordCount tokens
    constructor
    · rw [Request.remembered_analyze, ← h]
      exact congrArg Notes.warnings hnotes
    · exact congrArg some hresult

theorem session_from {notes : Notes} {past : List Request}
    (h : notes.warnings = Request.remembered past) {requests : List Request} {i : Nat}
    {request : Request} (hi : requests[i]? = some request) :
    ∃ result after, (notes.session requests)[i]? = some (result, after) ∧
      after.warnings = Request.remembered (past ++ requests.take (i + 1)) ∧
      result.map (·.mapError Fault.site) = (answer {} request).1.map (·.mapError Fault.site) := by
  induction requests generalizing notes past i with
  | nil => simp at hi
  | cons first rest ih =>
    have hfirst := notes.answer_step h first
    cases i with
    | zero =>
      cases hi
      exact ⟨_, _, rfl, hfirst⟩
    | succ i =>
      obtain ⟨result, after, hsession, hwarnings, hresult⟩ := ih hfirst.1 hi
      refine ⟨result, after, hsession, ?_, hresult⟩
      rw [hwarnings, List.append_assoc]
      rfl

end Notes

/-- An analyst with notes adds the warnings of a fresh one to them and gives the same expression or
a fault of the same cause and position. So in a session the warnings are those of the requests
since the last forgetting, and no answer depends on the requests before but for its suggestion. -/
theorem analyses_only_append :
    (∀ (count : Nat → Nat) (notes : Notes) (tokens : List Token),
      (notes.analyze count tokens).notes.warnings =
          notes.warnings ++ (Notes.analyze count {} tokens).notes.warnings ∧
        (∀ e, (notes.analyze count tokens).result = .ok e ↔
          (Notes.analyze count {} tokens).result = .ok e) ∧
        ∀ cause position,
          (∃ suggestion,
            (notes.analyze count tokens).result = .error ⟨cause, position, suggestion⟩) ↔
              ∃ suggestion,
                (Notes.analyze count {} tokens).result = .error ⟨cause, position, suggestion⟩) ∧
    ∀ (requests : List Request) (i : Nat) (request : Request), requests[i]? = some request →
      ∃ result after, (Notes.session {} requests)[i]? = some (result, after) ∧
        after.warnings =
          (Request.sinceForgotten (requests.take (i + 1))).flatMap Request.warnings ∧
        result.map (·.mapError Fault.site) =
          (Notes.answer {} request).1.map (·.mapError Fault.site) := by
  constructor
  · intro count notes tokens
    obtain ⟨hnotes, hresult⟩ := notes.analyze_follows count tokens
    exact ⟨congrArg Notes.warnings hnotes, fun e => hresult.ok_iff,
      fun cause position => hresult.error_iff⟩
  · intro requests i request hi
    have hstart : ({} : Notes).warnings = Request.remembered [] := rfl
    exact Notes.session_from hstart hi

/-- What was read before the warnings were forgotten leaves none. -/
theorem warnings_since_forgotten :
    let apples : Request := .analyze [⟨.operand "apples".toList, 0⟩]
    let requests : List Request := [.analyze [⟨.operand "tree".toList, 0⟩], .forgetWarnings,
      .analyze [⟨.operand "fourty two".toList, 0⟩, ⟨.operator .add "plus".toList, 2⟩], apples]
    requests[3]? = some apples ∧
      ∃ result after, (Notes.session {} requests)[3]? = some (result, after) ∧
        after.warnings =
          [⟨"fourty".toList, 0, some "forty".toList⟩, ⟨"apples".toList, 0, none⟩] ∧
        result.map (·.mapError Fault.site) =
          some (.error (.notANumber "apples".toList, some 0)) := by
  intro apples requests
  have h : requests[3]? = some apples := rfl
  obtain ⟨result, after, hsession, hwarnings, hresult⟩ := analyses_only_append.2 requests 3 apples h
  exact ⟨h, result, after, hsession, hwarnings.trans (by decide +kernel), hresult.trans rfl⟩

end WordArithmetic
