import Phrasebook.Json.Reader
import Mathlib

/-!
# The text of an object ends itself

The reader stops right behind the brace that closes an object, and what stands behind that brace
has no part in what is read: the reader looks ahead only to place a fault. So the text of an
object can be spoken of without the text behind it (`ObjectText`), and reading from a brace on
succeeds exactly where such a text begins (`readFirst_brace_iff`).

The invariant that carries this is `State.inObject`: the outermost open bracket is that of an
object. As long as it holds, the document cannot end before the character that is read, and it
cannot end with the text.
-/

namespace Phrasebook.Json

/-- The whole of a text is the text of one object. -/
structure ObjectText (text : List Char) (object : Json) : Prop where
  brace : text.head? = some '{'
  read : readFirst text = .ok (object, [])

namespace Reader

/-! ## What is read does not depend on the text behind it -/

/-- A reading step whose success does not depend on the rest of the text. -/
def IgnoresRest {α : Type} (read : List Char → Except Fault α) : Prop :=
  ∀ value rest, read rest = .ok value → ∀ other, read other = .ok value

theorem openNested_ignoresRest (mode : Mode) (stack : List Frame) :
    IgnoresRest (openNested mode stack) := by
  intro outcome rest success other
  unfold openNested at *
  split_ifs at * with deep
  exact success

theorem beginValue_ignoresRest (stack : List Frame) (c : Char) :
    IgnoresRest (beginValue stack c) := by
  intro outcome rest success other
  unfold beginValue at *
  split_ifs at * with quote bracket brace
  · exact success
  · exact openNested_ignoresRest _ _ _ _ success _
  · exact openNested_ignoresRest _ _ _ _ success _
  · exact success
  · exact success
  · exact success
  · exact success
  · cases digit : Numeral.ofDigit? c with
    | none => simp [digit] at success
    | some numeral => simpa [digit] using success

theorem punctuate_ignoresRest (state : State) (c : Char) : IgnoresRest (punctuate state c) := by
  intro outcome rest success other
  obtain ⟨mode, stack⟩ := state
  cases mode <;> simp only [punctuate, beginName] at success ⊢
  all_goals first
    | exact beginValue_ignoresRest _ _ _ _ success _
    | split_ifs at * <;> first
      | exact success
      | exact beginValue_ignoresRest _ _ _ _ success _

theorem stepBetween_ignoresRest (state : State) (c : Char) :
    IgnoresRest (stepBetween state c) := by
  intro outcome rest success other
  unfold stepBetween at *
  split_ifs at * with blank
  · exact success
  · exact punctuate_ignoresRest _ _ _ _ success _

theorem stepQuoted_ignoresRest (quoted : Quoted) (stack : List Frame) (c : Char) :
    IgnoresRest (stepQuoted quoted stack c) := by
  intro outcome rest success other
  unfold stepQuoted at *
  split_ifs at * <;> exact success

theorem stepEscape_ignoresRest (quoted : Quoted) (stack : List Frame) (c : Char) :
    IgnoresRest (stepEscape quoted stack c) := by
  intro outcome rest success other
  unfold stepEscape at *
  split_ifs at * with unicode
  · exact success
  · cases escape : escaped? c with
    | none => simp [escape] at success
    | some character => simpa [escape] using success

theorem finishHex_ignoresRest (quoted : Quoted) (stack : List Frame) (high : Option Nat)
    (code : Nat) : IgnoresRest (finishHex quoted stack high code) := by
  intro outcome rest success other
  unfold finishHex at *
  cases high <;> simp only at success ⊢ <;> split_ifs at * <;> exact success

theorem stepHex_ignoresRest (quoted : Quoted) (stack : List Frame) (high : Option Nat)
    (left code : Nat) (c : Char) : IgnoresRest (stepHex quoted stack high left code c) := by
  intro outcome rest success other
  unfold stepHex at *
  cases digit : hexValue? c with
  | none =>
      simp only [digit] at success
      split_ifs at success
  | some value =>
      simp only [digit] at success ⊢
      split_ifs at * with last
      · exact finishHex_ignoresRest _ _ _ _ _ _ success _
      · exact success

theorem addExponent_ignoresRest (significand : Nat) (exponent : Int) (negative : Bool)
    (read : Nat) (c : Char) :
    IgnoresRest (Numeral.addExponent significand exponent negative read c) := by
  intro outcome rest success other
  simp only [Numeral.addExponent] at success ⊢
  split_ifs at * <;> exact success

theorem numeralStep_ignoresRest (numeral : Numeral) (c : Char) :
    IgnoresRest (numeral.step c) := by
  intro outcome rest success other
  have exponent : ∀ significand exponent negative read,
      some <$> Numeral.addExponent significand exponent negative read c rest = .ok outcome →
      some <$> Numeral.addExponent significand exponent negative read c other = .ok outcome := by
    intro significand exponent negative read success
    cases longer : Numeral.addExponent significand exponent negative read c rest with
    | error fault => simp [longer] at success
    | ok next =>
        rw [addExponent_ignoresRest _ _ _ _ _ _ _ longer other]
        simpa [longer] using success
  cases numeral <;> simp only [Numeral.step, Numeral.misspelled] at success ⊢
  case sign =>
    cases digit : Numeral.ofDigit? c with
    | none => simp [digit] at success
    | some first => simpa [digit] using success
  all_goals
    try split_ifs at *
    all_goals first
      | exact success
      | exact exponent _ _ _ _ success

theorem numeralToJson_ignoresRest (numeral : Numeral) (negative : Bool) :
    IgnoresRest (numeral.toJson negative) := by
  have scaled : ∀ significand exponent,
      IgnoresRest (Numeral.scaled negative significand exponent) := by
    intro significand exponent value rest success other
    unfold Numeral.scaled at *
    cases double : Numeral.toDouble? negative significand exponent with
    | none => simp [double] at success
    | some x => simpa [double] using success
  intro value rest success other
  -- The text behind a number is looked at only where the number fails.
  cases numeral <;> simp only [Numeral.toJson, Numeral.unfinished] at success ⊢
  all_goals first
    | exact success
    | exact scaled _ _ _ _ success _
    | cases success

/-- Reading a character gives the same in front of every text, as long as it succeeds. -/
theorem step_ignoresRest (state : State) (c : Char) : IgnoresRest (step state c) := by
  intro outcome rest success other
  obtain ⟨mode, stack⟩ := state
  cases mode
  case quoted text => exact stepQuoted_ignoresRest _ _ _ _ _ success _
  case escape text => exact stepEscape_ignoresRest _ _ _ _ _ success _
  case hex text high left code => exact stepHex_ignoresRest _ _ _ _ _ _ _ _ success _
  case secondEscape text high =>
      simp only [step] at success ⊢
      split_ifs at *
      exact success
  case secondMark text high =>
      simp only [step] at success ⊢
      split_ifs at *
      exact success
  case word left value =>
      cases left <;> simp only [step] at success ⊢
      · exact success
      · split_ifs at * <;> exact success
  case number negative numeral =>
      simp only [step] at success ⊢
      cases longer : numeral.step c rest with
      | error fault => simp [longer, bind, Except.bind] at success
      | ok next =>
          rw [numeralStep_ignoresRest _ _ _ _ longer other]
          rw [longer] at success
          cases next with
          | some numeral => exact success
          | none =>
              -- The number has ended, so the character is read between parts.
              simp only [bind, Except.bind] at success ⊢
              cases document : numeral.toJson negative (c :: rest) with
              | error fault => simp [document] at success
              | ok value =>
                  rw [numeralToJson_ignoresRest _ _ _ _ document (c :: other)]
                  simp only [document] at success ⊢
                  cases behind : behindValue? value stack with
                  | none => simpa [behind] using success
                  | some state =>
                      simp only [behind] at success ⊢
                      exact stepBetween_ignoresRest _ _ _ _ success _
  all_goals exact stepBetween_ignoresRest _ _ _ _ success _

/-! ## The outermost bracket -/

/-- Whether an open bracket is that of an object. -/
def Frame.isObject : Frame → Bool
  | .array _ => false
  | .object _ _ => true

/-- Whether a string is the name of a member. -/
def Role.isName : Role → Bool
  | .value => false
  | .name _ => true

/-- Whether a mode is that of an object which is not on the stack. -/
def Mode.inObject : Mode → Bool
  | .firstName => true
  | .name _ => true
  | .colon _ _ => true
  | .behindMember _ => true
  | .quoted text => text.role.isName
  | .escape text => text.role.isName
  | .hex text _ _ _ => text.role.isName
  | .secondEscape text _ => text.role.isName
  | .secondMark text _ => text.role.isName
  | _ => false

/-- Whether the outermost bracket of a stack is that of an object; `inner` says it of what is
open above the stack. -/
def outermost (inner : Bool) : List Frame → Bool
  | [] => inner
  | frame :: stack => outermost frame.isObject stack

/-- Whether the outermost open bracket is that of an object. -/
def State.inObject (state : State) : Bool := outermost state.mode.inObject state.stack

/-- What may happen while the outermost open bracket is that of an object. -/
def Outcome.InObject : Outcome → Prop
  | .next state => state.inObject = true
  | .done value => value.isObject = true
  | .doneBefore _ => False

theorem outermost_of_false {stack : List Frame} (within : outermost false stack = true)
    (inner : Bool) : outermost inner stack = true := by
  cases stack with
  | nil => cases within
  | cons frame stack => exact within

theorem finish_inObject {value : Json} {stack : List Frame}
    (within : outermost value.isObject stack = true) : (finish value stack).InObject := by
  cases stack with
  | nil => exact within
  | cons frame stack => cases frame <;> exact within

theorem beginValue_inObject {stack : List Frame} {c : Char} {rest : List Char}
    {outcome : Outcome} (success : beginValue stack c rest = .ok outcome)
    (within : outermost false stack = true) : outcome.InObject := by
  unfold beginValue openNested at success
  split_ifs at success
  -- Everything but a number is what comes next above the same stack.
  all_goals first
    | cases success
      exact outermost_of_false within _
    | skip
  cases digit : Numeral.ofDigit? c with
  | none => simp [digit] at success
  | some numeral =>
      simp only [digit, Except.ok.injEq] at success
      subst success
      exact within

/-- Whether a mode stands between the parts of a document. -/
def Mode.isBetween : Mode → Bool
  | .value => true
  | .firstItem => true
  | .item _ => true
  | .behindItem _ => true
  | .firstName => true
  | .name _ => true
  | .colon _ _ => true
  | .behindMember _ => true
  | _ => false

theorem stepBetween_inObject {state : State} {c : Char} {rest : List Char} {outcome : Outcome}
    (success : stepBetween state c rest = .ok outcome) (between : state.mode.isBetween = true)
    (within : state.inObject = true) : outcome.InObject := by
  unfold stepBetween at success
  split_ifs at success with blank
  · cases success
    exact within
  obtain ⟨mode, stack⟩ := state
  cases mode <;> first
    | cases between
      done
    | simp only [punctuate, beginName] at success
      try split_ifs at success
      all_goals first
        | exact beginValue_inObject success within
        | cases success
          first
            | exact within
            | exact finish_inObject within

theorem stepQuoted_inObject {text : Quoted} {stack : List Frame} {c : Char} {rest : List Char}
    {outcome : Outcome} (success : stepQuoted text stack c rest = .ok outcome)
    (within : outermost text.role.isName stack = true) : outcome.InObject := by
  unfold stepQuoted at success
  split_ifs at success
  · obtain ⟨role, chars⟩ := text
    cases success
    cases role with
    | value => exact finish_inObject within
    | name members => exact within
  · cases success
    exact within
  · cases success
    exact within

theorem stepEscape_inObject {text : Quoted} {stack : List Frame} {c : Char} {rest : List Char}
    {outcome : Outcome} (success : stepEscape text stack c rest = .ok outcome)
    (within : outermost text.role.isName stack = true) : outcome.InObject := by
  unfold stepEscape at success
  split_ifs at success
  · cases success
    exact within
  · cases escape : escaped? c with
    | none => simp [escape] at success
    | some character =>
        simp only [escape, Except.ok.injEq] at success
        subst success
        exact within

theorem stepHex_inObject {text : Quoted} {stack : List Frame} {high : Option Nat}
    {left code : Nat} {c : Char} {rest : List Char} {outcome : Outcome}
    (success : stepHex text stack high left code c rest = .ok outcome)
    (within : outermost text.role.isName stack = true) : outcome.InObject := by
  unfold stepHex at success
  cases digit : hexValue? c with
  | none =>
      simp only [digit] at success
      split_ifs at success
  | some value =>
      simp only [digit] at success
      split_ifs at success
      · unfold finishHex at success
        cases high <;> simp only at success <;> split_ifs at success <;> cases success <;>
          exact within
      · cases success
        exact within

/-- A character that is read inside an object ends the document only as that object. -/
theorem step_inObject {state : State} {c : Char} {rest : List Char} {outcome : Outcome}
    (success : step state c rest = .ok outcome) (within : state.inObject = true) :
    outcome.InObject := by
  obtain ⟨mode, stack⟩ := state
  cases mode
  case quoted text => exact stepQuoted_inObject success within
  case escape text => exact stepEscape_inObject success within
  case hex text high left code => exact stepHex_inObject success within
  case secondEscape text high =>
      simp only [step] at success
      split_ifs at success
      cases success
      exact within
  case secondMark text high =>
      simp only [step] at success
      split_ifs at success
      cases success
      exact within
  case word left value =>
      have closed := finish_inObject (outermost_of_false within value.isObject)
      cases left <;> simp only [step] at success
      · cases success
        exact closed
      · split_ifs at success <;> cases success
        · exact closed
        · exact within
  case number negative numeral =>
      simp only [step, bind, Except.bind] at success
      split at success
      · cases success
      split at success
      · cases success
        exact within
      split at success
      · cases success
      -- The number has ended, so the bracket around it takes the character.
      rename_i value _
      cases stack with
      | nil => cases within
      | cons frame stack =>
          cases frame <;> exact stepBetween_inObject success rfl within
  all_goals exact stepBetween_inObject success rfl within

/-! ## Reading an object -/

/-- A document that is read inside an object is that object. It ends with a character of the
text, and reading it takes the same characters in front of every other text. -/
theorem run_inObject {state : State} {text rest : List Char} {value : Json}
    (success : run state text = .ok (value, rest)) (within : state.inObject = true) :
    value.isObject = true ∧
      ∃ used, text = used ++ rest ∧ ∀ other, run state (used ++ other) = .ok (value, other) := by
  induction text generalizing state with
  | nil =>
      -- Only a number can end with the text, and none is read outside of all brackets.
      obtain ⟨mode, stack⟩ := state
      cases mode <;> simp only [run, atEnd] at success
      case number negative numeral =>
          simp only [bind, Except.bind] at success
          split at success
          · cases success
          cases stack with
          | nil => cases within
          | cons frame stack => cases frame <;> cases success
      all_goals cases success
  | cons c text ih =>
      simp only [run] at success
      cases taken : step state c text with
      | error fault => simp [taken] at success
      | ok outcome =>
          have kept := step_inObject taken within
          have same := step_ignoresRest state c outcome text taken
          cases outcome with
          | next state =>
              simp only [taken] at success
              obtain ⟨object, used, split, again⟩ := ih success kept
              -- The step took `c` in front of `text`; it takes it in front of any text.
              refine ⟨object, c :: used, by rw [split]; rfl, fun other => ?_⟩
              simp only [List.cons_append, run, same (used ++ other)]
              exact again other
          | done result =>
              simp only [taken, Except.ok.injEq, Prod.mk.injEq] at success
              obtain ⟨rfl, rfl⟩ := success
              refine ⟨kept, [c], rfl, fun other => ?_⟩
              simp [run, same other]
          | doneBefore result => exact kept.elim

end Reader

/-- Behind its brace an object is read from the state in which a name or the end may come. -/
theorem readFirst_brace (inner : List Char) :
    readFirst ('{' :: inner) = Reader.run ⟨.firstName, []⟩ inner := rfl

/-- The text of an object is read in front of every other text, which is left over. -/
theorem ObjectText.readFirst_append {text : List Char} {object : Json}
    (spelled : ObjectText text object) (rest : List Char) :
    readFirst (text ++ rest) = .ok (object, rest) := by
  obtain ⟨brace, read⟩ := spelled
  obtain ⟨inner, rfl⟩ := List.head?_eq_some_iff.mp brace
  rw [readFirst_brace] at read
  obtain ⟨-, used, split, again⟩ := Reader.run_inObject read rfl
  rw [List.append_nil] at split
  rw [List.cons_append, readFirst_brace, split, again rest]

/-- A text begins with at most one object. -/
theorem ObjectText.unique {text otherText rest otherRest : List Char} {object other : Json}
    (spelled : ObjectText text object) (otherSpelled : ObjectText otherText other)
    (same : text ++ rest = otherText ++ otherRest) : object = other ∧ rest = otherRest := by
  have read := spelled.readFirst_append rest
  rw [same, otherSpelled.readFirst_append otherRest] at read
  cases read
  exact ⟨rfl, rfl⟩

/-- What is read from the text of an object is an object. -/
theorem ObjectText.isObject {text : List Char} {object : Json}
    (spelled : ObjectText text object) : object.isObject = true := by
  obtain ⟨brace, read⟩ := spelled
  obtain ⟨inner, rfl⟩ := List.head?_eq_some_iff.mp brace
  rw [readFirst_brace] at read
  exact (Reader.run_inObject read rfl).1

/-- Reading from a brace on succeeds exactly where the text of an object begins. -/
theorem readFirst_brace_iff {text rest : List Char} {value : Json}
    (brace : text.head? = some '{') :
    readFirst text = .ok (value, rest) ↔
      ∃ object, ObjectText object value ∧ text = object ++ rest := by
  constructor
  · intro success
    obtain ⟨inner, rfl⟩ := List.head?_eq_some_iff.mp brace
    rw [readFirst_brace] at success
    obtain ⟨-, used, rfl, again⟩ := Reader.run_inObject success rfl
    refine ⟨'{' :: used, ⟨rfl, ?_⟩, rfl⟩
    rw [readFirst_brace]
    simpa using again []
  · rintro ⟨object, spelled, rfl⟩
    exact spelled.readFirst_append rest

end Phrasebook.Json
