import Phrasebook.Json.Reader
import Phrasebook.Proofs.Table

/-!
# What a reader makes

A document that is read from a text is put together from the values of single words, numbers and
strings, by arrays, and by objects whose members are in order. A property that all of these steps
keep therefore holds of every document that is read (`Hereditary.of_read`).

The invariant is that everything the machine has finished so far has the property: the items and
members in its mode, and those in the brackets that are still open.
-/

namespace Phrasebook

namespace Json

/-- A document that is neither an array nor an object. -/
def isScalar : Json → Bool
  | .array _ => false
  | .object _ => false
  | _ => true

/-- A property of documents that everything a reader makes has if its parts have it. -/
structure Hereditary (holds : Json → Prop) : Prop where
  scalar : ∀ json, json.isScalar = true → holds json
  array : ∀ items, (∀ item ∈ items, holds item) → holds (.array items)
  object : ∀ members : List (String × Json), (∀ member ∈ members, holds member.2) →
    holds (.ofMembers members)

/-- A property that everything but objects has needs a proof for objects only. -/
theorem Hereditary.of_objects {holds : Json → Prop}
    (other : ∀ json, json.isObject = false → holds json)
    (object : ∀ members : List (String × Json), (∀ member ∈ members, holds member.2) →
      holds (.ofMembers members)) : Hereditary holds := by
  refine ⟨fun json scalar => other json ?_, fun items _ => other (.array items) rfl, object⟩
  cases json with
  | object members => cases scalar
  | _ => rfl

namespace Reader

/-! ## What the machine has finished -/

def Frame.Holds (holds : Json → Prop) : Frame → Prop
  | .array items => ∀ item ∈ items, holds item
  | .object members _ => ∀ member ∈ members, holds member.2

def Role.Holds (holds : Json → Prop) : Role → Prop
  | .value => True
  | .name members => ∀ member ∈ members, holds member.2

def Mode.Holds (holds : Json → Prop) : Mode → Prop
  | .item items => ∀ item ∈ items, holds item
  | .behindItem items => ∀ item ∈ items, holds item
  | .name members => ∀ member ∈ members, holds member.2
  | .colon members _ => ∀ member ∈ members, holds member.2
  | .behindMember members => ∀ member ∈ members, holds member.2
  | .quoted text => text.role.Holds holds
  | .escape text => text.role.Holds holds
  | .hex text _ _ _ => text.role.Holds holds
  | .secondEscape text _ => text.role.Holds holds
  | .secondMark text _ => text.role.Holds holds
  | .word _ spelled => holds spelled
  | .value => True
  | .firstItem => True
  | .firstName => True
  | .number _ _ => True

/-- Everything that is finished in a state has a property. -/
structure State.Holds (holds : Json → Prop) (state : State) : Prop where
  mode : state.mode.Holds holds
  stack : ∀ frame ∈ state.stack, frame.Holds holds

def Outcome.Holds (holds : Json → Prop) : Outcome → Prop
  | .next state => state.Holds holds
  | .done value => holds value
  | .doneBefore value => holds value

variable {holds : Json → Prop} {stack : List Frame} {c : Char} {rest : List Char}
  {outcome : Outcome}

theorem behindValue?_holds {value : Json} {state : State} (finished : holds value)
    (around : ∀ frame ∈ stack, frame.Holds holds) (behind : behindValue? value stack = some state) :
    state.Holds holds := by
  cases stack with
  | nil => cases behind
  | cons frame stack =>
      obtain ⟨within, outside⟩ := List.forall_mem_cons.mp around
      cases frame <;> cases behind <;>
        exact ⟨List.forall_mem_cons.mpr ⟨finished, within⟩, outside⟩

theorem finish_holds {value : Json} (finished : holds value)
    (around : ∀ frame ∈ stack, frame.Holds holds) : (finish value stack).Holds holds := by
  unfold finish
  cases behind : behindValue? value stack with
  | none => exact finished
  | some state => exact behindValue?_holds finished around behind

theorem closeArray_holds (hereditary : Hereditary holds) {items : List Json}
    (finished : ∀ item ∈ items, holds item) (around : ∀ frame ∈ stack, frame.Holds holds) :
    (closeArray items stack).Holds holds := by
  refine finish_holds (hereditary.array _ fun item inside => ?_) around
  exact finished item (List.mem_reverse.mp inside)

theorem closeObject_holds (hereditary : Hereditary holds) {members : List (String × Json)}
    (finished : ∀ member ∈ members, holds member.2) (around : ∀ frame ∈ stack, frame.Holds holds) :
    (closeObject members stack).Holds holds := by
  refine finish_holds (hereditary.object _ fun member inside => ?_) around
  exact finished member (List.mem_reverse.mp inside)

theorem finishQuoted_holds (hereditary : Hereditary holds) {text : Quoted}
    (finished : text.role.Holds holds) (around : ∀ frame ∈ stack, frame.Holds holds) :
    (finishQuoted text stack).Holds holds := by
  obtain ⟨role, chars⟩ := text
  cases role with
  | value => exact finish_holds (hereditary.scalar _ rfl) around
  | name members => exact ⟨finished, around⟩

/-! ## One character -/

theorem beginValue_holds (hereditary : Hereditary holds)
    (around : ∀ frame ∈ stack, frame.Holds holds)
    (success : beginValue stack c rest = .ok outcome) : outcome.Holds holds := by
  unfold beginValue openNested at success
  split_ifs at success
  all_goals first
    | cases success
      exact ⟨trivial, around⟩
    | cases success
      exact ⟨hereditary.scalar _ rfl, around⟩
    | skip
  cases digit : Numeral.ofDigit? c with
  | none => simp [digit] at success
  | some numeral =>
      simp only [digit, Except.ok.injEq] at success
      subst success
      exact ⟨trivial, around⟩

theorem beginName_holds {members : List (String × Json)}
    (finished : ∀ member ∈ members, holds member.2) (around : ∀ frame ∈ stack, frame.Holds holds)
    (success : beginName members stack c rest = .ok outcome) : outcome.Holds holds := by
  unfold beginName at success
  split_ifs at success
  cases success
  exact ⟨finished, around⟩

theorem stepBetween_holds (hereditary : Hereditary holds) {state : State}
    (good : state.Holds holds) (success : stepBetween state c rest = .ok outcome) :
    outcome.Holds holds := by
  obtain ⟨mode, stack⟩ := state
  obtain ⟨finished, around⟩ := good
  -- A bracket that opens takes what is finished in its mode to the stack.
  have opened : ∀ frame : Frame, frame.Holds holds →
      ∀ other ∈ frame :: stack, other.Holds holds := by
    intro frame within
    exact List.forall_mem_cons.mpr ⟨within, around⟩
  have nothing : ∀ item ∈ ([] : List Json), holds item := nofun
  have noMember : ∀ member ∈ ([] : List (String × Json)), holds member.2 := nofun
  unfold stepBetween at success
  split_ifs at success with blank
  · cases success
    exact ⟨finished, around⟩
  cases mode <;> simp only [punctuate] at success <;> try split_ifs at success
  all_goals first
    | exact beginValue_holds hereditary around success
    | exact beginValue_holds hereditary (opened (.array []) nothing) success
    | exact beginValue_holds hereditary (opened (.array _) finished) success
    | exact beginName_holds noMember around success
    | exact beginName_holds finished around success
    | cases success
      first
        | exact closeArray_holds hereditary nothing around
        | exact closeArray_holds hereditary finished around
        | exact closeObject_holds hereditary noMember around
        | exact closeObject_holds hereditary finished around
        | exact ⟨trivial, opened (.object _ _) finished⟩
        | exact ⟨finished, around⟩

theorem stepQuoted_holds (hereditary : Hereditary holds) {text : Quoted}
    (finished : text.role.Holds holds) (around : ∀ frame ∈ stack, frame.Holds holds)
    (success : stepQuoted text stack c rest = .ok outcome) : outcome.Holds holds := by
  unfold stepQuoted at success
  split_ifs at success <;> cases success
  · exact finishQuoted_holds hereditary finished around
  · exact ⟨finished, around⟩
  · exact ⟨finished, around⟩

theorem stepEscape_holds {text : Quoted} (finished : text.role.Holds holds)
    (around : ∀ frame ∈ stack, frame.Holds holds)
    (success : stepEscape text stack c rest = .ok outcome) : outcome.Holds holds := by
  unfold stepEscape at success
  split_ifs at success
  · cases success
    exact ⟨finished, around⟩
  · cases escape : escaped? c with
    | none => simp [escape] at success
    | some character =>
        simp only [escape, Except.ok.injEq] at success
        subst success
        exact ⟨finished, around⟩

theorem stepHex_holds {text : Quoted} (finished : text.role.Holds holds)
    (around : ∀ frame ∈ stack, frame.Holds holds) {high : Option Nat} {left code : Nat}
    (success : stepHex text stack high left code c rest = .ok outcome) :
    outcome.Holds holds := by
  unfold stepHex at success
  cases digit : hexValue? c with
  | none =>
      simp only [digit] at success
      split_ifs at success
  | some value =>
      simp only [digit] at success
      split_ifs at success
      · unfold finishHex at success
        cases high <;> simp only at success <;> split_ifs at success <;> cases success <;>
          exact ⟨finished, around⟩
      · cases success
        exact ⟨finished, around⟩

theorem toJson_isScalar {numeral : Numeral} {negative : Bool} {value : Json}
    (success : numeral.toJson negative rest = .ok value) : value.isScalar = true := by
  have scaled : ∀ {significand exponent},
      Numeral.scaled negative significand exponent rest = .ok value → value.isScalar = true := by
    intro significand exponent success
    unfold Numeral.scaled at success
    split at success <;> cases success
    rfl
  have whole : ∀ significand, (Numeral.wholeNumber negative significand).isScalar = true := by
    intro significand
    unfold Numeral.wholeNumber
    split_ifs <;> rfl
  cases numeral <;> simp only [Numeral.toJson, Numeral.unfinished] at success <;> first
    | exact scaled success
    | cases success
      exact whole _
    | cases success
      done
    | cases success
      rfl

/-- Reading a character keeps the property of everything that is finished. -/
theorem step_holds (hereditary : Hereditary holds) {state : State} (good : state.Holds holds)
    (success : step state c rest = .ok outcome) : outcome.Holds holds := by
  obtain ⟨mode, stack⟩ := state
  obtain ⟨finished, around⟩ := good
  cases mode
  case quoted text => exact stepQuoted_holds hereditary finished around success
  case escape text => exact stepEscape_holds finished around success
  case hex text high left code => exact stepHex_holds finished around success
  case secondEscape text high =>
      simp only [step] at success
      split_ifs at success
      cases success
      exact ⟨finished, around⟩
  case secondMark text high =>
      simp only [step] at success
      split_ifs at success
      cases success
      exact ⟨finished, around⟩
  case word left spelled =>
      cases left <;> simp only [step] at success
      · cases success
        exact finish_holds finished around
      · split_ifs at success <;> cases success
        · exact finish_holds finished around
        · exact ⟨finished, around⟩
  case number negative numeral =>
      simp only [step, bind, Except.bind] at success
      split at success
      · cases success
      split at success
      · cases success
        exact ⟨trivial, around⟩
      split at success
      · cases success
      -- The number has ended, and what is around it takes the character.
      rename_i value document
      have scalar := hereditary.scalar _ (toJson_isScalar document)
      split at success
      · rename_i behind found
        exact stepBetween_holds hereditary (behindValue?_holds scalar around found) success
      · cases success
        exact scalar
  all_goals exact stepBetween_holds hereditary ⟨finished, around⟩ success

/-! ## A whole document -/

theorem run_holds (hereditary : Hereditary holds) {state : State} (good : state.Holds holds)
    {text left : List Char} {value : Json} (success : run state text = .ok (value, left)) :
    holds value := by
  induction text generalizing state with
  | nil =>
      obtain ⟨mode, stack⟩ := state
      cases mode <;> simp only [run, atEnd] at success
      case number negative numeral =>
          simp only [bind, Except.bind] at success
          split at success
          · cases success
          rename_i number document
          split at success <;> cases success
          exact hereditary.scalar _ (toJson_isScalar document)
      all_goals cases success
  | cons c text ih =>
      simp only [run] at success
      cases taken : step state c text with
      | error fault => simp [taken] at success
      | ok outcome =>
          have kept := step_holds hereditary good taken
          cases outcome with
          | next state =>
              simp only [taken] at success
              exact ih kept success
          | done result =>
              simp only [taken, Except.ok.injEq, Prod.mk.injEq] at success
              exact success.1 ▸ kept
          | doneBefore result =>
              simp only [taken, Except.ok.injEq, Prod.mk.injEq] at success
              exact success.1 ▸ kept

end Reader

/-- Whatever is read has every hereditary property. -/
theorem Hereditary.of_read {holds : Json → Prop} (hereditary : Hereditary holds) {text : String}
    {json : Json} (success : read text = .ok json) : holds json := by
  unfold read readChars at success
  cases first : readFirst text.toList with
  | error fault => simp [first, bind, Except.bind, Except.mapError] at success
  | ok result =>
      obtain ⟨value, left⟩ := result
      simp only [first, bind, Except.bind, pure, Except.pure] at success
      split at success <;> cases success
      have start : Reader.State.start.Holds holds := ⟨trivial, nofun⟩
      exact Reader.run_holds hereditary start first

end Json

end Phrasebook
