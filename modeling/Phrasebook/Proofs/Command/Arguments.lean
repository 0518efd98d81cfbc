import Phrasebook.Command.Arguments
import Phrasebook.Proofs.Tree.Subtree

/-!
# What reading arguments lets through

Every value that reading gives was accepted by a parameter of its name, and no required parameter
is without value (`Usage.read_yields`). A value waits in `pending` until it is settled, so what one
argument keeps is that the parameter that waits belongs to the usage and that all settled values
were accepted (`Usage.Reading.Sound`); a whole command line keeps it by induction. The other way
round, an option with its value behind an equals sign is read as just that, when nothing is pending
(`Usage.readArgument_attached`).
-/

namespace Phrasebook

/-! ## What holds of an outcome that is no error -/

def Yields {ε α : Type} (good : α → Prop) : Except ε α → Prop
  | .ok value => good value
  | .error _ => True

namespace Yields

variable {ε α β : Type} {good : α → Prop} {better : β → Prop}

theorem bind {outcome : Except ε α} {next : α → Except ε β} (first : Yields good outcome)
    (second : ∀ value, good value → Yields better (next value)) :
    Yields better (outcome >>= next) := by
  cases outcome with
  | error error => exact trivial
  | ok value => exact second value first

theorem map {outcome : Except ε α} {change : α → β} (first : Yields good outcome)
    (second : ∀ value, good value → better (change value)) :
    Yields better (outcome.map change) := by
  cases outcome with
  | error error => exact trivial
  | ok value => exact second value first

/-- What every step keeps is kept by a row of steps. -/
theorem foldlM {step : α → β → Except ε α} (kept : ∀ state input, good state →
    Yields good (step state input)) (inputs : List β) {start : α} (holds : good start) :
    Yields good (inputs.foldlM step start) := by
  induction inputs generalizing start with
  | nil => exact holds
  | cons input rest ih =>
      rw [List.foldlM_cons]
      exact (kept start input holds).bind fun _ next => ih next

theorem of_eq_ok {outcome : Except ε α} {value : α} (yields : Yields good outcome)
    (done : outcome = .ok value) : good value := by
  subst done
  exact yields

end Yields

namespace Usage

variable {usage : Usage} {parameter : Parameter} {reading : Reading}

/-- Whether a parameter with the name of an entry accepts its value. -/
def Accepts (usage : Usage) (entry : String × String) : Prop :=
  ∃ parameter ∈ usage.parameters, parameter.name = entry.1 ∧ parameter.refuse entry.2 = none

/-- All values settled so far are accepted, and the parameter that waits is one of the usage. -/
structure Reading.Sound (usage : Usage) (reading : Reading) : Prop where
  accepted : ∀ entry ∈ reading.arguments.given, usage.Accepts entry
  known : ∀ pending ∈ reading.pending, pending.1 ∈ usage.parameters

theorem Reading.Sound.start (usage : Usage) : Reading.start.Sound usage := ⟨nofun, nofun⟩

theorem Reading.Sound.wait (sound : reading.Sound usage) (member : parameter ∈ usage.parameters)
    (values : List String) (waiting : Bool) :
    { reading with pending := some (parameter, values), waiting := waiting }.Sound usage := by
  refine ⟨sound.accepted, fun pending here => ?_⟩
  obtain rfl : (parameter, values) = pending := Option.some.inj here
  exact member

theorem mem_parameters_of_option (member : parameter ∈ usage.options) :
    parameter ∈ usage.parameters :=
  List.mem_append_left _ member

theorem mem_parameters_of_operand {operand : Parameter} (takes : usage.operand = some operand) :
    operand ∈ usage.parameters :=
  List.mem_append_right _ (by simp [takes])

/-! ## One argument -/

theorem settleValues_yields {arguments : Arguments}
    (accepted : ∀ entry ∈ arguments.given, usage.Accepts entry)
    (member : parameter ∈ usage.parameters) (values : List String) :
    Yields (fun result => ∀ entry ∈ result.given, usage.Accepts entry)
      (settleValues arguments parameter values) := by
  unfold settleValues
  split
  · trivial
  · cases refused : values.findSome? parameter.refuse with
    | some error => trivial
    | none =>
        intro entry there
        rcases List.mem_append.mp there with before | new
        · exact accepted entry before
        · obtain ⟨value, inside, rfl⟩ := List.mem_map.mp new
          exact ⟨parameter, member, rfl, List.findSome?_eq_none_iff.mp refused value inside⟩

theorem settle_yields (sound : reading.Sound usage) :
    Yields (fun after : Reading => after.Sound usage ∧ after.pending = none) (settle reading) := by
  unfold settle
  split
  · rename_i idle
    exact ⟨⟨sound.accepted, by simp [idle]⟩, idle⟩
  · trivial
  · rename_i parameter values _ waits
    have known := sound.known _ waits
    exact (settleValues_yields sound.accepted known values).map fun _ accepted =>
      ⟨⟨accepted, nofun⟩, rfl⟩

theorem give_yields (sound : reading.Sound usage) (member : parameter ∈ usage.parameters)
    (value : String) : Yields (Reading.Sound usage) (give reading parameter value) := by
  unfold give
  refine (settle_yields sound).bind fun settled done => ?_
  exact (settleValues_yields done.1.accepted member [value]).bind fun arguments accepted =>
    ⟨accepted, done.1.known⟩

theorem giveOption_yields (sound : reading.Sound usage) (member : parameter ∈ usage.parameters)
    (attached : Option String) :
    Yields (Reading.Sound usage) (giveOption reading parameter attached) := by
  unfold giveOption
  split
  · trivial
  · exact give_yields sound member ""
  · rename_i value _
    exact give_yields sound member value
  · exact (settle_yields sound).bind fun settled done => done.1.wait member [] true

theorem giveValue_yields (sound : reading.Sound usage) (value : String) :
    Yields (Reading.Sound usage) (giveValue usage reading value) := by
  unfold giveValue
  split
  · rename_i parameter values _ waits
    exact sound.wait (sound.known _ waits) _ false
  · split
    · trivial
    · rename_i operand takes
      have member := mem_parameters_of_operand takes
      split
      · split
        · exact sound.wait member _ false
        · exact (settle_yields sound).map fun settled done => done.1.wait member [value] _
      · exact sound.wait member [value] false

theorem readLong_yields (sound : reading.Sound usage) (text : List Char) :
    Yields (Reading.Sound usage) (readLong usage reading text) := by
  unfold readLong
  split
  rename_i name attached _
  split
  · rename_i parameter found
    have member := mem_parameters_of_option (List.mem_of_find?_eq_some found)
    exact giveOption_yields sound member attached
  · trivial

theorem readShort_yields (sound : reading.Sound usage) (letters : List Char) :
    Yields (Reading.Sound usage) (readShort usage reading letters) := by
  induction letters generalizing reading with
  | nil => exact sound
  | cons letter rest ih =>
      rw [readShort.eq_def]
      simp only
      split
      · trivial
      · rename_i parameter found
        have member := mem_parameters_of_option (List.mem_of_find?_eq_some found)
        split
        · exact (giveOption_yields sound member none).bind fun _ next => ih next
        · split <;> exact giveOption_yields sound member _

theorem readArgument_yields (sound : reading.Sound usage) (argument : String) :
    Yields (Reading.Sound usage) (readArgument usage reading argument) := by
  unfold readArgument
  split
  · exact giveValue_yields sound argument
  · split
    · exact ⟨sound.accepted, sound.known⟩
    · exact readLong_yields sound _
    · exact readShort_yields sound _
    · exact giveValue_yields sound argument

/-! ## A command line -/

/-- Arguments that are read hold accepted values only, and a value for each required parameter. -/
theorem read_yields (arguments : List String) :
    Yields (fun given : Arguments => (∀ entry ∈ given.given, usage.Accepts entry) ∧
      ∀ parameter ∈ usage.parameters, parameter.required → given.has parameter.name)
      (usage.read arguments) := by
  unfold read
  have all := Yields.foldlM (fun _ argument sound => readArgument_yields sound argument) arguments
    (.start usage)
  refine all.bind fun reading sound => (settle_yields sound).bind fun settled done => ?_
  split
  · trivial
  · rename_i complete
    refine ⟨done.1.accepted, fun parameter member required => ?_⟩
    simp only [List.any_eq_true, not_exists, not_and, Bool.and_eq_true, Bool.not_eq_true',
      Bool.not_eq_false] at complete
    exact complete parameter member required

/-! ## Options with their values -/

/-- A reading with nothing pending. -/
def Reading.idle (given : List (String × String)) : Reading := ⟨⟨given⟩, none, false, false⟩

variable {given : List (String × String)} {value : String}

theorem give_idle
    (fresh : parameter.arity = .repeated ∨ Arguments.has ⟨given⟩ parameter.name = false)
    (accepted : parameter.refuse value = none) :
    give (.idle given) parameter value = .ok (.idle (given ++ [(parameter.name, value)])) := by
  have settled : settleValues ⟨given⟩ parameter [value] =
      .ok ⟨given ++ [(parameter.name, value)]⟩ := by
    unfold settleValues
    rw [if_neg]
    · simp [accepted]
    · rintro ⟨single, already⟩
      rcases fresh with repeated | absent
      · exact single repeated
      · exact Bool.false_ne_true (absent.symm.trans already)
  simp only [give, settle, Reading.idle, bind, Except.bind, settled, pure, Except.pure]

theorem readArgument_long {text : String} (some : text ≠ "") :
    readArgument usage (.idle given) ("--" ++ text) = readLong usage (.idle given) text.toList := by
  obtain ⟨c, rest, shape⟩ := List.exists_cons_of_ne_nil (mt String.toList_eq_nil_iff.mp some)
  have row : ("--" ++ text).toList = '-' :: '-' :: c :: rest := by simp [shape]
  unfold readArgument
  rw [row, shape]
  rfl

theorem readArgument_attached (parameter : Parameter) (plain : '=' ∉ parameter.name.toList)
    (found : usage.options.find? (·.name == parameter.name) = some parameter)
    (takes : parameter.arity ≠ .flag)
    (fresh : parameter.arity = .repeated ∨ Arguments.has ⟨given⟩ parameter.name = false)
    (accepted : parameter.refuse value = none) :
    readArgument usage (.idle given) ("--" ++ (parameter.name ++ "=" ++ value)) =
      .ok (.idle (given ++ [(parameter.name, value)])) := by
  have row : (parameter.name ++ "=" ++ value).toList =
      parameter.name.toList ++ '=' :: value.toList := by simp
  rw [readArgument_long (by simp), row, readLong, Text.cut?_append plain]
  simp only [String.ofList_toList, found]
  rw [← give_idle fresh accepted]
  unfold giveOption
  cases arity : parameter.arity with
  | flag => exact absurd arity takes
  | single => rfl
  | repeated => rfl

theorem readArgument_flag (parameter : Parameter) (plain : '=' ∉ parameter.name.toList)
    (named : parameter.name ≠ "")
    (found : usage.options.find? (·.name == parameter.name) = some parameter)
    (takes : parameter.arity = .flag) (fresh : Arguments.has ⟨given⟩ parameter.name = false)
    (accepted : parameter.refuse "" = none) :
    readArgument usage (.idle given) ("--" ++ parameter.name) =
      .ok (.idle (given ++ [(parameter.name, "")])) := by
  have uncut : Text.cut? '=' parameter.name.toList = none := by
    rw [Option.eq_none_iff_forall_ne_some]
    rintro ⟨front, rest⟩ cut
    rw [(Text.cut?_eq_some_iff.mp cut).2] at plain
    simp at plain
  rw [readArgument_long named, readLong, uncut]
  simp only [String.ofList_toList, found]
  rw [← give_idle (.inr fresh) accepted, giveOption]
  exact takes

end Usage

namespace Arguments

variable {arguments : Arguments} {name value : String}

theorem mem_all_iff : value ∈ arguments.all name ↔ (name, value) ∈ arguments.given := by
  unfold all
  constructor
  · intro inside
    obtain ⟨⟨key, other⟩, kept, rfl⟩ := List.mem_map.mp inside
    obtain ⟨given, same⟩ := List.mem_filter.mp kept
    obtain rfl : key = name := by simpa using same
    exact given
  · intro given
    exact List.mem_map.mpr ⟨(name, value), List.mem_filter.mpr ⟨given, by simp⟩, rfl⟩

theorem exists_first?_iff : (∃ value, arguments.first? name = some value) ↔ arguments.has name := by
  rw [← Option.isSome_iff_exists, first?, List.isSome_head?]
  simp [all, has, List.filter_eq_nil_iff]

end Arguments

end Phrasebook
