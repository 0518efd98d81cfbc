import Phrasebook.Command.Run
import Phrasebook.Proofs.Book.Definition
import Phrasebook.Proofs.Command.Arguments
import Phrasebook.Proofs.Tree.Subtree

/-!
# What a translation prints

`translate` defines one locale in a new book and prints what the book has under the key. The book
answers from its active locale, and whether the key is missing is asked of the locale by its name;
both are the catalog just defined (`Book.activeCatalog?_withCatalog_new`), so the two never
disagree. The values are those of the last options that give their names (`binds_params`). That
the arguments say which file, key and options these are is `translateUsage_read` for what is
understood and `read_translateLine` for what can be said; the whole is
`translate_prints_rendering`.
-/

namespace Phrasebook

namespace Command

/-! ## The values of options -/

/-- An option gives a name the text behind its first equals sign. -/
def Gives (option name text : String) : Prop :=
  '=' ∉ name.toList ∧ option = name ++ "=" ++ text

/-- A text denotes the value of the document that it is, or itself if it is none. -/
inductive Denotes (text : String) : Value → Prop
  | document {json : Json} : Json.read text = .ok json → Denotes text (.ofJson json)
  | plain {error : Json.Error} : Json.read text = .error error → Denotes text (.text text)

/-- Each name has the value of the last option that gives it, and no other name has one. -/
def Binds (params : Params) (options : List String) : Prop :=
  ∀ name value, params.get? name = some value ↔
    ∃ front option back text, options = front ++ option :: back ∧ Gives option name text ∧
      Denotes text value ∧ ∀ later ∈ back, ∀ other, ¬ Gives later name other

theorem binding?_eq_some_iff {option name text : String} :
    binding? option = some (name, text) ↔ Gives option name text := by
  have row : (name ++ "=" ++ text).toList = name.toList ++ '=' :: text.toList := by simp
  unfold binding? Gives
  constructor
  · intro bound
    obtain ⟨⟨front, rest⟩, cut, same⟩ := Option.map_eq_some_iff.mp bound
    obtain ⟨rfl, rfl⟩ := Prod.mk.inj same
    obtain ⟨absent, spelled⟩ := Text.cut?_eq_some_iff.mp cut
    refine ⟨by simpa using absent, String.toList_inj.mp ?_⟩
    rw [row, spelled]
    simp
  · rintro ⟨absent, rfl⟩
    rw [row, Text.cut?_append absent]
    simp

theorem gives_of_accepted {option : String} (accepted : bindingText option = none) :
    ∃ name text, Gives option name text := by
  unfold bindingText at accepted
  cases bound : binding? option with
  | none => simp [bound] at accepted
  | some parts => exact ⟨parts.1, parts.2, binding?_eq_some_iff.mp bound⟩

theorem paramValue_eq_iff {text : String} {value : Value} :
    paramValue text = value ↔ Denotes text value := by
  unfold paramValue
  constructor
  · rintro rfl
    cases read : Json.read text with
    | ok json => exact .document read
    | error error => exact .plain read
  · intro denotes
    cases denotes with
    | document read => simp [read]
    | plain read => simp [read]

/-- The last binding of a name is that of the last option that gives it. -/
theorem find?_bindings_eq_some_iff {options : List String} {name text : String} :
    Entries.find? name (options.filterMap binding?) = some text ↔
      ∃ front option back, options = front ++ option :: back ∧ Gives option name text ∧
        ∀ later ∈ back, ∀ other, ¬ Gives later name other := by
  rw [Entries.find?_eq_some_iff]
  constructor
  · rintro ⟨front, back, row, last⟩
    obtain ⟨before, behind, rfl, -, behindRow⟩ := List.filterMap_eq_append_iff.mp row
    obtain ⟨skipped, option, after, rfl, -, bound, rfl⟩ := List.filterMap_eq_cons_iff.mp behindRow
    refine ⟨before ++ skipped, option, after, by simp, binding?_eq_some_iff.mp bound, ?_⟩
    intro later inside other gives
    have member := List.mem_filterMap.mpr ⟨later, inside, binding?_eq_some_iff.mpr gives⟩
    exact last _ member rfl
  · rintro ⟨front, option, back, rfl, gives, last⟩
    refine ⟨front.filterMap binding?, back.filterMap binding?, ?_, ?_⟩
    · rw [List.filterMap_append, List.filterMap_cons_some (binding?_eq_some_iff.mpr gives)]
    · rintro ⟨key, other⟩ member rfl
      obtain ⟨later, inside, bound⟩ := List.mem_filterMap.mp member
      exact last later inside other (binding?_eq_some_iff.mp bound)

theorem binds_params (options : List String) :
    Binds (params (options.filterMap binding?)) options := by
  intro name value
  rw [params, Table.get?_ofEntries, Entries.find?_map, Option.map_eq_some_iff]
  simp only [find?_bindings_eq_some_iff, paramValue_eq_iff]
  constructor
  · rintro ⟨text, ⟨front, option, back, row, gives, last⟩, denotes⟩
    exact ⟨front, option, back, text, row, gives, denotes, last⟩
  · rintro ⟨front, option, back, text, row, gives, denotes, last⟩
    exact ⟨text, ⟨front, option, back, row, gives, last⟩, denotes⟩

/-! ## The arguments of a translation -/

/-- A translation that is understood has a file and a key, and its options give names. -/
theorem translateUsage_read {arguments : List String} {given : Arguments}
    (understood : translateUsage.read arguments = .ok given) :
    (∃ path, given.first? "phrases" = some path) ∧ (∃ key, given.first? "key" = some key) ∧
      ∀ option ∈ given.all "param", ∃ name text, Gives option name text := by
  obtain ⟨accepted, complete⟩ := (Usage.read_yields arguments).of_eq_ok understood
  simp only [Arguments.exists_first?_iff]
  refine ⟨complete ⟨"phrases", none, .single, true, pathText⟩ ?_ rfl,
    complete ⟨"key", none, .single, true, anyText⟩ ?_ rfl, ?_⟩
  · simp [Usage.parameters, translateUsage]
  · simp [Usage.parameters, translateUsage]
  · intro option inside
    obtain ⟨parameter, member, named, taken⟩ := accepted _ (Arguments.mem_all_iff.mp inside)
    -- Only one parameter has the name.
    have binding : parameter.refuse = bindingText := by
      simp only [Usage.parameters, translateUsage, jsonFlag, Option.toList_none, List.append_nil,
        List.mem_cons, List.not_mem_nil, or_false] at member
      rcases member with rfl | rfl | rfl | rfl | rfl <;> first | rfl | simp at named
    exact gives_of_accepted (binding ▸ taken)

/-- The arguments of a translation, each option with its value behind an equals sign. -/
def translateLine (path : String) (locale : Option String) (key : String) (options : List String)
    (json : Bool) : List String :=
  ("--phrases=" ++ path) :: (locale.toList.map ("--locale=" ++ ·) ++
    ("--key=" ++ key) :: (options.map ("--param=" ++ ·) ++ if json then ["--json"] else []))

/-- What a translation is given by such arguments. -/
def translateEntries (path : String) (locale : Option String) (key : String)
    (options : List String) (json : Bool) : List (String × String) :=
  ("phrases", path) :: locale.toList.map ("locale", ·) ++ [("key", key)] ++
    options.map ("param", ·) ++ if json then [("json", "")] else []

section

open Usage (readArgument_attached readArgument_flag)

variable {given : List (String × String)}

theorem foldlM_params {options : List String}
    (give : ∀ option ∈ options, ∃ name text, Gives option name text) :
    (options.map ("--param=" ++ ·)).foldlM translateUsage.readArgument (.idle given) =
      .ok (.idle (given ++ options.map ("param", ·))) := by
  induction options generalizing given with
  | nil => simp; rfl
  | cons option rest ih =>
      obtain ⟨⟨name, text, gives⟩, others⟩ := List.forall_mem_cons.mp give
      have accepted : bindingText option = none := by
        simp [bindingText, binding?_eq_some_iff.mpr gives]
      have step : translateUsage.readArgument (.idle given) ("--param=" ++ option) =
          .ok (.idle (given ++ [("param", option)])) :=
        readArgument_attached ⟨"param", some 'p', .repeated, false, bindingText⟩
          (by decide) (by rfl) (by decide) (.inl rfl) accepted
      rw [List.map_cons, List.foldlM_cons, step]
      exact (ih others).trans (by simp)

theorem foldlM_flag (fresh : Arguments.has ⟨given⟩ "json" = false) (json : Bool) :
    (if json then ["--json"] else []).foldlM translateUsage.readArgument (.idle given) =
      .ok (.idle (given ++ if json then [("json", "")] else [])) := by
  cases json with
  | false => simp; rfl
  | true =>
      have step : translateUsage.readArgument (.idle given) "--json" =
          .ok (.idle (given ++ [("json", "")])) :=
        readArgument_flag jsonFlag (by decide) (by decide) (by rfl) rfl fresh rfl
      rw [if_pos rfl, if_pos rfl, List.foldlM_cons, step]
      rfl

theorem foldlM_translateLine {path : String} (nonempty : path ≠ "") (locale : Option String)
    (key : String) {options : List String}
    (give : ∀ option ∈ options, ∃ name text, Gives option name text) (json : Bool) :
    (translateLine path locale key options json).foldlM translateUsage.readArgument .start =
      .ok (.idle (translateEntries path locale key options json)) := by
  let named := ("phrases", path) :: locale.toList.map ("locale", ·)
  have first : translateUsage.readArgument .start ("--phrases=" ++ path) =
      .ok (.idle [("phrases", path)]) :=
    readArgument_attached ⟨"phrases", none, .single, true, pathText⟩ (by decide) (by rfl)
      (by decide) (.inr rfl) (by simpa [pathText] using nonempty)
  have second : (locale.toList.map ("--locale=" ++ ·)).foldlM translateUsage.readArgument
      (.idle [("phrases", path)]) = .ok (.idle named) := by
    cases locale with
    | none => rfl
    | some name =>
        have step : translateUsage.readArgument (.idle [("phrases", path)])
            ("--locale=" ++ name) = .ok (.idle [("phrases", path), ("locale", name)]) :=
          readArgument_attached ⟨"locale", none, .single, false, anyText⟩ (by decide) (by rfl)
            (by decide) (.inr rfl) rfl
        simp only [Option.toList_some, List.map_cons, List.map_nil, List.foldlM_cons, step]
        rfl
  have third : translateUsage.readArgument (.idle named) ("--key=" ++ key) =
      .ok (.idle (named ++ [("key", key)])) :=
    readArgument_attached ⟨"key", none, .single, true, anyText⟩ (by decide) (by rfl)
      (by decide) (.inr (by cases locale <;> rfl)) rfl
  have fresh : Arguments.has ⟨named ++ [("key", key)] ++ options.map ("param", ·)⟩ "json" =
      false := by
    cases locale <;> simp [Arguments.has, named]
  simp only [translateLine, List.foldlM_cons, List.foldlM_append, first, second, third,
    foldlM_params give, foldlM_flag fresh, bind, Except.bind]
  rfl

end

/-- Every file, locale, key and row of options can be asked for. -/
theorem read_translateLine {path : String} (nonempty : path ≠ "") (locale : Option String)
    (key : String) {options : List String}
    (give : ∀ option ∈ options, ∃ name text, Gives option name text) (json : Bool) :
    ∃ given, translateUsage.read (translateLine path locale key options json) = .ok given ∧
      given.first? "phrases" = some path ∧ given.first? "locale" = locale ∧
      given.first? "key" = some key ∧ given.all "param" = options ∧ given.has "json" = json := by
  refine ⟨⟨translateEntries path locale key options json⟩, ?_, rfl, ?_, ?_, ?_, ?_⟩
  · unfold Usage.read
    rw [foldlM_translateLine nonempty locale key give json]
    simp [bind, Except.bind, Usage.settle, Usage.Reading.idle, Usage.parameters, translateUsage,
      jsonFlag, Arguments.has, translateEntries, pure, Except.pure]
  · cases locale <;> cases json <;> simp [Arguments.first?, Arguments.all, translateEntries]
  · cases locale <;> cases json <;> simp [Arguments.first?, Arguments.all, translateEntries]
  · cases locale <;> cases json <;>
      simp [Arguments.all, translateEntries, List.filter_map, Function.comp_def]
  · cases locale <;> cases json <;> simp [Arguments.has, translateEntries]

end Command

/-! ## The book of a translation -/

namespace Book

theorem activeCatalog?_withCatalog_new (locale : String) (catalog : Catalog) :
    (new.withCatalog locale catalog).activeCatalog? = some catalog :=
  Table.get?_insert_self _ _ _

theorem get?_withCatalog_self (book : Book) (locale : String) (catalog : Catalog) :
    (book.withCatalog locale catalog).catalogs.get? locale = some catalog :=
  Table.get?_insert_self _ _ _

end Book

namespace Command

/-- What a translation prints: the line of its result, or a document with the locale, the key, the
result and the flag of a key that is missing. -/
def translationText (asJson : Bool) (locale key result : String) (isMissing : Bool) : String :=
  if asJson then
    (Json.object [("locale", .string locale), ("key", .string key), ("result", .string result),
      ("missing", .bool isMissing)]).indented ++ "\n"
  else result ++ "\n"

section

variable {read : FileReader} (request : TranslateRequest) {tree : Json} {locale : String}

theorem runTranslate_of_refused
    (parsed : PhraseFile.readTree read request.phrases = .ok tree)
    (named : request.locale.getD (PhraseFile.locale request.phrases) = locale)
    {error : DefineError} {book : Book}
    (refused : Book.new.define { locale := locale, tree := tree } = (.error error, book)) :
    runTranslate read request = .failed (defineFailure request.phrases error) := by
  unfold runTranslate
  simp only [parsed, named, refused]

/-- The outcome of a translation from the catalog of the file. -/
theorem runTranslate_of_made
    (parsed : PhraseFile.readTree read request.phrases = .ok tree)
    (named : request.locale.getD (PhraseFile.locale request.phrases) = locale)
    {catalog : Catalog}
    (made : Catalog.ofDefinition .builtIn { locale := locale, tree := tree } = .ok catalog) :
    runTranslate read request =
      let found := catalog.phrases.contains request.key
      ⟨if found then 0 else 65,
        translationText request.json locale request.key
          (catalog.translate request.key (params request.params)) !found, none⟩ := by
  have done : Book.new.define { locale := locale, tree := tree } =
      (.ok catalog.phrases.size, Book.new.withCatalog locale catalog) :=
    Book.define_eq_ok_iff.mpr ⟨catalog, made, rfl, rfl⟩
  unfold runTranslate
  simp only [parsed, named, done, Book.translate, Book.activeCatalog?_withCatalog_new,
    Book.get?_withCatalog_self, Option.any_some]
  cases request.json <;>
    simp [Outcome.printed, translationText, renderedJson, Outcome.okCode, Outcome.dataCode]

end

/-- **A translation prints the rendering of the phrase.** Every file, locale or none, key and row
of options that give values to names can be asked for, and every translation that is understood
asks for such. If a new book accepts the tree of the file, under the locale given or else that of
the file, the text that the tree has under the key compiles, and what is printed is the rendering
of the phrase in the built-in scope, each name with the value of the last option that gives it; the
exit code is 0. A key that the tree has not is printed in brackets, with the flag of a missing key
where a document is printed, and the exit code is 65. If the tree is refused, nothing is printed
and the command fails. -/
theorem translate_prints_rendering (read : FileReader) :
    (∀ path locale key options json, path ≠ "" →
      (∀ option ∈ options, ∃ name text, Gives option name text) →
      ∃ given, translateUsage.read (translateLine path locale key options json) = .ok given ∧
        given.first? "phrases" = some path ∧ given.first? "locale" = locale ∧
        given.first? "key" = some key ∧ given.all "param" = options ∧ given.has "json" = json) ∧
    ∀ arguments given, translateUsage.read arguments = .ok given →
      ∃ path key params command,
        given.first? "phrases" = some path ∧ given.first? "key" = some key ∧
        (∀ option ∈ given.all "param", ∃ name text, Gives option name text) ∧
        Binds params (given.all "param") ∧ ofArguments "translate" arguments = .ok command ∧
        ∀ locale tree, (given.first? "locale").getD (PhraseFile.locale path) = locale →
          PhraseFile.readTree read path = .ok tree →
          (∀ count book, Book.new.define ⟨locale, tree, ⟨.empty, .empty⟩⟩ = (.ok count, book) →
            ∃ texts, PhraseTree.flatten locale tree = .ok texts ∧
              (∀ text, texts.get? key = some text →
                ∃ phrase, Phrase.compile text = .ok phrase ∧
                  run read command = ⟨0, translationText (given.has "json") locale key
                    (phrase.render .builtIn params) false, none⟩) ∧
              (texts.get? key = none →
                run read command = ⟨65, translationText (given.has "json") locale key
                  ("[" ++ key ++ "]") true, none⟩)) ∧
          ∀ error book, Book.new.define ⟨locale, tree, ⟨.empty, .empty⟩⟩ = (.error error, book) →
            run read command = ⟨70, "", some (defineFailure path error)⟩ := by
  refine ⟨fun _ locale key _ json nonempty give =>
    read_translateLine nonempty locale key give json, fun arguments given understood => ?_⟩
  obtain ⟨⟨path, file⟩, ⟨key, asked⟩, give⟩ := translateUsage_read understood
  have request : translateRequest given = ⟨path, given.first? "locale", key,
      (given.all "param").filterMap binding?, given.has "json"⟩ := by
    simp [translateRequest, file, asked]
  have command : ofArguments "translate" arguments = .ok (.translate (translateRequest given)) := by
    simp [ofArguments, understood, Except.map]
  rw [request] at command
  refine ⟨path, key, params ((given.all "param").filterMap binding?), _, file, asked, give,
    binds_params _, command, ?_⟩
  intro locale tree named parsed
  constructor
  · intro count book done
    obtain ⟨catalog, made, -, -⟩ := Book.define_eq_ok_iff.mp done
    obtain ⟨texts, phrases, flattened, compiled, rfl⟩ := Catalog.ofDefinition_eq_ok_iff.mp made
    have outcome := runTranslate_of_made ⟨path, given.first? "locale", key,
      (given.all "param").filterMap binding?, given.has "json"⟩ parsed named made
    refine ⟨texts, flattened, ?_, ?_⟩
    · intro text found
      obtain ⟨phrase, form, stored⟩ := Catalog.get?_of_compilePhrases compiled found
      refine ⟨phrase, form, outcome.trans ?_⟩
      simp only [Catalog.translate, Table.contains, stored]
      rfl
    · intro absent
      have missing : phrases.get? key = none := by
        rw [Catalog.get?_compilePhrases compiled, absent]
        rfl
      refine outcome.trans ?_
      simp only [Catalog.translate, Table.contains, missing]
      rfl
  · intro error book refused
    exact runTranslate_of_refused _ parsed named refused

/-- A name given twice, the second time as a document with another equals sign in it, and options
around the file and the key; and a key that leads to an object, which is reported as missing. -/
theorem translate_prints_rendering_last_value :
    let read : FileReader := fun path =>
      if path = "texts/en.json" then
        .ok "\x7b\"b\": \x7b\"c\": \"\x7b\x7bn\x7d\x7d!\"\x7d, \"a\": \"A\"\x7d"
      else .error .notFound
    (∃ command, ofArguments "translate"
        ["-p", "n=1", "--phrases", "texts/en.json", "-pn=\"a=b\"", "--key=b.c"] = .ok command ∧
      run read command = ⟨0, "a=b!\n", none⟩) ∧
    ∃ command, ofArguments "translate"
        ["--json", "--phrases=texts/en.json", "--locale=de", "--key=b"] = .ok command ∧
      run read command = ⟨65, "\x7b\n  \"locale\": \"de\",\n  \"key\": \"b\",\n" ++
        "  \"result\": \"[b]\",\n  \"missing\": true\n\x7d\n", none⟩ := by
  intro read
  let tree : Json :=
    .object [("a", .string "A"), ("b", .object [("c", .string "\x7b\x7bn\x7d\x7d!")])]
  have understood : translateUsage.read
      ["-p", "n=1", "--phrases", "texts/en.json", "-pn=\"a=b\"", "--key=b.c"] =
      .ok ⟨[("param", "n=1"), ("phrases", "texts/en.json"), ("param", "n=\"a=b\""),
        ("key", "b.c")]⟩ := by rfl
  have alsoUnderstood : translateUsage.read
      ["--json", "--phrases=texts/en.json", "--locale=de", "--key=b"] =
      .ok ⟨[("json", ""), ("phrases", "texts/en.json"), ("locale", "de"), ("key", "b")]⟩ := by rfl
  have document : Json.read
      "\x7b\"b\": \x7b\"c\": \"\x7b\x7bn\x7d\x7d!\"\x7d, \"a\": \"A\"\x7d" = .ok tree := by cbv
  have parsed : PhraseFile.readTree read "texts/en.json" = .ok tree := by
    unfold PhraseFile.readTree
    simp only [read, if_true, document]
    rfl
  have flat : ∀ locale texts, PhraseTree.flatten locale tree = .ok texts →
      texts = .ofEntries [("a", "A"), ("b.c", "\x7b\x7bn\x7d\x7d!")] := by
    intro locale texts flattened
    exact Except.ok.inj (flattened.symm.trans (by rfl))
  constructor
  · have compiled : Phrase.compile "\x7b\x7bn\x7d\x7d!" =
        .ok (.template ⟨"", [(⟨"n", none⟩, "!")]⟩) := by cbv
    obtain ⟨path, key, params, command, file, asked, -, binds, formed, outcome⟩ :=
      (translate_prints_rendering read).2 _ _ understood
    obtain rfl : "texts/en.json" = path := Option.some.inj (Eq.trans (by rfl) file)
    obtain rfl : "b.c" = key := Option.some.inj (Eq.trans (by rfl) asked)
    obtain ⟨book, done⟩ : ∃ book, Book.new.define ⟨"en", tree, ⟨.empty, .empty⟩⟩ = (.ok 2, book) :=
      ⟨_, by rfl⟩
    obtain ⟨texts, flattened, found, -⟩ := (outcome "en" tree (by rfl) parsed).1 2 book done
    obtain rfl := flat "en" texts flattened
    obtain ⟨phrase, form, printed⟩ := found "\x7b\x7bn\x7d\x7d!" (by decide +kernel)
    obtain rfl : .template ⟨"", [(⟨"n", none⟩, "!")]⟩ = phrase :=
      Except.ok.inj (compiled.symm.trans form)
    have value : params.get? "n" = some (.text "a=b") := by
      refine (binds "n" (.text "a=b")).mpr
        ⟨["n=1"], "n=\"a=b\"", [], "\"a=b\"", by rfl, ⟨by decide, by rfl⟩, ?_, by simp⟩
      have quoted : Json.read "\"a=b\"" = .ok (.string "a=b") := by cbv
      exact .document quoted
    refine ⟨command, formed, printed.trans ?_⟩
    simp only [Phrase.render, Template.render, List.map_cons, List.map_nil, Slot.render, value]
    rfl
  · obtain ⟨path, key, params, command, file, asked, -, -, formed, outcome⟩ :=
      (translate_prints_rendering read).2 _ _ alsoUnderstood
    obtain rfl : "texts/en.json" = path := Option.some.inj (Eq.trans (by rfl) file)
    obtain rfl : "b" = key := Option.some.inj (Eq.trans (by rfl) asked)
    obtain ⟨book, done⟩ : ∃ book, Book.new.define ⟨"de", tree, ⟨.empty, .empty⟩⟩ = (.ok 2, book) :=
      ⟨_, by rfl⟩
    obtain ⟨texts, flattened, -, absent⟩ := (outcome "de" tree (by rfl) parsed).1 2 book done
    obtain rfl := flat "de" texts flattened
    exact ⟨command, formed, (absent (by decide +kernel)).trans (by decide +kernel)⟩

end Command

end Phrasebook
