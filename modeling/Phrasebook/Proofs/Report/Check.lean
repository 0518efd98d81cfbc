import Phrasebook.Command.Run
import Phrasebook.Proofs.Book.PhraseCount
import Phrasebook.Proofs.Template.Substitution

/-!
# Checking a file and defining a locale by it

The report of a file and a definition by its tree go through the same texts in the same order. The
definition stops at the first text that does not compile, and compiles equal texts once; the report
goes on to the end, and compiles each text for itself. `check_agrees_with_define` says that they
accept the same files, count the same, and find fault with the same texts. It rests on two
inductions over the entries of a table: where no text fails, the slots of the texts are those of
the compiled phrases, and where one does, the failure that a definition stops at is the first
problem of the report (`head?_problems`).
-/

namespace Phrasebook

/-! ## Reading a file -/

/-- A path leads to a file with a content. -/
def Files.Holds (files : Files) (path : String) (content : ByteArray) : Prop :=
  ∃ names, files.place path = .ok (.within names) ∧ files.find? names = some content

/-- A file in the directory of the tree is held under its name. -/
theorem Files.holds_of_name {files : Files} {name : String} {content : ByteArray}
    (single : name.splitOn "/" = [name]) (relative : name.startsWith "/" = false)
    (noZero : '\x00' ∉ name.toList) (short : name.utf8ByteSize ≤ nameLimit)
    (ordinary : name ≠ "" ∧ name ≠ "." ∧ name ≠ "..") (stored : files.find? [name] = some content) :
    files.Holds name content := by
  obtain ⟨nonempty, noDot, noDots⟩ := ordinary
  have step : files.step (.within []) name = .ok (.within [name]) := by
    have known : files.has [name] = true := by simp [has, stored]
    simp [Files.step, isDirectory, nonempty, noDot, noDots, short, known]
  refine ⟨[name], ?_, stored⟩
  have notLong : ¬ pathLimit < name.utf8ByteSize := by
    have limits : nameLimit < pathLimit := by decide
    omega
  rw [place, if_neg (by simpa using noZero), if_neg nonempty, if_neg notLong, single, start,
    if_neg (by simp [relative]), List.foldlM_cons, step]
  rfl

theorem Files.Holds.read {files : Files} {path : String} {content : ByteArray}
    (held : files.Holds path content) :
    files.read path = (String.fromUTF8? content).elim (.error .notText) .ok := by
  obtain ⟨names, found, stored⟩ := held
  cases decoded : String.fromUTF8? content <;> simp [Files.read, found, stored, decoded]

theorem Files.read_eq_ok_iff {files : Files} {path : String} {content : ByteArray}
    (held : files.Holds path content) {text : String} :
    files.read path = .ok text ↔ String.fromUTF8? content = some text := by
  rw [held.read]
  cases String.fromUTF8? content <;> simp

/-- The bytes of a text are decoded to the text. -/
theorem Files.fromUTF8?_toUTF8 (text : String) : String.fromUTF8? text.toUTF8 = some text := by
  simp [String.fromUTF8?, String.fromUTF8, text.isValidUTF8]

theorem Files.Holds.read_text {files : Files} {path text : String}
    (held : files.Holds path text.toUTF8) : files.read path = .ok text :=
  (Files.read_eq_ok_iff held).mpr (Files.fromUTF8?_toUTF8 text)

theorem PhraseFile.readTree_eq_ok_iff {read : FileReader} {path : String} {tree : Json} :
    readTree read path = .ok tree ↔ ∃ text, read path = .ok text ∧ Json.read text = .ok tree := by
  unfold readTree
  cases read path with
  | error failure => simp
  | ok content => cases parsed : Json.read content <;> simp [Except.mapError, parsed]

namespace FileReport

variable {read : FileReader} {path locale : String} {tree : Json}

/-- The report of a file depends on what is read from it alone. -/
theorem ofFile_congr {other : FileReader} (same : other path = read path) :
    ofFile other path = ofFile read path := by
  simp only [ofFile, PhraseFile.readTree, same]

/-- A file that is no phrase tree has no texts to report. -/
theorem ofFile_of_refused {error : TreeError} (parsed : PhraseFile.readTree read path = .ok tree)
    (refused : PhraseTree.flatten (PhraseFile.locale path) tree = .error error) :
    ofFile read path = unreadable path error.message := by
  unfold ofFile
  simp only [parsed, refused]

/-! ## The problems of texts -/

theorem problem?_eq_none_iff {key text : String} :
    problem? key text = none ↔ ∃ phrase, Phrase.compile text = .ok phrase := by
  unfold problem?
  cases Phrase.compile text <;> simp

theorem problem?_eq_some_iff {key text : String} {problem : Problem} :
    problem? key text = some problem ↔
      ∃ error, Phrase.compile text = .error error ∧
        problem = ⟨some key, error.position, error.message⟩ := by
  unfold problem? FileReport.problem
  cases Phrase.compile text <;> simp [eq_comm]

theorem key_of_problem? {key text : String} {problem : Problem}
    (found : problem? key text = some problem) : problem.key = some key := by
  obtain ⟨error, -, rfl⟩ := problem?_eq_some_iff.mp found
  rfl

theorem mem_problems_iff {texts : Table String} {problem : Problem} :
    problem ∈ (ofTexts path texts).problems ↔
      ∃ key text error, texts.get? key = some text ∧ Phrase.compile text = .error error ∧
        problem = ⟨some key, error.position, error.message⟩ := by
  rw [ofTexts, List.mem_filterMap]
  constructor
  · rintro ⟨⟨key, text⟩, member, found⟩
    obtain ⟨error, failed, rfl⟩ := problem?_eq_some_iff.mp found
    exact ⟨key, text, error, Table.mem_entries_iff.mp member, failed, rfl⟩
  · rintro ⟨key, text, error, found, failed, rfl⟩
    exact ⟨(key, text), Table.mem_entries_iff.mpr found,
      problem?_eq_some_iff.mpr ⟨error, failed, rfl⟩⟩

/-- Texts have no problem iff they all compile. -/
theorem problems_eq_nil_iff {texts : Table String} :
    (ofTexts path texts).problems = [] ↔
      ∀ key text, texts.get? key = some text → ∃ phrase, Phrase.compile text = .ok phrase := by
  rw [ofTexts, List.filterMap_eq_nil_iff]
  constructor
  · intro clean key text found
    exact problem?_eq_none_iff.mp (clean (key, text) (Table.mem_entries_iff.mpr found))
  · rintro compiles ⟨key, text⟩ member
    exact problem?_eq_none_iff.mpr (compiles key text (Table.mem_entries_iff.mp member))

/-- A file has no problem iff it holds a tree whose texts all compile, whatever locale the tree is
taken for. -/
theorem problems_ofFile_eq_nil_iff (locale : String) :
    (ofFile read path).problems = [] ↔
      ∃ tree texts, PhraseFile.readTree read path = .ok tree ∧
        PhraseTree.flatten locale tree = .ok texts ∧
        ∀ key text, texts.get? key = some text → ∃ phrase, Phrase.compile text = .ok phrase := by
  constructor
  · intro clean
    cases parsed : PhraseFile.readTree read path with
    | error message => simp [ofFile, parsed, unreadable] at clean
    | ok tree =>
        cases flattened : PhraseTree.flatten (PhraseFile.locale path) tree with
        | error error =>
            rw [ofFile_of_refused parsed flattened] at clean
            cases clean
        | ok texts =>
            rw [ofFile_of_flatten parsed flattened] at clean
            exact ⟨tree, texts, rfl, PhraseTree.flatten_locale flattened locale,
              problems_eq_nil_iff.mp clean⟩
  · rintro ⟨tree, texts, parsed, flattened, compiles⟩
    rw [ofFile_of_flatten parsed flattened]
    exact problems_eq_nil_iff.mpr compiles

/-- The problems of texts come in the order of their keys. -/
theorem ascending_problems (path : String) (texts : Table String) :
    ((ofTexts path texts).problems.filterMap (·.key)).Pairwise (· < ·) := by
  rw [ofTexts, List.filterMap_filterMap]
  refine texts.ascending.filterMap _ ?_
  intro entry other smaller key found otherKey otherFound
  obtain ⟨problem, here, named⟩ := Option.bind_eq_some_iff.mp found
  obtain ⟨otherProblem, there, otherNamed⟩ := Option.bind_eq_some_iff.mp otherFound
  rw [key_of_problem? here] at named
  rw [key_of_problem? there] at otherNamed
  cases named
  cases otherNamed
  exact smaller

/-! ## Compiling all texts and compiling up to the first failure -/

/-- The failure at which compiling in order stops is the first problem. -/
theorem head?_problems {entries : Entries String} {key : String} {error : CompileError}
    (stopped : entries.tryMap (Catalog.compileAt locale) = .error (.phrase locale key error)) :
    (entries.filterMap fun entry => problem? entry.1 entry.2).head? =
      some ⟨some key, error.position, error.message⟩ := by
  induction entries with
  | nil => cases stopped
  | cons entry rest ih =>
      obtain ⟨name, text⟩ := entry
      rcases Entries.tryMap_cons_eq_error_iff.mp stopped with failed | ⟨⟨phrase, compiled⟩, later⟩
      · obtain ⟨cause, failed, same⟩ := Catalog.compileAt_eq_error_iff.mp failed
        cases same
        have found : problem? key text = some ⟨some key, error.position, error.message⟩ :=
          problem?_eq_some_iff.mpr ⟨error, failed, rfl⟩
        simp only [List.filterMap_cons, found, List.head?_cons]
      · have clean : problem? name text = none :=
          problem?_eq_none_iff.mpr ⟨phrase, Catalog.compileAt_eq_ok_iff.mp compiled⟩
        simp only [List.filterMap_cons, clean]
        exact ih later

/-- A text that compiles is counted with the slots of its phrase. -/
theorem slotCount_of_compile {text : String} {phrase : Phrase}
    (compiled : Phrase.compile text = .ok phrase) : slotCount text = phrase.slots.length := by
  rw [slotCount, compiled]
  cases phrase <;> simp [Phrase.slotCount, Phrase.slots]

/-- The slots of texts that all compile are those of the compiled phrases. -/
theorem slotCounts_of_tryMap {entries : Entries String} {compiled : Entries Phrase}
    (success : entries.tryMap (Catalog.compileAt locale) = .ok compiled) :
    (entries.map fun entry => slotCount entry.2) =
      compiled.map fun entry => entry.2.slots.length := by
  induction entries generalizing compiled with
  | nil =>
      cases success
      rfl
  | cons entry rest ih =>
      obtain ⟨phrase, others, here, behind, rfl⟩ := Entries.tryMap_cons_eq_ok_iff.mp success
      rw [List.map_cons, List.map_cons, ih behind,
        slotCount_of_compile (Catalog.compileAt_eq_ok_iff.mp here)]

theorem phrases_ofTexts {texts : Table String} {phrases : Table Phrase}
    (success : Catalog.compilePhrases locale texts = .ok phrases) :
    (ofTexts path texts).phrases = phrases.size := by
  rw [Table.size_eq_length_names, Catalog.names_of_compilePhrases success,
    ← Table.size_eq_length_names]
  rfl

theorem slots_ofTexts {texts : Table String} {phrases : Table Phrase}
    (success : Catalog.compilePhrases locale texts = .ok phrases) :
    (ofTexts path texts).slots = (phrases.entries.map fun entry => entry.2.slots.length).sum := by
  rw [ofTexts, slotCounts_of_tryMap (Catalog.tryMap_of_compilePhrases success), List.sum]

/-! ## Reports and definitions -/

variable {book after : Book} {overrides : Scope}

/-- The report of a file counts what a definition by its tree stores. -/
theorem counts_of_define (parsed : PhraseFile.readTree read path = .ok tree) {count : Nat}
    (done : book.define ⟨locale, tree, overrides⟩ = (.ok count, after)) :
    (ofFile read path).phrases = count ∧
      ∃ catalog, after.catalogs.get? locale = some catalog ∧
        (ofFile read path).slots =
          (catalog.phrases.entries.map fun entry => entry.2.slots.length).sum := by
  obtain ⟨catalog, made, rfl, rfl⟩ := Book.define_eq_ok_iff.mp done
  obtain ⟨texts, phrases, flattened, compiled, rfl⟩ := Catalog.ofDefinition_eq_ok_iff.mp made
  rw [ofFile_of_flatten parsed flattened]
  exact ⟨phrases_ofTexts compiled, _, Table.get?_insert_self _ _ _, slots_ofTexts compiled⟩

/-- Where a definition stops at a phrase, the report goes on, and begins with that phrase. -/
theorem problems_of_define (parsed : PhraseFile.readTree read path = .ok tree)
    {named key : String} {error : CompileError}
    (failed : book.define ⟨locale, tree, overrides⟩ =
      (.error (.catalog (.phrase named key error)), after)) :
    ∃ texts, PhraseTree.flatten locale tree = .ok texts ∧
      (∀ problem, problem ∈ (ofFile read path).problems ↔
        ∃ name text failure, texts.get? name = some text ∧
          Phrase.compile text = .error failure ∧
          problem = ⟨some name, failure.position, failure.message⟩) ∧
      ((ofFile read path).problems.filterMap (·.key)).Pairwise (· < ·) ∧
      (ofFile read path).problems.head? = some ⟨some key, error.position, error.message⟩ := by
  obtain ⟨texts, flattened, stopped⟩ :=
    Catalog.ofDefinition_eq_phrase_iff.mp (Book.ofDefinition_of_define failed)
  obtain ⟨rfl, -⟩ := Catalog.compilePhrases_eq_phrase_iff.mp stopped
  rw [ofFile_of_flatten parsed flattened]
  exact ⟨texts, flattened, fun problem => mem_problems_iff, ascending_problems path texts,
    head?_problems (Catalog.compilePhrases_eq_error_iff.mp stopped)⟩

end FileReport

namespace Command

theorem code_runCheck_iff {read : FileReader} {request : CheckRequest} :
    (runCheck read request).code = 0 ↔
      ∀ file ∈ request.files, (FileReport.ofFile read file).problems = [] := by
  have clean : (request.files.map (FileReport.ofFile read)).all FileReport.isClean = true ↔
      ∀ file ∈ request.files, (FileReport.ofFile read file).problems = [] := by
    simp [FileReport.isClean]
  rw [← clean, runCheck, Outcome.printed]
  split <;> simp_all [Outcome.okCode, Outcome.dataCode]

/-- Each file has a line of its own in the output. -/
theorem output_runCheck (read : FileReader) (front back : List String) (path : String) :
    (runCheck read ⟨front ++ path :: back, false⟩).output =
      (runCheck read ⟨front, false⟩).output ++ ((FileReport.ofFile read path).line ++ "\n") ++
        (runCheck read ⟨back, false⟩).output := by
  simp [runCheck, Outcome.printed, String.join_append, String.join_cons, String.append_assoc]

theorem output_runCheck_json (read : FileReader) (names : List String) :
    (runCheck read ⟨names, true⟩).output =
      (Json.array (names.map fun name => (FileReport.ofFile read name).toJson)).indented ++
        "\n" := by
  simp [runCheck, Outcome.printed, String.join_cons, Function.comp_def]

/-- **A report agrees with a definition.** A file is reported without problem iff its content is
the text of a document that defines a locale, whichever locale that is. The report then counts as
many phrases as the definition answers, and as many slots as the phrases of the catalog have. A
definition that is refused for a phrase leaves a problem for every key whose text does not compile,
in the order of the keys, and the first is the one that the definition names. A definition that is
refused for its tree leaves the message of that as the only problem; where it names the locale, the
report names that of the file. The report of a file depends on its path and its content alone, the
output is the reports in the order of the files, and the exit code is zero iff no file of the
request has a problem. -/
theorem check_agrees_with_define {files : Files} {path : String} {content : ByteArray}
    (held : files.Holds path content) (book : Book) (locale : String) (overrides : Scope) :
    let report := FileReport.ofFile files.read path
    (report.problems = [] ↔
      ∃ text tree count after, String.fromUTF8? content = some text ∧ Json.read text = .ok tree ∧
        book.define ⟨locale, tree, overrides⟩ = (.ok count, after)) ∧
    (∀ text tree, String.fromUTF8? content = some text → Json.read text = .ok tree →
      (∀ count after, book.define ⟨locale, tree, overrides⟩ = (.ok count, after) →
        report.phrases = count ∧
          ∃ catalog, after.catalogs.get? locale = some catalog ∧
            report.slots =
              (catalog.phrases.entries.map fun entry => entry.2.slots.length).sum) ∧
      (∀ named key error after,
        book.define ⟨locale, tree, overrides⟩ =
            (.error (.catalog (.phrase named key error)), after) →
        ∃ texts, PhraseTree.flatten locale tree = .ok texts ∧
          (∀ problem, problem ∈ report.problems ↔
            ∃ name text failure, texts.get? name = some text ∧
              Phrase.compile text = .error failure ∧
              problem = ⟨some name, failure.position, failure.message⟩) ∧
          (report.problems.filterMap (·.key)).Pairwise (· < ·) ∧
          report.problems.head? = some ⟨some key, error.position, error.message⟩) ∧
      (∀ key kind after,
        book.define ⟨locale, tree, overrides⟩ =
            (.error (.catalog (.tree (.invalidLeaf key kind))), after) →
        report.problems =
          [⟨none, ⟨0, 0⟩, (DefineError.catalog (.tree (.invalidLeaf key kind))).message⟩]) ∧
      (∀ named kind after,
        book.define ⟨locale, tree, overrides⟩ =
            (.error (.catalog (.tree (.invalidRoot named kind))), after) →
        report.problems =
          [⟨none, ⟨0, 0⟩, (TreeError.invalidRoot (PhraseFile.locale path) kind).message⟩]) ∧
      ∀ error after,
        book.define ⟨PhraseFile.locale path, tree, overrides⟩ =
            (.error (.catalog (.tree error)), after) →
        report.problems = [⟨none, ⟨0, 0⟩, (DefineError.catalog (.tree error)).message⟩]) ∧
    (∀ other : Files, other.Holds path content → FileReport.ofFile other.read path = report) ∧
    (∀ front back, (runCheck files.read ⟨front ++ path :: back, false⟩).output =
      (runCheck files.read ⟨front, false⟩).output ++ (report.line ++ "\n") ++
        (runCheck files.read ⟨back, false⟩).output) ∧
    (∀ names, (runCheck files.read ⟨names, true⟩).output =
      (Json.array (names.map fun name => (FileReport.ofFile files.read name).toJson)).indented ++
        "\n") ∧
    ∀ request, (runCheck files.read request).code = 0 ↔
      ∀ file ∈ request.files, (FileReport.ofFile files.read file).problems = [] := by
  intro report
  have reads : ∀ tree, PhraseFile.readTree files.read path = .ok tree ↔
      ∃ text, String.fromUTF8? content = some text ∧ Json.read text = .ok tree := by
    intro tree
    simp only [PhraseFile.readTree_eq_ok_iff, Files.read_eq_ok_iff held]
  refine ⟨?_, ?_, ?_, fun front back => output_runCheck files.read front back path,
    output_runCheck_json files.read, fun request => code_runCheck_iff⟩
  · rw [FileReport.problems_ofFile_eq_nil_iff locale]
    constructor
    · rintro ⟨tree, texts, parsed, accepted⟩
      obtain ⟨text, decoded, read⟩ := (reads tree).mp parsed
      obtain ⟨count, after, done⟩ :=
        (Book.exists_define_eq_ok_iff book ⟨locale, tree, overrides⟩).mpr ⟨texts, accepted⟩
      exact ⟨text, tree, count, after, decoded, read, done⟩
    · rintro ⟨text, tree, count, after, decoded, read, done⟩
      obtain ⟨texts, accepted⟩ :=
        (Book.exists_define_eq_ok_iff book ⟨locale, tree, overrides⟩).mp ⟨count, after, done⟩
      exact ⟨tree, texts, (reads tree).mpr ⟨text, decoded, read⟩, accepted⟩
  · intro text tree decoded read
    have parsed := (reads tree).mpr ⟨text, decoded, read⟩
    have refused : ∀ {error}, PhraseTree.flatten (PhraseFile.locale path) tree = .error error →
        report.problems = [⟨none, ⟨0, 0⟩, error.message⟩] := by
      intro error flattened
      exact congrArg FileReport.problems (FileReport.ofFile_of_refused parsed flattened)
    have flattened : ∀ {locale error after},
        book.define ⟨locale, tree, overrides⟩ = (.error (.catalog (.tree error)), after) →
        PhraseTree.flatten locale tree = .error error := by
      intro locale error after failed
      exact Catalog.ofDefinition_eq_tree_iff.mp (Book.ofDefinition_of_define failed)
    refine ⟨?_, ?_, ?_, ?_, ?_⟩
    · intro count after done
      exact FileReport.counts_of_define parsed done
    · intro named key error after failed
      exact FileReport.problems_of_define parsed failed
    · intro key kind after failed
      exact refused (PhraseTree.flatten_invalidLeaf (flattened failed) _)
    · intro named kind after failed
      exact refused (PhraseTree.flatten_invalidRoot (flattened failed) _)
    · intro error after failed
      exact refused (flattened failed)
  · intro other otherHeld
    exact FileReport.ofFile_congr (otherHeld.read.trans held.read.symm)

/-- Two keys of a file have one text, which does not compile. A definition by the file names the
smaller key, at which it stops, and the report lists both. Another file defines two phrases with
three slots, and both are reported in the order of the request. -/
theorem check_agrees_with_define_two_failures :
    let spoilt := "\x7b\"b\":\"\x7b\x7bn,f,\x7b\x7d\",\"a\":\x7b\"c\":\"\x7b\x7bn,f,\x7b\x7d\"\x7d\x7d"
    let sound := "\x7b\"b\":\"\x7b\x7bn\x7d\x7d+\x7b\x7bn,f\x7d\x7d\",\"a\":\"\x7b\x7bn\x7d\x7d\"\x7d"
    let error : CompileError := ⟨"\x7b\x7bn,f,\x7b\x7d", ⟨1, 9⟩, .unclosed⟩
    let tree : Json := .object [("a", .object [("c", .string "\x7b\x7bn,f,\x7b\x7d")]),
      ("b", .string "\x7b\x7bn,f,\x7b\x7d")]
    let soundTree : Json := .object
      [("a", .string "\x7b\x7bn\x7d\x7d"), ("b", .string "\x7b\x7bn\x7d\x7d+\x7b\x7bn,f\x7d\x7d")]
    let files : Files := ⟨[(["de"], spoilt.toUTF8), (["en"], sound.toUTF8)], []⟩
    let report := FileReport.ofFile files.read "de"
    let other := FileReport.ofFile files.read "en"
    files.Holds "de" spoilt.toUTF8 ∧ files.Holds "en" sound.toUTF8 ∧
      (Book.new.define ⟨"en", tree, ⟨.empty, .empty⟩⟩).1 =
        .error (.catalog (.phrase "en" "a.c" error)) ∧
      report.problems.head? = some ⟨some "a.c", ⟨1, 9⟩, error.message⟩ ∧
      ⟨some "b", ⟨1, 9⟩, error.message⟩ ∈ report.problems ∧
      (Book.new.define ⟨"en", soundTree, ⟨.empty, .empty⟩⟩).1 = .ok 2 ∧
      other.phrases = 2 ∧ other.slots = 3 ∧ other.problems = [] ∧
      (runCheck files.read ⟨["de", "en"], false⟩).code ≠ 0 ∧
      (runCheck files.read ⟨["de", "en"], false⟩).output =
        "✗ de: 2 errors\n✓ en: 2 phrases, 3 placeholders\n" ∧
      (runCheck files.read ⟨["en"], false⟩).code = 0 := by
  intro spoilt sound error tree soundTree files report other
  have held : files.Holds "de" spoilt.toUTF8 :=
    Files.holds_of_name (by cbv) (by decide +kernel) (by decide +kernel) (by decide +kernel)
      (by decide) (by rfl)
  have otherHeld : files.Holds "en" sound.toUTF8 :=
    Files.holds_of_name (by cbv) (by decide +kernel) (by decide +kernel) (by decide +kernel)
      (by decide) (by rfl)
  obtain ⟨after, failed⟩ : ∃ after, Book.new.define ⟨"en", tree, ⟨.empty, .empty⟩⟩ =
      (.error (.catalog (.phrase "en" "a.c" error)), after) := ⟨_, by rfl⟩
  obtain ⟨book, done⟩ : ∃ book, Book.new.define ⟨"en", soundTree, ⟨.empty, .empty⟩⟩ =
      (.ok 2, book) := ⟨_, by rfl⟩
  obtain ⟨-, outcomes, -, lines, -, exit⟩ :=
    check_agrees_with_define held Book.new "en" ⟨.empty, .empty⟩
  obtain ⟨-, stops, -⟩ := outcomes _ tree (Files.fromUTF8?_toUTF8 spoilt) (by cbv)
  obtain ⟨texts, flattened, problems, -, first⟩ := stops _ _ _ _ failed
  obtain rfl :
      .ofEntries [("a.c", "\x7b\x7bn,f,\x7b\x7d"), ("b", "\x7b\x7bn,f,\x7b\x7d")] = texts :=
    Except.ok.inj (Eq.trans (by rfl) flattened)
  obtain ⟨accepted, counts, -, otherLines, -⟩ :=
    check_agrees_with_define otherHeld Book.new "en" ⟨.empty, .empty⟩
  have parsed : Json.read sound = .ok soundTree := by cbv
  obtain ⟨phrases, catalog, found, slots⟩ :=
    (counts _ soundTree (Files.fromUTF8?_toUTF8 sound) parsed).1 2 book done
  have clean : other.problems = [] :=
    accepted.mpr ⟨_, soundTree, 2, book, Files.fromUTF8?_toUTF8 sound, parsed, done⟩
  -- What is reported of a file depends on what is read from it alone.
  have line : report.line = "✗ de: 2 errors" := by
    have same : FileReport.ofFile (fun _ => .ok spoilt) "de" = report :=
      FileReport.ofFile_congr held.read_text.symm
    rw [← same]
    decide +kernel
  have otherLine : other.line = "✓ en: 2 phrases, 3 placeholders" := by
    have same : FileReport.ofFile (fun _ => .ok sound) "en" = other :=
      FileReport.ofFile_congr otherHeld.read_text.symm
    rw [← same]
    decide +kernel
  refine ⟨held, otherHeld, congrArg Prod.fst failed, first, ?_, congrArg Prod.fst done, phrases,
    ?_, clean, ?_, ?_, ?_⟩
  · exact (problems _).mpr ⟨"b", "\x7b\x7bn,f,\x7b\x7d", error, by rfl, by rfl, rfl⟩
  · have counted : ((Book.new.define ⟨"en", soundTree, ⟨.empty, .empty⟩⟩).2.catalogs.get? "en").map
        (fun catalog => (catalog.phrases.entries.map fun entry => entry.2.slots.length).sum) =
          some 3 := by rfl
    rw [done, found] at counted
    exact slots.trans (Option.some.inj counted)
  · intro zero
    have clean := (exit ⟨["de", "en"], false⟩).mp zero "de" List.mem_cons_self
    rw [clean] at first
    cases first
  · have alone := otherLines [] []
    rw [List.nil_append] at alone
    refine (lines [] ["en"]).trans ?_
    rw [line, alone, otherLine]
    rfl
  · exact (exit ⟨["en"], false⟩).mpr fun file member => List.mem_singleton.mp member ▸ clean

end Command

end Phrasebook
